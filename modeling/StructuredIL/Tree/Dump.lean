import StructuredIL.Tree.Text

/-!
# Dumps

A dump writes a function over several lines, nested parts further to the right. It is the notation
of the nodes with its blocks, containers and conditionals unfolded; all other nodes keep to one
line.

The indent is a setting and so may be any document value. What stands before a line at depth `n` is
the indent taken `n` times: a text or a list repeated, a number multiplied, as `Value.times` says.
An object or the absent value cannot be taken `n` times, and a dump with such an indent fails at its
first nested line. A line that would show too long an integer fails as well.
-/

namespace StructuredIL

/-! ### Multiples of a value -/

/-- A value taken a number of times: texts and lists are repeated, numbers multiplied, and a truth
value is the integer it stands for. -/
def Value.times (v : Value) (n : Int) : Option Value :=
  match v with
  | .string s => some (.string (List.replicate n.toNat s).flatten)
  | .list items => some (.list (List.replicate n.toNat items).flatten)
  | .int m => some (.int (m * n))
  | .bool b => some (.int (if b then n else 0))
  | .float x => some (.float (x.mul (.ofInt n)))
  | .object _ => none
  | .null => none

/-! ### Faults -/

/-- Why a tree cannot be dumped. -/
inductive DumpFault where
  /-- The indent cannot be taken a number of times. -/
  | indentNotRepeatable
  /-- An integer is too long to be written. -/
  | integerTooLong
  deriving DecidableEq, Repr

namespace Dump

/-- What stands before a line at a depth. -/
def margin (indent : Value) (depth : Int) : Except DumpFault Text :=
  match indent.times depth with
  | none => .error .indentNotRepeatable
  | some v => if v.isShowable then .ok v.text else .error .integerTooLong

/-- A line at a depth; `writable` tells whether its text may be written. -/
def line (indent : Value) (depth : Int) (writable : Bool) (text : Text) :
    Except DumpFault Text := do
  let before ← margin indent depth
  if writable then .ok (before ++ text) else .error .integerTooLong

/-- The line that opens a container. -/
def openContainer (head : ContainerHead) : Text := head.text ++ " \x7b"

/-- The line that opens a block. -/
def openBlock (head : BlockHead) : Text :=
  "Block " ++ head.label.text ++ s!" ({head.kind.name}) \x7b"

mutual
/-- The lines of a node at a depth. -/
def nodeLines (indent : Value) (depth : Int) : Node → Except DumpFault (List Text)
  | .container head blocks => do
    let first ← line indent depth head.label.isShowable (openContainer head)
    let inner ← blocksLines indent (depth + 1) blocks
    let last ← line indent depth true "\x7d"
    return first :: inner ++ [last]
  | .block b => blockLines indent depth b
  | .cond c yes no => do
    let first ← line indent depth c.isWritable ("if (" ++ c.text ++ ") \x7b")
    let inner ← nodeLines indent (depth + 1) yes
    let other ←
      if no.isEmptyStatement then pure []
      else do
        let middle ← line indent depth true "\x7d else \x7b"
        let inner ← nodeLines indent (depth + 1) no
        pure (middle :: inner)
    let last ← line indent depth true "\x7d"
    return first :: inner ++ other ++ [last]
  | n => do
    let only ← line indent depth n.isWritable n.text
    return [only]

/-- The lines of a block at a depth. -/
def blockLines (indent : Value) (depth : Int) : Block → Except DumpFault (List Text)
  | ⟨head, instructions⟩ => do
    let first ← line indent depth head.label.isShowable (openBlock head)
    let inner ← nodesLines indent (depth + 1) instructions
    let last ← line indent depth true "\x7d"
    return first :: inner ++ [last]

/-- The lines of some nodes at a depth. -/
def nodesLines (indent : Value) (depth : Int) : List Node → Except DumpFault (List Text)
  | [] => return []
  | n :: rest => do
    let lines ← nodeLines indent depth n
    let others ← nodesLines indent depth rest
    return lines ++ others

/-- The lines of some blocks at a depth. -/
def blocksLines (indent : Value) (depth : Int) : List Block → Except DumpFault (List Text)
  | [] => return []
  | b :: rest => do
    let lines ← blockLines indent depth b
    let others ← blocksLines indent depth rest
    return lines ++ others
end

/-- The line of a variable. -/
def variableLine (indent : Value) (v : Variable) : Except DumpFault Text :=
  if indent.isShowable then .ok (indent.text ++ "var " ++ v.name ++ ": " ++ v.type.name)
  else .error .integerTooLong

end Dump

/-- The lines of a function's dump. -/
def Function.dumpLines (indent : Value) (f : Function) : Except DumpFault (List Text) := do
  let locals ← f.locals.mapM (Dump.variableLine indent)
  let body ← Dump.nodeLines indent 1 f.body
  return ("function " ++ f.name) :: locals ++ body

/-- The dump of a function, in one text. -/
def Function.dump (indent : Value) (f : Function) : Except DumpFault Text :=
  Text.joined "\n" <$> f.dumpLines indent

end StructuredIL
