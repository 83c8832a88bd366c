import StructuredIL.Document.Printer
import StructuredIL.Tree.Basic

/-!
# Nodes in writing

Two texts belong to every node: its notation (`Node.text`), which writes a node with its operands,
and its summary (`Node.summary`), which names its class and what tells it from others of its class.
Blocks and containers are large, so the notation gives only their heads.

As with values, the texts are total and the question whether a node may be written is apart from
them: `isWritable` says that no integer in the notation is too long, `hasSummary` the same of the
summary. Every node whose labels and methods are texts and whose constants are machine integers may
be written.

`Node.outline` shows a whole tree by its summaries.
-/

namespace StructuredIL

/-! ### Variables -/

/-- The summary of a variable. -/
def Variable.summary (v : Variable) : Text :=
  "ILVariable(" ++ v.name ++ ": " ++ v.type.name ++ ")"

/-! ### The notation of nodes -/

namespace BlockHead

/-- The summary of a block. -/
def summary (b : BlockHead) : Text := "Block(" ++ b.label.text ++ ", " ++ b.kind.name ++ ")"

end BlockHead

namespace ContainerHead

/-- The notation of a container. -/
def text (c : ContainerHead) : Text :=
  "BlockContainer " ++ c.label.text ++ " (" ++ c.kind.name ++ ")"

/-- The summary of a container. -/
def summary (c : ContainerHead) : Text :=
  "BlockContainer(" ++ c.label.text ++ ", " ++ c.kind.name ++ ")"

end ContainerHead

/-- The notation of a block. -/
def Block.text (b : Block) : Text :=
  "Block " ++ b.head.label.text ++ s!" ({b.instructions.length} instructions)"

namespace Node

mutual
/-- The notation of a node. -/
def text : Node → Text
  | nop => Text.lower Opcode.nop.name
  | bare op => Text.lower op.name
  | constant value => s!"ldc.i4 {value}"
  | load source => "ldloc " ++ source.name
  | compare kind l r => "comp(" ++ l.text ++ " " ++ kind.symbol ++ " " ++ r.text ++ ")"
  | binary op l r => "binary." ++ Text.lower op.name ++ "(" ++ l.text ++ ", " ++ r.text ++ ")"
  | store target value => "stloc " ++ target.name ++ "(" ++ value.text ++ ")"
  | branch target => "br " ++ target.label.text
  | cond c yes no =>
    if no.isEmptyStatement then "if (" ++ c.text ++ ") " ++ yes.text
    else "if (" ++ c.text ++ ") " ++ yes.text ++ " else " ++ no.text
  | call arguments method =>
    "call " ++ method.text ++ "(" ++ Text.joined ", " (texts arguments) ++ ")"
  | leave target value =>
    if value.isNop then "leave " ++ target.label.text
    else "leave " ++ target.label.text ++ " (" ++ value.text ++ ")"
  | block b => b.text
  | container head _ => head.text

/-- The notations of some nodes. -/
def texts : List Node → List Text
  | [] => []
  | n :: rest => n.text :: texts rest
end

mutual
/-- Whether a node may be written in the notation: no integer in it is too long. -/
def isWritable : Node → Bool
  | nop => true
  | bare _ => true
  | constant value => StructuredIL.isWritable value
  | load _ => true
  | compare _ l r => l.isWritable && r.isWritable
  | binary _ l r => l.isWritable && r.isWritable
  | store _ value => value.isWritable
  | branch target => target.label.isShowable
  | cond c yes no => c.isWritable && yes.isWritable && (no.isEmptyStatement || no.isWritable)
  | call arguments method => method.isShowable && areWritable arguments
  | leave target value => target.label.isShowable && value.isWritable
  | block b => b.head.label.isShowable
  | container head _ => head.label.isShowable

/-- Whether all of some nodes may be written. -/
def areWritable : List Node → Bool
  | [] => true
  | n :: rest => n.isWritable && areWritable rest
end

/-! ### Summaries -/

/-- The summary of a node. -/
def summary : Node → Text
  | constant value => s!"LdcI4({value})"
  | load source => "LdLoc(" ++ source.name ++ ")"
  | compare kind _ _ => s!"Comp({kind.name})"
  | binary op _ _ => s!"BinaryNumericInstruction({op.name})"
  | store target _ => "StLoc(" ++ target.name ++ ")"
  | branch target => "Branch(" ++ target.label.text ++ ")"
  | cond c _ _ => "IfInstruction(cond=" ++ c.text ++ ")"
  | call arguments method => "Call(" ++ method.text ++ s!", {arguments.length} args)"
  | leave target _ => "Leave(" ++ target.label.text ++ ")"
  | block b => b.head.summary
  | container head _ => head.summary
  | n => s!"{n.className}()"

/-- Whether a node may be summed up: no integer in its summary is too long. -/
def hasSummary : Node → Bool
  | constant value => StructuredIL.isWritable value
  | branch target => target.label.isShowable
  | cond c _ _ => c.isWritable
  | call _ method => method.isShowable
  | leave target _ => target.label.isShowable
  | block b => b.head.label.isShowable
  | container head _ => head.label.isShowable
  | _ => true

end Node

/-! ### Outlines -/

/-- A tree of titles. -/
inductive Outline where
  /-- A title with the outlines below it. -/
  | entry (title : Text) (parts : List Outline)
  deriving Inhabited

namespace Node

mutual
/-- The summaries of a tree. -/
def outline : Node → Outline
  | nop => .entry nop.summary []
  | bare op => .entry (bare op).summary []
  | constant value => .entry (constant value).summary []
  | load source => .entry (load source).summary []
  | compare kind l r => .entry (compare kind l r).summary [l.outline, r.outline]
  | binary op l r => .entry (binary op l r).summary [l.outline, r.outline]
  | store target value => .entry (store target value).summary [value.outline]
  | branch target => .entry (branch target).summary []
  | cond c yes no => .entry (cond c yes no).summary [c.outline, yes.outline, no.outline]
  | call arguments method => .entry (call arguments method).summary (outlines arguments)
  | leave target value => .entry (leave target value).summary [value.outline]
  | block b => blockOutline b
  | container head blocks => .entry (container head blocks).summary (blockOutlines blocks)

/-- The summaries of a block. -/
def blockOutline : Block → Outline
  | ⟨head, instructions⟩ => .entry head.summary (outlines instructions)

/-- The summaries of some trees. -/
def outlines : List Node → List Outline
  | [] => []
  | n :: rest => n.outline :: outlines rest

/-- The summaries of some blocks. -/
def blockOutlines : List Block → List Outline
  | [] => []
  | b :: rest => blockOutline b :: blockOutlines rest
end

/-- The outline of a tree, if all its nodes can be summed up. -/
def outline? (n : Node) : Option Outline :=
  if n.nodes.all hasSummary then some n.outline else none

end Node

/-! ### Functions -/

namespace Function

/-- The notation of a function. -/
def text (f : Function) : Text :=
  "ILFunction(" ++ f.name ++ s!", {f.locals.length} variables)"

/-- The summary of a function. -/
def summary (f : Function) : Text := "ILFunction(" ++ f.name ++ ")"

end Function

end StructuredIL
