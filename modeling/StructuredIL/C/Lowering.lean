import StructuredIL.C.Code
import StructuredIL.Log

/-!
# Lowering trees to C

Every node has a place as an expression and a place as a statement, and lowering follows the place:
`lowerExpr` makes C expressions and `lowerStmt` statements, of any node. A node that has no
counterpart in C is unsupported. In best-effort mode its diagnostic takes its place and is logged as
a warning, and the rest is lowered all the same; in strict mode the first such node ends the
lowering.

Whether a node is supported is decided before anything below it is lowered. So a node whose
diagnostic is logged has nothing below it logged, and the warnings come in the order in which their
diagnostics stand in the text.

An integer that is too long to be written ends the lowering in both modes.
-/

namespace StructuredIL.C

/-! ### What is not supported -/

/-- What could not be lowered. -/
inductive Unsupported where
  /-- The type of a variable. -/
  | variableType (v : Variable)
  /-- A comparison. -/
  | comparison (kind : ComparisonKind)
  /-- An operator. -/
  | operator (op : BinaryOperator)
  /-- A node in the place of an expression. -/
  | expression (n : Node)
  /-- A call with other than one argument. -/
  | call (method : Value) (count : Nat)
  /-- An exit from a container of this kind, with this value. -/
  | leave (kind : ContainerKind) (value : Node)
  /-- A node in the place of a statement. -/
  | statement (n : Node)
  /-- A container of this kind. -/
  | container (kind : ContainerKind)
  /-- A block of this kind. -/
  | block (kind : BlockKind)

namespace Unsupported

/-- What is not supported, in words. -/
def what : Unsupported → Text
  | variableType v => "variable type " ++ v.type.name ++ " " ++ v.name
  | comparison kind => s!"comparison {kind.name}"
  | operator op => s!"binary operator {op.name}"
  | expression n => s!"expression {n.className}"
  | call method count => "call " ++ method.text ++ s!" with {count} arguments"
  | leave kind value => "leave " ++ kind.name ++ " " ++ value.text
  | statement n => s!"statement {n.className}"
  | container kind => s!"block container {kind.name}"
  | block kind => s!"block {kind.name}"

/-- What every diagnostic begins with. -/
def marker : String := "Error: "

/-- The text that takes the place of what is not supported. -/
def diagnostic (u : Unsupported) : Text := marker ++ u.what

/-- Whether the diagnostic can be written: no integer in it is too long. -/
def isWritable : Unsupported → Bool
  | call method _ => method.isShowable
  | leave _ value => value.isWritable
  | _ => true

end Unsupported

/-- Why a lowering ends early. -/
inductive LoweringFault where
  /-- Something is not supported, in strict mode. -/
  | unsupported (u : Unsupported)
  /-- An integer is too long to be written. -/
  | integerTooLong

/-- What to do about what is not supported. -/
inductive Mode where
  /-- Put a diagnostic in its place. -/
  | bestEffort
  /-- Give up. -/
  | strict
  deriving DecidableEq, Repr

/-- A step of a lowering. -/
abbrev Lower := Logged LoweringFault

/-- The diagnostic of what is not supported, where the mode has one. -/
def recover (mode : Mode) (u : Unsupported) : Lower Text :=
  if u.isWritable then
    match mode with
    | .strict => .fail (.unsupported u)
    | .bestEffort => do
      Logged.say .warning .generator u.diagnostic
      return u.diagnostic
  else .fail .integerTooLong

/-! ### Declarations -/

/-- The C type of a type that has one. -/
def typeOf? : PrimitiveType → Option CType
  | .i4 => some .int32
  | .bool => some .bool
  | _ => none

/-- Lowers a variable to its declaration. -/
def lowerDeclaration (mode : Mode) (v : Variable) : Lower Declaration :=
  match typeOf? v.type with
  | some type => return .declares type v.name
  | none => Declaration.diagnostic <$> recover mode (.variableType v)

/-! ### Expressions -/

/-- The C comparison of a comparison that has one. -/
def relationOf? : ComparisonKind → Option Relation
  | .greaterThanOrEqual => some .atLeast
  | .greaterThan => some .greater
  | .lessThan => some .less
  | .equality => some .equal
  | _ => none

/-- Lowers a node in the place of an expression. -/
def lowerExpr (mode : Mode) : Node → Lower Expr
  | .constant value =>
    if isWritable value then return .constant value else .fail .integerTooLong
  | .compare kind l r =>
    match relationOf? kind with
    | none => Expr.diagnostic <$> recover mode (.comparison kind)
    | some rel => do
      let left ← lowerExpr mode l
      let right ← lowerExpr mode r
      return .relation rel left right
  | .load source => return .variableName source.name
  | .binary op l r =>
    if op = .add then do
      let left ← lowerExpr mode l
      let right ← lowerExpr mode r
      return .sum left right
    else Expr.diagnostic <$> recover mode (.operator op)
  | n => Expr.diagnostic <$> recover mode (.expression n)

/-! ### Statements -/

mutual
/-- Lowers a node in the place of a statement. -/
def lowerStmt (mode : Mode) : Node → Lower Stmt
  | .store target value => do
    let value ← lowerExpr mode value
    return .assign target.name value
  | .branch _ => return .nextRound
  | .cond c yes no => do
    let c ← lowerExpr mode c
    let yes ← lowerStmt mode yes
    if no.isEmptyStatement then return .ifThen c yes
    else do
      let no ← lowerStmt mode no
      return .ifElse c yes no
  | .call arguments method =>
    match arguments with
    | [argument] => Stmt.print <$> lowerExpr mode argument
    | _ => Stmt.diagnostic <$> recover mode (.call method arguments.length)
  | .container head blocks =>
    match head.kind with
    | .loop => Stmt.loop <$> lowerBlocks mode blocks
    | .normal => Stmt.scope <$> lowerBlocks mode blocks
    | kind => Stmt.diagnostic <$> recover mode (.container kind)
  | .block b => lowerBlock mode b
  | .leave target value =>
    match target.kind with
    | .loop => return .exitLoop
    | .normal => return .exitFunction
    | kind => Stmt.diagnostic <$> recover mode (.leave kind value)
  | n => Stmt.diagnostic <$> recover mode (.statement n)

/-- Lowers a block to the sequence of its statements. -/
def lowerBlock (mode : Mode) : Block → Lower Stmt
  | ⟨head, instructions⟩ =>
    if head.kind = .controlFlow then Stmt.sequence <$> lowerAll mode instructions
    else Stmt.diagnostic <$> recover mode (.block head.kind)

/-- Lowers some nodes in the place of statements. -/
def lowerAll (mode : Mode) : List Node → Lower (List Stmt)
  | [] => return []
  | n :: rest => do
    let s ← lowerStmt mode n
    let ss ← lowerAll mode rest
    return s :: ss

/-- Lowers some blocks. -/
def lowerBlocks (mode : Mode) : List Block → Lower (List Stmt)
  | [] => return []
  | b :: rest => do
    let s ← lowerBlock mode b
    let ss ← lowerBlocks mode rest
    return s :: ss
end

/-! ### Functions -/

/-- Lowers a function to a file of its own. -/
def lowerFunction (mode : Mode) (f : Function) : Lower SourceFile := do
  Logged.say .debug .generator ("Generating C for " ++ f.name)
  let declarations ← f.locals.mapM (lowerDeclaration mode)
  let body ← lowerStmt mode f.body
  return ⟨Text.lower f.name, declarations, body⟩

/-- The C text of a function. -/
def generate (mode : Mode) (f : Function) : Lower Text := do
  let file ← lowerFunction mode f
  return file.text

/-- The C text of a function as a file holds it, with a line end at its end. -/
def written (mode : Mode) (f : Function) : Lower Text := do
  let text ← generate mode f
  return text ++ "\n"

end StructuredIL.C
