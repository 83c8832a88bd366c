import StructuredIL.Vocabulary

/-!
# The vocabularies of the tree

The six vocabularies that the nodes of a tree draw on. Each is a type of its own, so that a block
cannot be given a container's kind; what they have in common, names, numbers and spellings, is that
each is a `Vocabulary`. Only part of every vocabulary can be lowered. The rest is there so that a
document that uses it can be loaded, shown and diagnosed.
-/

namespace StructuredIL

/-- What an instruction is, as a number of the instruction set. -/
inductive Opcode where
  /-- Nothing. -/
  | nop
  /-- A store to a variable. -/
  | stloc
  /-- A jump to a block. -/
  | branch
  /-- An exit from a container. -/
  | leave
  /-- A conditional. -/
  | ifInstruction
  /-- A call. -/
  | call
  /-- A block. -/
  | block
  /-- A container of blocks. -/
  | blockContainer
  /-- A constant. -/
  | ldcI4
  /-- A load of a variable. -/
  | ldloc
  /-- A comparison. -/
  | comp
  /-- Arithmetic on two operands. -/
  | binaryNumeric
  deriving DecidableEq, Repr, Inhabited

namespace Opcode

/-- The name of a member. -/
def name : Opcode → String
  | .nop => "NOP"
  | .stloc => "STLOC"
  | .branch => "BRANCH"
  | .leave => "LEAVE"
  | .ifInstruction => "IF_INSTRUCTION"
  | .call => "CALL"
  | .block => "BLOCK"
  | .blockContainer => "BLOCK_CONTAINER"
  | .ldcI4 => "LDC_I4"
  | .ldloc => "LDLOC"
  | .comp => "COMP"
  | .binaryNumeric => "BINARY_NUMERIC"

/-- The number of a member. -/
def code : Opcode → Nat
  | .nop => 0
  | .stloc => 1
  | .branch => 2
  | .leave => 3
  | .ifInstruction => 4
  | .call => 5
  | .block => 10
  | .blockContainer => 11
  | .ldcI4 => 20
  | .ldloc => 21
  | .comp => 22
  | .binaryNumeric => 23

/-- All members, in order. -/
def all : List Opcode := [
  .nop, .stloc, .branch, .leave, .ifInstruction, .call, .block, .blockContainer, .ldcI4, .ldloc,
  .comp, .binaryNumeric]

instance : Vocabulary Opcode := ⟨all, name, code, fun a ↦ by cases a <;> rfl⟩

end Opcode

/-- What a container stands for. -/
inductive ContainerKind where
  /-- A scope. -/
  | normal
  /-- An endless loop. -/
  | loop
  /-- A choice among many. -/
  | switch
  /-- A loop with its test in front. -/
  | while
  /-- A loop with its test behind. -/
  | doWhile
  /-- A counting loop. -/
  | for
  deriving DecidableEq, Repr, Inhabited

namespace ContainerKind

/-- The name of a member. -/
def name : ContainerKind → String
  | .normal => "NORMAL"
  | .loop => "LOOP"
  | .switch => "SWITCH"
  | .while => "WHILE"
  | .doWhile => "DO_WHILE"
  | .for => "FOR"

/-- The number of a member. -/
def code : ContainerKind → Nat
  | .normal => 0
  | .loop => 1
  | .switch => 2
  | .while => 3
  | .doWhile => 4
  | .for => 5

/-- All members, in order. -/
def all : List ContainerKind := [
  .normal, .loop, .switch, .while, .doWhile, .for]

instance : Vocabulary ContainerKind := ⟨all, name, code, fun a ↦ by cases a <;> rfl⟩

end ContainerKind

/-- What a block stands for. -/
inductive BlockKind where
  /-- A sequence of statements. -/
  | controlFlow
  /-- The filling of an array. -/
  | arrayInitializer
  /-- The filling of a collection. -/
  | collectionInitializer
  /-- The filling of an object. -/
  | objectInitializer
  /-- A call with an assignment in it. -/
  | callInlineAssign
  /-- A call with named arguments. -/
  | callWithNamedArgs
  deriving DecidableEq, Repr, Inhabited

namespace BlockKind

/-- The name of a member. -/
def name : BlockKind → String
  | .controlFlow => "CONTROL_FLOW"
  | .arrayInitializer => "ARRAY_INITIALIZER"
  | .collectionInitializer => "COLLECTION_INITIALIZER"
  | .objectInitializer => "OBJECT_INITIALIZER"
  | .callInlineAssign => "CALL_INLINE_ASSIGN"
  | .callWithNamedArgs => "CALL_WITH_NAMED_ARGS"

/-- The number of a member. -/
def code : BlockKind → Nat
  | .controlFlow => 0
  | .arrayInitializer => 1
  | .collectionInitializer => 2
  | .objectInitializer => 3
  | .callInlineAssign => 4
  | .callWithNamedArgs => 5

/-- All members, in order. -/
def all : List BlockKind := [
  .controlFlow, .arrayInitializer, .collectionInitializer, .objectInitializer, .callInlineAssign,
  .callWithNamedArgs]

instance : Vocabulary BlockKind := ⟨all, name, code, fun a ↦ by cases a <;> rfl⟩

end BlockKind

/-- How two operands are compared. -/
inductive ComparisonKind where
  /-- Equal. -/
  | equality
  /-- Not equal. -/
  | inequality
  /-- Less. -/
  | lessThan
  /-- Less or equal. -/
  | lessThanOrEqual
  /-- Greater. -/
  | greaterThan
  /-- Greater or equal. -/
  | greaterThanOrEqual
  deriving DecidableEq, Repr, Inhabited

namespace ComparisonKind

/-- The name of a member. -/
def name : ComparisonKind → String
  | .equality => "EQUALITY"
  | .inequality => "INEQUALITY"
  | .lessThan => "LESS_THAN"
  | .lessThanOrEqual => "LESS_THAN_OR_EQUAL"
  | .greaterThan => "GREATER_THAN"
  | .greaterThanOrEqual => "GREATER_THAN_OR_EQUAL"

/-- The number of a member. -/
def code : ComparisonKind → Nat
  | .equality => 0
  | .inequality => 1
  | .lessThan => 2
  | .lessThanOrEqual => 3
  | .greaterThan => 4
  | .greaterThanOrEqual => 5

/-- All members, in order. -/
def all : List ComparisonKind := [
  .equality, .inequality, .lessThan, .lessThanOrEqual, .greaterThan, .greaterThanOrEqual]

instance : Vocabulary ComparisonKind := ⟨all, name, code, fun a ↦ by cases a <;> rfl⟩

end ComparisonKind

/-- The arithmetic on two operands. -/
inductive BinaryOperator where
  /-- Sum. -/
  | add
  /-- Difference. -/
  | sub
  /-- Product. -/
  | mul
  /-- Quotient. -/
  | div
  /-- Remainder. -/
  | rem
  /-- Bitwise and. -/
  | bitAnd
  /-- Bitwise or. -/
  | bitOr
  /-- Bitwise exclusive or. -/
  | bitXor
  /-- Shift to the left. -/
  | shiftLeft
  /-- Shift to the right. -/
  | shiftRight
  deriving DecidableEq, Repr, Inhabited

namespace BinaryOperator

/-- The name of a member. -/
def name : BinaryOperator → String
  | .add => "ADD"
  | .sub => "SUB"
  | .mul => "MUL"
  | .div => "DIV"
  | .rem => "REM"
  | .bitAnd => "BIT_AND"
  | .bitOr => "BIT_OR"
  | .bitXor => "BIT_XOR"
  | .shiftLeft => "SHIFT_LEFT"
  | .shiftRight => "SHIFT_RIGHT"

/-- The number of a member. -/
def code : BinaryOperator → Nat
  | .add => 0
  | .sub => 1
  | .mul => 2
  | .div => 3
  | .rem => 4
  | .bitAnd => 5
  | .bitOr => 6
  | .bitXor => 7
  | .shiftLeft => 8
  | .shiftRight => 9

/-- All members, in order. -/
def all : List BinaryOperator := [
  .add, .sub, .mul, .div, .rem, .bitAnd, .bitOr, .bitXor, .shiftLeft, .shiftRight]

instance : Vocabulary BinaryOperator := ⟨all, name, code, fun a ↦ by cases a <;> rfl⟩

end BinaryOperator

/-- The type of a variable. -/
inductive PrimitiveType where
  /-- Signed, one byte. -/
  | i1
  /-- Signed, two bytes. -/
  | i2
  /-- Signed, four bytes. -/
  | i4
  /-- Signed, eight bytes. -/
  | i8
  /-- Unsigned, one byte. -/
  | u1
  /-- Unsigned, two bytes. -/
  | u2
  /-- Unsigned, four bytes. -/
  | u4
  /-- Unsigned, eight bytes. -/
  | u8
  /-- Floating, four bytes. -/
  | r4
  /-- Floating, eight bytes. -/
  | r8
  /-- A truth value. -/
  | bool
  /-- A text. -/
  | string
  /-- Anything. -/
  | object
  deriving DecidableEq, Repr, Inhabited

namespace PrimitiveType

/-- The name of a member. -/
def name : PrimitiveType → String
  | .i1 => "I1"
  | .i2 => "I2"
  | .i4 => "I4"
  | .i8 => "I8"
  | .u1 => "U1"
  | .u2 => "U2"
  | .u4 => "U4"
  | .u8 => "U8"
  | .r4 => "R4"
  | .r8 => "R8"
  | .bool => "BOOL"
  | .string => "STRING"
  | .object => "OBJECT"

/-- The number of a member. -/
def code : PrimitiveType → Nat
  | .i1 => 0
  | .i2 => 1
  | .i4 => 2
  | .i8 => 3
  | .u1 => 4
  | .u2 => 5
  | .u4 => 6
  | .u8 => 7
  | .r4 => 8
  | .r8 => 9
  | .bool => 10
  | .string => 11
  | .object => 12

/-- All members, in order. -/
def all : List PrimitiveType := [
  .i1, .i2, .i4, .i8, .u1, .u2, .u4, .u8, .r4, .r8, .bool, .string, .object]

instance : Vocabulary PrimitiveType := ⟨all, name, code, fun a ↦ by cases a <;> rfl⟩

end PrimitiveType

/-- How a comparison is written in the notation of the tree. -/
def ComparisonKind.symbol : ComparisonKind → String
  | .equality => "=="
  | .inequality => "!="
  | .lessThan => "<"
  | .lessThanOrEqual => "<="
  | .greaterThan => ">"
  | .greaterThanOrEqual => ">="

end StructuredIL
