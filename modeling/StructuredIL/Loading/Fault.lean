import StructuredIL.Document.Printer
import StructuredIL.Tree.Kinds

/-!
# Why a document cannot be loaded

Nearly everything that can be wrong with a document is a `FormatError`, with a message that says
what was found where. Three things are not: walking over a value that has nothing to walk over,
looking up an operation by a value that cannot be looked up, and having to write an integer that is
too long to be written. The last one can befall a message itself, so a format error whose message
cannot be written becomes that fault (`LoadFault.ofFormat`).
-/

namespace StructuredIL

/-- The operations that a document may name. -/
inductive Operation where
  /-- The empty instruction. -/
  | nop
  /-- A constant. -/
  | constant
  /-- A load of a variable. -/
  | load
  /-- A store to a variable. -/
  | store
  /-- A comparison. -/
  | compare
  /-- Arithmetic. -/
  | binary
  /-- A conditional. -/
  | cond
  /-- A call. -/
  | call
  /-- A branch. -/
  | branch
  /-- An exit. -/
  | leave
  /-- A block. -/
  | block
  /-- A container. -/
  | container
  deriving DecidableEq, Repr

namespace Operation

/-- How a document writes an operation. -/
def name : Operation → String
  | nop => "nop"
  | constant => "ldc.i4"
  | load => "ldloc"
  | store => "stloc"
  | compare => "comp"
  | binary => "binary"
  | cond => "if"
  | call => "call"
  | branch => "br"
  | leave => "leave"
  | block => "Block"
  | container => "BlockContainer"

/-- All operations. -/
def all : List Operation :=
  [nop, constant, load, store, compare, binary, cond, call, branch, leave, block, container]

/-- The operation that is written this way. -/
def ofName? (t : Text) : Option Operation := all.find? fun op ↦ Text.ofString op.name == t

end Operation

/-- What is wrong with a document. -/
inductive FormatError where
  /-- The text is no document. -/
  | notADocument
  /-- The document is no module. -/
  | notAModule
  /-- A function has no name. -/
  | functionWithoutName
  /-- A variable has no name. -/
  | variableWithoutName (index : Nat)
  /-- Two variables of a function have one name. -/
  | declaredTwice (function variableName : Text)
  /-- A function has no body. -/
  | missingBody (function : Text)
  /-- The body of a function is neither a block nor a container. -/
  | notABody (function : Text) (opcode : Opcode)
  /-- A kind is no text. -/
  | kindNotAString (what : String) (found : Value)
  /-- A kind has no known name. -/
  | unknownKind (what : String) (found : Text)
  /-- A node lacks a member. -/
  | missingMember (operation : Operation) (key : String)
  /-- A variable is not declared. -/
  | undeclared (name : Value)
  /-- A value is no node. -/
  | notANode (found : Value)
  /-- An operation is not known. -/
  | unknownOperation (name : Value)
  /-- A constant is no integer. -/
  | notAnInteger (found : Value)
  /-- A constant does not fit into 32 bits. -/
  | outOfRange (value : Int)
  /-- The arguments of a call are no list. -/
  | argumentsNotAList (found : Value)
  /-- A branch stands in no container. -/
  | branchOutside (target : Value)
  /-- The innermost container has no such block. -/
  | noSuchBlock (target container : Value)
  /-- A leave stands in no container. -/
  | leaveOutside
  /-- There is no such container around a leave. -/
  | noSuchContainer (target : Value)
  /-- The blocks of a container are no list. -/
  | blocksNotAList (container : Value)
  /-- A block of a container is no object. -/
  | blockNotAnObject (container : Value) (index : Nat)

namespace FormatError

/-- What a reader is told. -/
def message : FormatError → Text
  | notADocument => "Invalid JSON5 module: syntax error"
  | notAModule => "Module must be an object with a 'functions' list"
  | functionWithoutName => "Every function needs a name"
  | variableWithoutName index => s!"Variable #{index} needs a name"
  | declaredTwice function variableName =>
    function ++ ": variable " ++ variableName ++ " declared twice"
  | missingBody function => function ++ ": missing body"
  | notABody function opcode =>
    function ++ ": body must be a Block or BlockContainer, got " ++ opcode.name
  | kindNotAString what found => s!"{what} must be a string, got {found.quoted}"
  | unknownKind what found => s!"Unknown {what} {Text.quoted found}"
  | missingMember operation key => s!"'{operation.name}' node is missing '{key}'"
  | undeclared name => s!"Undeclared variable {name.quoted}"
  | notANode found => s!"Expected a node object with an 'op' key, got {found.quoted}"
  | unknownOperation name => s!"Unknown op {name.quoted}"
  | notAnInteger found => s!"ldc.i4 needs an integer value, got {found.quoted}"
  | outOfRange value => s!"ldc.i4 value {value} is outside the int32 range"
  | argumentsNotAList found => s!"call args must be a list, got {found.quoted}"
  | branchOutside target => "br " ++ target.text ++ " outside of a block container"
  | noSuchBlock target container =>
    s!"br target {target.quoted} is not a block of " ++ container.text
  | leaveOutside => "leave outside of a block container"
  | noSuchContainer target => s!"leave target {target.quoted} is not an enclosing container"
  | blocksNotAList container => container.text ++ ": blocks must be a list"
  | blockNotAnObject container index => container.text ++ s!": block #{index} is not an object"

/-- Whether the message can be written: no integer in it is too long. -/
def isWritable : FormatError → Bool
  | kindNotAString _ v => v.isShowable
  | undeclared v => v.isShowable
  | notANode v => v.isShowable
  | unknownOperation v => v.isShowable
  | notAnInteger v => v.isShowable
  | outOfRange n => StructuredIL.isWritable n
  | argumentsNotAList v => v.isShowable
  | branchOutside v => v.isShowable
  | noSuchBlock v w => v.isShowable && w.isShowable
  | noSuchContainer v => v.isShowable
  | blocksNotAList v => v.isShowable
  | blockNotAnObject v _ => v.isShowable
  | _ => true

end FormatError

/-- Why a load fails. -/
inductive LoadFault where
  /-- The document is malformed. -/
  | format (e : FormatError)
  /-- A value that is walked over is neither list nor text nor object. -/
  | notIterable
  /-- An operation is looked up by a list or an object. -/
  | notHashable
  /-- What should be a function is no object at all. -/
  | notAnObject
  /-- An integer is too long to be written. -/
  | integerTooLong

/-- The fault of a malformed document. -/
def LoadFault.ofFormat (e : FormatError) : LoadFault :=
  if e.isWritable then .format e else .integerTooLong

end StructuredIL
