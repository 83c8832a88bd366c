import StructuredIL.Document.Value
import StructuredIL.Tree.Kinds

/-!
# The tree of a function

A structured function without gotos: statements and expressions are nodes of one type, since a
document may put any node in any place, and blocks of nodes are gathered in containers. Control
leaves the order of the text in two ways only. A `branch` goes to the front of a block, and a
`leave` goes to the end of a container.

A branch does not hold its target, which would make the tree a graph, but the target's head: its
kind, its label, and a serial number that no other block or container of the same function has. Two
heads with one serial number are one block, whatever their labels, so "this branch goes to that
block" is an equation between numbers.

Labels and the names of called methods are document values, not texts: a document may put any value
there.
-/

namespace StructuredIL

/-! ### Variables -/

/-- A local variable. -/
structure Variable where
  /-- Its name. -/
  name : Text
  /-- Its type. -/
  type : PrimitiveType
  /-- Its place among the variables of its function, if it belongs to one. -/
  index : Option Int
  deriving DecidableEq, Repr, Inhabited

/-- Whether two variables are one: their types are not asked. -/
def Variable.same (v w : Variable) : Bool := v.name == w.name && v.index == w.index

/-! ### Nodes -/

/-- What is known of a block from outside. -/
structure BlockHead where
  /-- The number that tells it from every other block and container of its function. -/
  serial : Nat
  /-- What it stands for. -/
  kind : BlockKind
  /-- Its label. -/
  label : Value
  deriving Repr, Inhabited

/-- What is known of a container from outside. -/
structure ContainerHead where
  /-- The number that tells it from every other block and container of its function. -/
  serial : Nat
  /-- What it stands for. -/
  kind : ContainerKind
  /-- Its label. -/
  label : Value
  deriving Repr, Inhabited

mutual
/-- A sequence of instructions. -/
structure Block where
  /-- What is known of it from outside. -/
  head : BlockHead
  /-- Its instructions, in order. -/
  instructions : List Node

/-- A node of a tree. -/
inductive Node where
  /-- Nothing; also what stands where an optional part is absent. -/
  | nop
  /-- An instruction of which only the opcode is known. -/
  | bare (opcode : Opcode)
  /-- A constant. -/
  | constant (value : Int)
  /-- The value of a variable. -/
  | load (source : Variable)
  /-- A comparison of two operands. -/
  | compare (kind : ComparisonKind) (left right : Node)
  /-- Arithmetic on two operands. -/
  | binary (operator : BinaryOperator) (left right : Node)
  /-- A store of a value to a variable. -/
  | store (target : Variable) (value : Node)
  /-- A jump to the front of a block. -/
  | branch (target : BlockHead)
  /-- A conditional with two arms. -/
  | cond (condition yes no : Node)
  /-- A call of an external method. -/
  | call (arguments : List Node) (method : Value)
  /-- An exit to the end of a container, with a value. -/
  | leave (target : ContainerHead) (value : Node)
  /-- A block. -/
  | block (body : Block)
  /-- Blocks in a scope of their own, entered at the first. -/
  | container (head : ContainerHead) (blocks : List Block)
end

instance : Inhabited Node := ⟨.nop⟩

instance : Inhabited Block := ⟨⟨default, []⟩⟩

/-- A function: its name, its variables in the order of their declaration, and its body. -/
structure Function where
  /-- Its name. -/
  name : Text
  /-- Its variables. -/
  locals : List Variable
  /-- Its body. -/
  body : Node
  deriving Inhabited

namespace Node

/-! ### Classification -/

/-- The opcode of a node. -/
def opcode : Node → Opcode
  | nop => .nop
  | bare op => op
  | constant _ => .ldcI4
  | load _ => .ldloc
  | compare _ _ _ => .comp
  | binary _ _ _ => .binaryNumeric
  | store _ _ => .stloc
  | branch _ => .branch
  | cond _ _ _ => .ifInstruction
  | call _ _ => .call
  | leave _ _ => .leave
  | block _ => .block
  | container _ _ => .blockContainer

/-- The word for what a node is, as diagnostics use it. -/
def className : Node → String
  | nop => "Nop"
  | bare _ => "ILInstruction"
  | constant _ => "LdcI4"
  | load _ => "LdLoc"
  | compare _ _ _ => "Comp"
  | binary _ _ _ => "BinaryNumericInstruction"
  | store _ _ => "StLoc"
  | branch _ => "Branch"
  | cond _ _ _ => "IfInstruction"
  | call _ _ => "Call"
  | leave _ _ => "Leave"
  | block _ => "Block"
  | container _ _ => "BlockContainer"

/-- Whether a node is the empty one. -/
def isNop : Node → Bool
  | nop => true
  | _ => false

end Node

mutual
/-- Whether a node, as a statement, does nothing: the empty node does, and so does a block of
statements that all do nothing. An `else` with such an arm is left out. -/
def Node.isEmptyStatement : Node → Bool
  | .nop => true
  | .block b => b.isEmptyStatement
  | _ => false

/-- Whether a block, as a statement, does nothing. -/
def Block.isEmptyStatement : Block → Bool
  | ⟨head, instructions⟩ => head.kind == .controlFlow && Node.areEmptyStatements instructions

/-- Whether all of some nodes do nothing. -/
def Node.areEmptyStatements : List Node → Bool
  | [] => true
  | n :: rest => n.isEmptyStatement && Node.areEmptyStatements rest
end

namespace Node

/-! ### Parts -/

/-- The nodes directly below a node, in the order in which they are written. -/
def children : Node → List Node
  | nop => []
  | bare _ => []
  | constant _ => []
  | load _ => []
  | compare _ l r => [l, r]
  | binary _ l r => [l, r]
  | store _ value => [value]
  | branch _ => []
  | cond condition yes no => [condition, yes, no]
  | call arguments _ => arguments
  | leave _ value => [value]
  | block b => b.instructions
  | container _ blocks => blocks.map block

mutual
/-- A node and all nodes below it, each before those below it. -/
def nodes : Node → List Node
  | nop => [nop]
  | bare op => [bare op]
  | constant value => [constant value]
  | load v => [load v]
  | compare kind l r => compare kind l r :: (l.nodes ++ r.nodes)
  | binary op l r => binary op l r :: (l.nodes ++ r.nodes)
  | store v value => store v value :: value.nodes
  | branch target => [branch target]
  | cond c yes no => cond c yes no :: (c.nodes ++ yes.nodes ++ no.nodes)
  | call arguments method => call arguments method :: nodesOfAll arguments
  | leave target value => leave target value :: value.nodes
  | block b => block b :: nodesOfBlock b
  | container head blocks => container head blocks :: nodesOfBlocks blocks

/-- The nodes of a block's instructions. -/
def nodesOfBlock : Block → List Node
  | ⟨_, instructions⟩ => nodesOfAll instructions

/-- Some nodes and all nodes below them. -/
def nodesOfAll : List Node → List Node
  | [] => []
  | n :: rest => n.nodes ++ nodesOfAll rest

/-- Some blocks and all nodes below them. -/
def nodesOfBlocks : List Block → List Node
  | [] => []
  | b :: rest => block b :: nodesOfBlock b ++ nodesOfBlocks rest
end

end Node

end StructuredIL
