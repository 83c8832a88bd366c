import StructuredIL.Tree.Text

/-!
# Questions about a node

Each question asks whether a node is of one form, and gives its parts if it is. The forms exclude
each other, so at most one question about a node has an answer.
-/

namespace StructuredIL.Node

/-- The variable and the value of a store. -/
def storeParts? : Node → Option (Variable × Node)
  | store target value => some (target, value)
  | _ => none

/-- The target of a branch. -/
def branchTarget? : Node → Option BlockHead
  | branch target => some target
  | _ => none

/-- The condition and the arms of a conditional. -/
def condParts? : Node → Option (Node × Node × Node)
  | cond c yes no => some (c, yes, no)
  | _ => none

/-- The target and the value of a leave. -/
def leaveParts? : Node → Option (ContainerHead × Node)
  | leave target value => some (target, value)
  | _ => none

/-- The value of a constant. -/
def constantValue? : Node → Option Int
  | constant value => some value
  | _ => none

/-- The variable of a load. -/
def loadSource? : Node → Option Variable
  | load source => some source
  | _ => none

/-- The operator and the operands of arithmetic. -/
def binaryParts? : Node → Option (BinaryOperator × Node × Node)
  | binary op l r => some (op, l, r)
  | _ => none

end StructuredIL.Node
