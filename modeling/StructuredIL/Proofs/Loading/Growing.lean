import Mathlib.Logic.Function.Basic
import StructuredIL.Proofs.Loading.Faults

/-!
# Blocks that are filled in place

A builder gives a block when all its instructions are known, and what is in the blocks of the open
containers is not known to it. Here the same nodes are built with blocks that are there before they
are filled: a block is begun with nothing inside, its instructions are added one by one as they are
built, and it is read when the last one has been added (`Growing.node`). So it can be said which
blocks have been added to when a node could be built in part only.

Blocks are told apart by their serial numbers, and a `Workshop` is a workspace with a note of what
is inside the block of each number. Whatever does not touch the insides of blocks is done as it is
in a workspace (`Growing.plain`).
-/

namespace StructuredIL

/-- A workspace and what every block has inside, by the number of the block. -/
structure Workshop where
  /-- What is known while a tree is built. -/
  workspace : Workspace
  /-- What the blocks have inside. -/
  inside : Nat → List Node

/-- A step of a load in which blocks are filled in place. -/
abbrev Growing := EStateM LoadFault Workshop

namespace Growing

variable {α β : Type}

/-! ### Steps -/

/-- A step after which all blocks have inside what they had. -/
def plain (x : Build α) : Growing α := fun t ↦
  match x t.workspace with
  | .ok a w => .ok a { t with workspace := w }
  | .error e w => .error e { t with workspace := w }

/-- Begins a block, with nothing inside. -/
def begin (b : BlockHead) : Growing Unit :=
  modify fun t ↦ { t with inside := Function.update t.inside b.serial [] }

/-- Adds an instruction to a block, at the end; empty instructions may be left out. -/
def add (s : LoadSettings) (b : BlockHead) (n : Node) : Growing Unit :=
  if s.removeDeadCode && n.isNop then pure ()
  else modify fun t ↦
    { t with inside := Function.update t.inside b.serial (t.inside b.serial ++ [n]) }

/-- What a block has inside. -/
def insideOf (b : BlockHead) : Growing (List Node) := fun t ↦ .ok (t.inside b.serial) t

/-- Works inside a container, and closes it afterwards in any case. -/
def within (c : OpenContainer) (work : Growing α) : Growing α := fun t ↦
  match work { t with workspace.containers := c :: t.workspace.containers } with
  | .ok a t => .ok a { t with workspace.containers := t.workspace.containers.tail }
  | .error e t => .error e { t with workspace.containers := t.workspace.containers.tail }

/-! ### Builders -/

/-- A way to build the values that are lower than a bound. -/
abbrev Below (bound : Nat) := (v : Value) → v.height < bound → Growing Node

/-- Builds the member that a node must have. -/
def member (data : Value) (grow : Below data.height) (operation : Operation) (key : String) :
    Growing Node :=
  match (data.get? key).attach with
  | some ⟨v, h⟩ => grow v (Value.height_lt_of_member h)
  | none => plain (Build.reject (.missingMember operation key))

/-- Builds the member that a node may have. -/
def member? (data : Value) (grow : Below data.height) (key : String) : Growing (Option Node) :=
  match (data.given? key).attach with
  | some ⟨v, h⟩ => some <$> grow v (Value.height_lt_of_member (Value.given?_eq_some.1 h).1)
  | none => pure none

/-- Builds some values in order. -/
def all {bound : Nat} (grow : Below bound) :
    (items : List Value) → (∀ v ∈ items, v.height < bound) → Growing (List Node)
  | [], _ => pure []
  | v :: rest, h => do
    let n ← grow v (Value.height_lt_of_head h)
    let ns ← all grow rest (Value.height_lt_of_tail h)
    return n :: ns

/-- Builds a node of two operands. -/
def operands (data : Value) (grow : Below data.height) (operation : Operation)
    (make : Node → Node → Node) : Growing Node := do
  let left ← member data grow operation "left"
  let right ← member data grow operation "right"
  return make left right

/-- Builds a comparison. -/
def compare (data : Value) (grow : Below data.height) : Growing Node := do
  let kind ← plain (Build.require data .compare "kind")
  let kind ← plain (Build.spelled "comparison kind" kind)
  operands data grow .compare (.compare kind)

/-- Builds arithmetic. -/
def binary (data : Value) (grow : Below data.height) : Growing Node := do
  let operator ← plain (Build.require data .binary "operator")
  let operator ← plain (Build.spelled "binary operator" operator)
  operands data grow .binary (.binary operator)

/-- Builds a store. -/
def store (data : Value) (grow : Below data.height) : Growing Node := do
  let target ← plain (Build.variableOf data .store)
  let value ← member data grow .store "value"
  return .store target value

/-- Builds a conditional. -/
def cond (data : Value) (grow : Below data.height) : Growing Node := do
  let condition ← member data grow .cond "condition"
  let yes ← member data grow .cond "true"
  let no ← member? data grow "false"
  return .cond condition yes (no.getD .nop)

/-- Builds the arguments of a call. -/
def arguments (data : Value) (grow : Below data.height) : Growing (List Node) :=
  match (data.get? "args").attach with
  | none => pure []
  | some ⟨.list items, h⟩ => all grow items fun _ ↦ Value.height_lt_of_item h
  | some ⟨v, _⟩ => plain (Build.reject (.argumentsNotAList v))

/-- Builds a call. -/
def call (data : Value) (grow : Below data.height) : Growing Node := do
  let arguments ← arguments data grow
  return .call arguments ((data.get? "method").getD (.string "print"))

/-- Builds a leave. -/
def leave (data : Value) (grow : Below data.height) : Growing Node := do
  match (← plain get).containers with
  | [] => plain (Build.reject .leaveOutside)
  | innermost :: outer =>
    let value ← member? data grow "value"
    let container ←
      match data.given? "target" with
      | none => pure innermost
      | some target =>
        match (innermost :: outer).find? fun c ↦ c.head.label.same target with
        | some c => pure c
        | none => plain (Build.reject (.noSuchContainer target))
    return .leave container.head (value.getD .nop)

/-- Makes the head of a block and begins the block. -/
def blockHead (data : Value) (unlabelled : String) : Growing BlockHead := do
  let b ← plain (Build.blockHead data unlabelled)
  begin b
  return b

/-- Makes the heads of the blocks of a container, from an index on, and begins the blocks. -/
def blockHeads (container : Value) (index : Nat) : List Value → Growing (List BlockHead)
  | [] => pure []
  | data :: rest => do
    match data with
    | .object _ =>
      let b ← blockHead data (Build.placeLabel index)
      let bs ← blockHeads container (index + 1) rest
      return b :: bs
    | _ => plain (Build.reject (.blockNotAnObject container index))

/-- Builds some values in order and adds each to a block. -/
def fill (s : LoadSettings) (b : BlockHead) {bound : Nat} (grow : Below bound) :
    (items : List Value) → (∀ v ∈ items, v.height < bound) → Growing Unit
  | [], _ => pure ()
  | v :: rest, h => do
    let n ← grow v (Value.height_lt_of_head h)
    add s b n
    fill s b grow rest (Value.height_lt_of_tail h)

/-- Fills a block that has been begun. -/
def filled (s : LoadSettings) (b : BlockHead) (data : Value) (grow : Below data.height) :
    Growing Block := do
  let ⟨items, h⟩ ← plain (Build.elementsOf data "instructions")
  fill s b grow items h
  return ⟨b, ← insideOf b⟩

/-- Builds a block that stands by itself. -/
def block (s : LoadSettings) (data : Value) (grow : Below data.height) : Growing Node := do
  let b ← blockHead data "Block"
  return .block (← filled s b data grow)

/-- Fills the blocks of a container in order. -/
def blocks (s : LoadSettings) {bound : Nat} (grow : Below bound) :
    List BlockHead → (items : List Value) → (∀ v ∈ items, v.height < bound) →
      Growing (List Block)
  | b :: bs, data :: rest, h => do
    let filled ← filled s b data fun v hv ↦ grow v (Value.height_lt_of_lt_head h hv)
    let others ← blocks s grow bs rest (Value.height_lt_of_tail h)
    return filled :: others
  | _, _, _ => pure []

/-- Builds the blocks of a container: they are begun, then it is open while they are filled. -/
def insideContainer (s : LoadSettings) (data : Value) (grow : Below data.height)
    (head : ContainerHead) : Growing (List Block) :=
  match (data.get? "blocks").attach with
  | none => pure []
  | some ⟨.list items, h⟩ => do
    let heads ← blockHeads head.label 0 items
    within ⟨head, heads⟩ <| blocks s grow heads items fun _ ↦ Value.height_lt_of_item h
  | some _ => plain (Build.reject (.blocksNotAList head.label))

/-- Builds a container. -/
def container (s : LoadSettings) (data : Value) (grow : Below data.height) : Growing Node := do
  let kind ← plain (Build.spelled "container kind" (data.kindOr "Normal"))
  let label := data.containerLabel (← plain get).containers.length
  let head : ContainerHead := ⟨← plain Build.fresh, kind, label⟩
  return .container head (← insideContainer s data grow head)

/-- Builds the node of an operation. -/
def ofOperation (s : LoadSettings) (data : Value) (grow : Below data.height) :
    Operation → Growing Node
  | .nop => return .nop
  | .constant => plain (Build.buildConstant data)
  | .load => plain (Build.buildLoad data)
  | .store => store data grow
  | .compare => compare data grow
  | .binary => binary data grow
  | .cond => cond data grow
  | .call => call data grow
  | .branch => plain (Build.buildBranch data)
  | .leave => leave data grow
  | .block => block s data grow
  | .container => container s data grow

/-- Builds a node whose parts can be built. -/
def nodeWith (s : LoadSettings) (data : Value) (grow : Below data.height) : Growing Node :=
  match data.get? "op" with
  | none => plain (Build.reject (.notANode data))
  | some (.list _) => throw .notHashable
  | some (.object _) => throw .notHashable
  | some (.string name) =>
    match Operation.ofName? name with
    | some operation => ofOperation s data grow operation
    | none => plain (Build.reject (.unknownOperation (.string name)))
  | some v => plain (Build.reject (.unknownOperation v))

/-- Builds the node that a value describes. -/
def node (s : LoadSettings) (data : Value) : Growing Node :=
  nodeWith s data fun v _ ↦ node s v
termination_by data.height

theorem node_eq (s : LoadSettings) (data : Value) :
    node s data = nodeWith s data fun v _ ↦ node s v := by
  rw [node]

/-! ### Endings -/

/-- The same ending, without what the blocks have inside. -/
def forget : EStateM.Result LoadFault Workshop α → EStateM.Result LoadFault Workspace α
  | .ok a t => .ok a t.workspace
  | .error e t => .error e t.workspace

/-- The workshop at the end of a step, whether it has failed or not. -/
def ending : EStateM.Result LoadFault Workshop α → Workshop
  | .ok _ t => t
  | .error _ t => t

end Growing

end StructuredIL
