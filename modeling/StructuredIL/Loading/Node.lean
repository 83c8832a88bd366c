import StructuredIL.Loading.Settings
import StructuredIL.Loading.Workspace

/-!
# Building a tree

Every node of a document is an object with a member `op`, and every operation has a builder of its
own. A builder takes the object and a way to build the values below it, so the twelve builders do
not call each other: `buildNode` ties them together, by recursion on the height of the document
(`buildNode_eq`). What is said of all trees is said once for each builder.

A name is looked up as it is met. A variable must have been declared, a branch must name a block of
the innermost container that is open, a leave an open container or none. Of several blocks with one
label the first is meant, of several containers the innermost.
-/

namespace StructuredIL

namespace Build

/-! ### Members -/

/-- The member that a node must have. -/
def require (data : Value) (operation : Operation) (key : String) : Build Value :=
  match data.get? key with
  | some v => pure v
  | none => reject (.missingMember operation key)

/-- A way to build the values that are lower than a bound. -/
abbrev Below (bound : Nat) := (v : Value) → v.height < bound → Build Node

/-- Builds the member that a node must have. -/
def buildMember (data : Value) (build : Below data.height) (operation : Operation) (key : String) :
    Build Node :=
  match h : data.get? key with
  | some v => build v (Value.height_lt_of_get? h)
  | none => reject (.missingMember operation key)

/-- Builds the member that a node may have; an absent value is no member. -/
def buildMember? (data : Value) (build : Below data.height) (key : String) :
    Build (Option Node) :=
  match h : data.get? key with
  | none => pure none
  | some .null => pure none
  | some v => some <$> build v (Value.height_lt_of_get? h)

/-- Builds some values in order. -/
def buildAll {bound : Nat} (build : Below bound) :
    (items : List Value) → (∀ v ∈ items, v.height < bound) → Build (List Node)
  | [], _ => pure []
  | v :: rest, h => do
    let n ← build v (h v (List.mem_cons_self ..))
    let ns ← buildAll build rest fun w hw ↦ h w (List.mem_cons_of_mem v hw)
    return n :: ns

/-- What a walk over a member meets; nothing, if the member is absent. -/
def elementsOf (data : Value) (key : String) :
    Build { items : List Value // ∀ v ∈ items, v.height < data.height } :=
  match h : data.get? key with
  | none => pure ⟨[], by simp⟩
  | some v =>
    match h' : v.elements? with
    | none => throw .notIterable
    | some items => pure ⟨items, fun _ hw ↦
        Nat.lt_of_le_of_lt (Value.height_le_of_elements? h' hw) (Value.height_lt_of_get? h)⟩

/-! ### Names -/

/-- The member of a vocabulary that a value spells; `what` says what it should be. -/
def spelled {α : Type} [Vocabulary α] (what : String) (v : Value) : Build α :=
  match v with
  | .string s =>
    match Vocabulary.ofSpelling s with
    | .ok a => pure a
    | .error _ => reject (.unknownKind what s)
  | v => reject (.kindNotAString what v)

/-- The declared variable that a node names. -/
def variableOf (data : Value) (operation : Operation) : Build Variable := do
  let name ← require data operation "var"
  match name with
  | .string s =>
    match ← findVariable s with
    | some v => return v
    | none => reject (.undeclared name)
  | _ => reject (.undeclared name)

/-! ### Expressions -/

/-- The least 32-bit integer. -/
def minInt32 : Int := -2147483648

/-- The greatest 32-bit integer. -/
def maxInt32 : Int := 2147483647

/-- Builds a constant, an integer of 32 bits. -/
def buildConstant (data : Value) : Build Node := do
  let value ← require data .constant "value"
  match value with
  | .int n => if minInt32 ≤ n ∧ n ≤ maxInt32 then return .constant n else reject (.outOfRange n)
  | _ => reject (.notAnInteger value)

/-- Builds a load. -/
def buildLoad (data : Value) : Build Node := do
  return .load (← variableOf data .load)

/-- Builds a comparison. -/
def buildCompare (data : Value) (build : Below data.height) : Build Node := do
  let kind ← spelled "comparison kind" (← require data .compare "kind")
  let left ← buildMember data build .compare "left"
  let right ← buildMember data build .compare "right"
  return .compare kind left right

/-- Builds arithmetic. -/
def buildBinary (data : Value) (build : Below data.height) : Build Node := do
  let operator ← spelled "binary operator" (← require data .binary "operator")
  let left ← buildMember data build .binary "left"
  let right ← buildMember data build .binary "right"
  return .binary operator left right

/-! ### Statements -/

/-- Builds a store. -/
def buildStore (data : Value) (build : Below data.height) : Build Node := do
  let target ← variableOf data .store
  let value ← buildMember data build .store "value"
  return .store target value

/-- Builds a conditional; without a second arm it has an empty one. -/
def buildCond (data : Value) (build : Below data.height) : Build Node := do
  let condition ← buildMember data build .cond "condition"
  let yes ← buildMember data build .cond "true"
  let no ← buildMember? data build "false"
  return .cond condition yes (no.getD .nop)

/-- Builds a call; without a method it prints. -/
def buildCall (data : Value) (build : Below data.height) : Build Node := do
  let arguments ←
    match h : data.get? "args" with
    | none => pure []
    | some (.list items) =>
      buildAll build items fun _ hv ↦
        Nat.lt_of_le_of_lt (Value.height_le_of_elements? (v := .list items) rfl hv)
          (Value.height_lt_of_get? h)
    | some v => reject (.argumentsNotAList v)
  return .call arguments ((data.get? "method").getD (.string "print"))

/-- Builds a branch to the first block of its label in the innermost container. -/
def buildBranch (data : Value) : Build Node := do
  let target ← require data .branch "target"
  match (← get).containers with
  | [] => reject (.branchOutside target)
  | c :: _ =>
    match c.blocks.find? fun b ↦ b.label.same target with
    | some b => return .branch b
    | none => reject (.noSuchBlock target c.head.label)

/-- Builds a leave: of the innermost container, or of the innermost one of its label. -/
def buildLeave (data : Value) (build : Below data.height) : Build Node := do
  match (← get).containers with
  | [] => reject .leaveOutside
  | innermost :: outer =>
    let value ← buildMember? data build "value"
    let container ←
      match (data.get? "target").getD .null with
      | .null => pure innermost
      | target =>
        match (innermost :: outer).find? fun c ↦ c.head.label.same target with
        | some c => pure c
        | none => reject (.noSuchContainer target)
    return .leave container.head (value.getD .nop)

/-! ### Structure -/

/-- Builds the insides of a block; empty instructions may be left out. -/
def buildInstructions (s : LoadSettings) (data : Value) (build : Below data.height) :
    Build (List Node) := do
  let ⟨items, h⟩ ← elementsOf data "instructions"
  let instructions ← buildAll build items h
  return if s.removeDeadCode then instructions.filter fun n ↦ !n.isNop else instructions

/-- The head of a block; `unlabelled` is the label of one that has none. -/
def blockHead (data : Value) (unlabelled : String) : Build BlockHead := do
  let kind ← spelled "block kind" ((data.get? "kind").getD (.string "ControlFlow"))
  return ⟨← fresh, kind, Value.orElse (data.get? "label") (.string unlabelled)⟩

/-- Builds a block that stands by itself. -/
def buildBlock (s : LoadSettings) (data : Value) (build : Below data.height) : Build Node := do
  let head ← blockHead data "Block"
  let instructions ← buildInstructions s data build
  return .block ⟨head, instructions⟩

/-- The label of a block of a container that has none: its place in four hexadecimal digits. -/
def placeLabel (index : Nat) : String := "IL_" ++ String.ofList (Text.hexDigits 4 index)

/-- The heads of the blocks of a container, from an index on. -/
def blockHeads (container : Value) (index : Nat) : List Value → Build (List BlockHead)
  | [] => pure []
  | data :: rest => do
    match data with
    | .object _ =>
      let head ← blockHead data (placeLabel index)
      let heads ← blockHeads container (index + 1) rest
      return head :: heads
    | _ => reject (.blockNotAnObject container index)

/-- Builds the insides of the blocks of a container. -/
def buildBlocks (s : LoadSettings) {bound : Nat} (build : Below bound) :
    List BlockHead → (items : List Value) → (∀ v ∈ items, v.height < bound) → Build (List Block)
  | head :: heads, data :: rest, h => do
    let below : Below data.height := fun v hv ↦
      build v (Nat.lt_trans hv (h data (List.mem_cons_self ..)))
    let instructions ← buildInstructions s data below
    let blocks ← buildBlocks s build heads rest fun w hw ↦ h w (List.mem_cons_of_mem data hw)
    return ⟨head, instructions⟩ :: blocks
  | _, _, _ => pure []

/-- Builds a container. Its blocks get their heads first, so that a branch may go forward. -/
def buildContainer (s : LoadSettings) (data : Value) (build : Below data.height) :
    Build Node := do
  let kind ← spelled "container kind" ((data.get? "kind").getD (.string "Normal"))
  let depth := (← get).containers.length
  let label := Value.orElse (data.get? "label") (.string s!"BlockContainer{depth}")
  let head : ContainerHead := ⟨← fresh, kind, label⟩
  match h : data.get? "blocks" with
  | none => return .container head []
  | some (.list items) =>
    let heads ← blockHeads label 0 items
    let blocks ← within ⟨head, heads⟩ <| buildBlocks s build heads items fun _ hv ↦
      Nat.lt_of_le_of_lt (Value.height_le_of_elements? (v := .list items) rfl hv)
        (Value.height_lt_of_get? h)
    return .container head blocks
  | some _ => reject (.blocksNotAList label)

/-! ### Nodes -/

/-- Builds the node of an operation. -/
def buildOperation (s : LoadSettings) (data : Value) (build : Below data.height) :
    Operation → Build Node
  | .nop => return .nop
  | .constant => buildConstant data
  | .load => buildLoad data
  | .store => buildStore data build
  | .compare => buildCompare data build
  | .binary => buildBinary data build
  | .cond => buildCond data build
  | .call => buildCall data build
  | .branch => buildBranch data
  | .leave => buildLeave data build
  | .block => buildBlock s data build
  | .container => buildContainer s data build

/-- Builds a node whose parts can be built. -/
def buildWith (s : LoadSettings) (data : Value) (build : Below data.height) : Build Node :=
  match data.get? "op" with
  | none => reject (.notANode data)
  | some (.list _) => throw .notHashable
  | some (.object _) => throw .notHashable
  | some (.string name) =>
    match Operation.ofName? name with
    | some operation => buildOperation s data build operation
    | none => reject (.unknownOperation (.string name))
  | some v => reject (.unknownOperation v)

/-- Builds the node that a value describes. -/
def buildNode (s : LoadSettings) (data : Value) : Build Node :=
  buildWith s data fun v _ ↦ buildNode s v
termination_by data.height

/-- A node is built by its builder, with its parts built the same way. -/
theorem buildNode_eq (s : LoadSettings) (data : Value) :
    buildNode s data = buildWith s data fun v _ ↦ buildNode s v := by
  rw [buildNode]

end Build

end StructuredIL
