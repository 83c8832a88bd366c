import StructuredIL.Loading.Module

/-!
# The grammar of documents

What a document has to look like, without a word on how it is loaded. `Value.IsNode` says which
values are nodes, and `Value.IsFunction` which are functions. Both are about names as well: a
variable must be one of the declared ones, a branch must name a block of the container around it,
and a leave a container. Of the containers around a node only the labels matter, their own and those
of their blocks, so a scope is a list of `Labels`, innermost first.

Everything that may stand in a list must stand in a list here. A load is not as strict where it
walks over the instructions of a block or the variables of a function, so the grammar is apart from
the question whether these are lists wherever a load comes to them (`Value.HasLists`).
-/

namespace StructuredIL

namespace Value

/-! ### Members -/

/-- The operation that a node names. -/
def operation? (data : Value) : Option Operation :=
  match data.get? "op" with
  | some (.string name) => Operation.ofName? name
  | _ => none

/-- A member that may be left out, also by giving `null` for it. -/
def given? (data : Value) (key : String) : Option Value :=
  match data.get? key with
  | some .null => none
  | v? => v?

theorem given?_eq_some {data v : Value} {key : String} :
    data.given? key = some v ↔ data.get? key = some v ∧ v ≠ .null := by
  rw [given?]
  split
  · simp_all
  · rename_i hnull
    refine ⟨fun h ↦ ⟨h, fun hv ↦ hnull (hv ▸ h)⟩, And.left⟩

theorem given?_eq_none {data : Value} {key : String} :
    data.given? key = none ↔ (data.get? key).getD .null = .null := by
  rw [given?]
  split
  · simp_all
  · rename_i hnull
    cases hv : data.get? key with
    | none => simp
    | some v => simpa [hv] using fun h : v = .null ↦ hnull (hv.trans (congrArg some h))

/-- The items of a member that is a list or left out. -/
def listOf? (data : Value) (key : String) : Option (List Value) :=
  match data.get? key with
  | none => some []
  | some (.list items) => some items
  | some _ => none

/-- A member that is neither a list nor left out. -/
theorem exists_of_listOf?_eq_none {data : Value} {key : String} (h : data.listOf? key = none) :
    ∃ v, data.get? key = some v ∧ ∀ items, v ≠ .list items := by
  cases hget : data.get? key with
  | none => simp [listOf?, hget] at h
  | some v =>
    refine ⟨v, rfl, ?_⟩
    rintro items rfl
    simp [listOf?, hget] at h

/-- What a walk over a member meets: nothing, if the member is left out. -/
def walkOf? (data : Value) (key : String) : Option (List Value) :=
  match data.get? key with
  | none => some []
  | some v => v.elements?

/-- A list is walked over item by item. -/
theorem walkOf?_of_listOf? {data : Value} {key : String} {items : List Value}
    (h : data.listOf? key = some items) : data.walkOf? key = some items := by
  cases hv : data.get? key with
  | none => simpa [listOf?, walkOf?, hv] using h
  | some v =>
    cases v with
    | list items' => simpa [listOf?, walkOf?, hv, elements?] using h
    | _ => simp [listOf?, hv] at h

/-- A value spells a member of a vocabulary. -/
def Spells {α : Type} [Vocabulary α] (v : Value) (a : α) : Prop :=
  ∃ name, v = .string name ∧ Vocabulary.ofSpelling name = .ok a

/-- The kind of a block or a container, in writing. -/
def kindOr (data : Value) (standard : String) : Value :=
  (data.get? "kind").getD (.string standard)

/-- The label of a block or a container. -/
def labelOr (data : Value) (unlabelled : String) : Value :=
  orElse (data.get? "label") (.string unlabelled)

/-! ### Scopes -/

/-- The label of a container, inside so many others. -/
def containerLabel (depth : Nat) (data : Value) : Value := data.labelOr s!"BlockContainer{depth}"

/-- The labels of the blocks of a container, from an index on. -/
def blockLabels (index : Nat) : List Value → List Value
  | [] => []
  | data :: rest => data.labelOr (Build.placeLabel index) :: blockLabels (index + 1) rest

end Value

/-- The labels that a container brings into scope. -/
structure Labels where
  /-- Its own. -/
  container : Value
  /-- Those of its blocks, in order. -/
  blocks : List Value

/-- The labels of the container that a value describes, inside so many others. -/
def Labels.ofContainer (depth : Nat) (data : Value) (blocks : List Value) : Labels :=
  ⟨data.containerLabel depth, Value.blockLabels 0 blocks⟩

namespace Value

/-! ### Nodes -/

/-- A block of a container, apart from the instructions in it. -/
structure IsBlock (data : Value) : Prop where
  /-- It is an object. -/
  object : ∃ members, data = .object members
  /-- Its kind is known. -/
  kind : ∃ kind : BlockKind, (data.kindOr "ControlFlow").Spells kind
  /-- Its instructions are a list. -/
  instructions : ∃ items, data.listOf? "instructions" = some items

/-- A node, where these names are declared and these labels are in scope. -/
inductive IsNode (names : List Text) : List Labels → Value → Prop
  | nop {scope : List Labels} {data : Value} : data.operation? = some .nop →
      IsNode names scope data
  | constant {scope : List Labels} {data : Value} {n : Int} : data.operation? = some .constant →
      data.get? "value" = some (.int n) → Build.minInt32 ≤ n → n ≤ Build.maxInt32 →
      IsNode names scope data
  | load {scope : List Labels} {data : Value} {name : Text} : data.operation? = some .load →
      data.get? "var" = some (.string name) → name ∈ names → IsNode names scope data
  | store {scope : List Labels} {data value : Value} {name : Text} :
      data.operation? = some .store → data.get? "var" = some (.string name) → name ∈ names →
      data.get? "value" = some value → IsNode names scope value → IsNode names scope data
  | compare {scope : List Labels} {data spelling l r : Value} {kind : ComparisonKind} :
      data.operation? = some .compare → data.get? "kind" = some spelling → spelling.Spells kind →
      data.get? "left" = some l → IsNode names scope l →
      data.get? "right" = some r → IsNode names scope r → IsNode names scope data
  | binary {scope : List Labels} {data spelling l r : Value} {operator : BinaryOperator} :
      data.operation? = some .binary → data.get? "operator" = some spelling →
      spelling.Spells operator → data.get? "left" = some l → IsNode names scope l →
      data.get? "right" = some r → IsNode names scope r → IsNode names scope data
  | cond {scope : List Labels} {data c yes : Value} : data.operation? = some .cond →
      data.get? "condition" = some c → IsNode names scope c →
      data.get? "true" = some yes → IsNode names scope yes →
      (∀ no, data.given? "false" = some no → IsNode names scope no) → IsNode names scope data
  | call {scope : List Labels} {data : Value} {items : List Value} :
      data.operation? = some .call → data.listOf? "args" = some items →
      (∀ v ∈ items, IsNode names scope v) → IsNode names scope data
  | branch {labels : Labels} {outer : List Labels} {data target : Value} :
      data.operation? = some .branch → data.get? "target" = some target →
      (∃ label ∈ labels.blocks, label.same target) → IsNode names (labels :: outer) data
  | leave {labels : Labels} {outer : List Labels} {data : Value} :
      data.operation? = some .leave →
      (∀ v, data.given? "value" = some v → IsNode names (labels :: outer) v) →
      (∀ target, data.given? "target" = some target →
        ∃ l ∈ labels :: outer, l.container.same target) →
      IsNode names (labels :: outer) data
  | block {scope : List Labels} {data : Value} {kind : BlockKind} {items : List Value} :
      data.operation? = some .block → (data.kindOr "ControlFlow").Spells kind →
      data.listOf? "instructions" = some items → (∀ v ∈ items, IsNode names scope v) →
      IsNode names scope data
  | container {scope : List Labels} {data : Value} {kind : ContainerKind} {blocks : List Value} :
      data.operation? = some .container → (data.kindOr "Normal").Spells kind →
      data.listOf? "blocks" = some blocks → (∀ b ∈ blocks, b.IsBlock) →
      (∀ b ∈ blocks, ∀ items, b.listOf? "instructions" = some items →
        ∀ v ∈ items, IsNode names (.ofContainer scope.length data blocks :: scope) v) →
      IsNode names scope data

/-! ### Functions -/

/-- The name of a function or a variable. -/
def name? (data : Value) : Option Text :=
  match data.get? "name" with
  | some (.string name) => some name
  | _ => none

theorem name?_eq_some {data : Value} {name : Text} :
    data.name? = some name ↔ data.get? "name" = some (.string name) := by
  rw [name?]
  split <;> simp_all

/-- A declaration of a variable. -/
def IsVariable (data : Value) : Prop :=
  (∃ name, data.name? = some name) ∧
    ∃ spelling, ∃ type : PrimitiveType, data.get? "type" = some spelling ∧ spelling.Spells type

/-- A function. -/
structure IsFunction (data : Value) : Prop where
  /-- It has a name. -/
  name : ∃ name, data.name? = some name
  /-- Its variables are declared in a list, if it has any, each under another name, and its body is
  a block or a container that is a node where these names are declared. -/
  body : ∃ items, data.listOf? "variables" = some items ∧ (∀ v ∈ items, v.IsVariable) ∧
    (items.filterMap name?).Nodup ∧ ∃ body, data.get? "body" = some body ∧
      (body.operation? = some .block ∨ body.operation? = some .container) ∧
      IsNode (items.filterMap name?) [] body

/-! ### Lists -/

/-- The blocks that a node consists of. -/
def blocksOf (data : Value) : List Value :=
  match data.operation? with
  | some .block => [data]
  | some .container => (data.listOf? "blocks").getD []
  | _ => []

/-- The values that describe the nodes directly below a node, as far as a load comes to them. -/
def partsOf (data : Value) : List Value :=
  match data.operation? with
  | some .store => (data.get? "value").toList
  | some .compare => (data.get? "left").toList ++ (data.get? "right").toList
  | some .binary => (data.get? "left").toList ++ (data.get? "right").toList
  | some .cond => (data.get? "condition").toList ++ (data.get? "true").toList ++
      (data.given? "false").toList
  | some .call => (data.listOf? "args").getD []
  | some .leave => (data.given? "value").toList
  | _ => data.blocksOf.flatMap fun b ↦ (b.walkOf? "instructions").getD []

/-- Wherever a load comes to the instructions of a block, below this value, they are a list or left
out. -/
inductive HasLists : Value → Prop
  | intro {data : Value} : (∀ b ∈ data.blocksOf, ∃ items, b.listOf? "instructions" = some items) →
      (∀ v ∈ data.partsOf, HasLists v) → HasLists data

/-- The variables of a function are a list or left out, and so are the instructions of each block
of its body. -/
structure FunctionHasLists (data : Value) : Prop where
  /-- The variables are a list. -/
  declarations : ∃ items, data.listOf? "variables" = some items
  /-- The instructions are lists. -/
  body : ∀ body, data.get? "body" = some body → body.HasLists

end Value

end StructuredIL
