import StructuredIL.Proofs.Loading.Grammar
import StructuredIL.Proofs.Tree.Serials

/-!
# Trees that realize a document

When a tree is what a document says. `Node.Realizes` goes down the tree and the document together
and takes along the containers around the node **in the tree**, so what it says of names is said of
the finished tree, and not of the state of a load: a branch has the first block of its label in the
innermost container around it, a leave the innermost container of its label, or simply the innermost
one, and a variable is the one of its name.

Heads are one if their numbers are, so this means something only in a tree without equal numbers;
`Function.Realizes` asks for that too. Such a tree is resolved (`Node.Realizes.resolved`).
-/

namespace StructuredIL

/-- The items of a block that become instructions: empty ones may be left out. -/
def LoadSettings.kept (s : LoadSettings) (items : List Value) : List Value :=
  if s.removeDeadCode then items.filter fun v ↦ v.operation? != some .nop else items

mutual
/-- A node is what a value describes; `locals` are the variables of the function and `around` the
containers around the node. -/
def Node.Realizes (s : LoadSettings) (locals : List Variable) (around : List OpenContainer) :
    Node → Value → Prop
  | .nop, data => data.operation? = some .nop
  | .bare _, _ => False
  | .constant n, data =>
    data.operation? = some .constant ∧ data.get? "value" = some (.int n) ∧
      Build.minInt32 ≤ n ∧ n ≤ Build.maxInt32
  | .load v, data =>
    data.operation? = some .load ∧ data.get? "var" = some (.string v.name) ∧ v ∈ locals
  | .store v value, data =>
    data.operation? = some .store ∧ data.get? "var" = some (.string v.name) ∧ v ∈ locals ∧
      ∃ d, data.get? "value" = some d ∧ value.Realizes s locals around d
  | .compare kind l r, data =>
    data.operation? = some .compare ∧ (∃ v, data.get? "kind" = some v ∧ v.Spells kind) ∧
      (∃ d, data.get? "left" = some d ∧ l.Realizes s locals around d) ∧
      ∃ d, data.get? "right" = some d ∧ r.Realizes s locals around d
  | .binary op l r, data =>
    data.operation? = some .binary ∧ (∃ v, data.get? "operator" = some v ∧ v.Spells op) ∧
      (∃ d, data.get? "left" = some d ∧ l.Realizes s locals around d) ∧
      ∃ d, data.get? "right" = some d ∧ r.Realizes s locals around d
  | .cond c yes no, data =>
    data.operation? = some .cond ∧
      (∃ d, data.get? "condition" = some d ∧ c.Realizes s locals around d) ∧
      (∃ d, data.get? "true" = some d ∧ yes.Realizes s locals around d) ∧
      match data.given? "false" with
      | none => no = .nop
      | some d => no.Realizes s locals around d
  | .call arguments method, data =>
    data.operation? = some .call ∧ method = (data.get? "method").getD (.string "print") ∧
      ∃ items, data.listOf? "args" = some items ∧
        Node.AllRealize s locals around arguments items
  | .branch target, data =>
    data.operation? = some .branch ∧ ∃ label c, data.get? "target" = some label ∧
      around.head? = some c ∧ (c.blocks.find? fun b ↦ b.label.same label) = some target
  | .leave target value, data =>
    data.operation? = some .leave ∧
      (match data.given? "value" with
        | none => value = .nop
        | some d => value.Realizes s locals around d) ∧
      ∃ c, c.head = target ∧
        match data.given? "target" with
        | none => around.head? = some c
        | some label => (around.find? fun c ↦ c.head.label.same label) = some c
  | .block b, data => data.operation? = some .block ∧ b.Realizes s locals around "Block" data
  | .container head blocks, data =>
    data.operation? = some .container ∧ (data.kindOr "Normal").Spells head.kind ∧
      head.label = data.containerLabel around.length ∧
      ∃ items, data.listOf? "blocks" = some items ∧
        Block.AllRealize s locals (.ofBlocks head blocks :: around) 0 blocks items

/-- A block is what a value describes; `unlabelled` is its label if the value gives none. -/
def Block.Realizes (s : LoadSettings) (locals : List Variable) (around : List OpenContainer) :
    Block → String → Value → Prop
  | ⟨head, instructions⟩, unlabelled, data =>
    (data.kindOr "ControlFlow").Spells head.kind ∧ head.label = data.labelOr unlabelled ∧
      ∃ items, data.walkOf? "instructions" = some items ∧
        Node.AllRealize s locals around instructions (s.kept items)

/-- Some nodes are what some values describe, one by one. -/
def Node.AllRealize (s : LoadSettings) (locals : List Variable) (around : List OpenContainer) :
    List Node → List Value → Prop
  | [], [] => True
  | n :: ns, data :: rest =>
    n.Realizes s locals around data ∧ Node.AllRealize s locals around ns rest
  | _, _ => False

/-- The blocks of a container, from an index on, are what some values describe. -/
def Block.AllRealize (s : LoadSettings) (locals : List Variable) (around : List OpenContainer)
    (index : Nat) : List Block → List Value → Prop
  | [], [] => True
  | b :: bs, data :: rest =>
    b.Realizes s locals around (Build.placeLabel index) data ∧
      Block.AllRealize s locals around (index + 1) bs rest
  | _, _ => False
end

variable {s : LoadSettings} {locals : List Variable} {around : List OpenContainer}

theorem Node.allRealize_iff {ns : List Node} {items : List Value} :
    Node.AllRealize s locals around ns items ↔
      List.Forall₂ (fun n v ↦ n.Realizes s locals around v) ns items := by
  induction ns generalizing items with
  | nil => cases items <;> simp [Node.AllRealize]
  | cons n ns ih => cases items <;> simp [Node.AllRealize, ih]

/-- Of two lists that correspond item by item, each item of the first has one in the second. -/
theorem exists_of_forall₂ {α β : Type} {R : α → β → Prop} {as : List α} {bs : List β}
    (h : List.Forall₂ R as bs) {a : α} (ha : a ∈ as) : ∃ b ∈ bs, R a b := by
  obtain ⟨i, hi, rfl⟩ := List.mem_iff_getElem.1 ha
  obtain ⟨hlength, hall⟩ := List.forall₂_iff_get.1 h
  exact ⟨_, List.getElem_mem (hlength ▸ hi), hall i hi (hlength ▸ hi)⟩

theorem Node.AllRealize.exists_of_mem {ns : List Node} {items : List Value}
    (h : Node.AllRealize s locals around ns items) {n : Node} (hn : n ∈ ns) :
    ∃ data, n.Realizes s locals around data := by
  obtain ⟨data, -, hdata⟩ := exists_of_forall₂ (Node.allRealize_iff.1 h) hn
  exact ⟨data, hdata⟩

theorem LoadSettings.kept_subset (s : LoadSettings) (items : List Value) :
    s.kept items ⊆ items := by
  rw [kept]
  split
  · exact List.filter_subset_self _
  · exact List.Subset.refl _

/-- An instruction of a block is what one of the items is that a walk over its document meets. -/
theorem Block.Realizes.exists_item {b : Block} {unlabelled : String} {data : Value}
    (h : b.Realizes s locals around unlabelled data) {i : Node} (hi : i ∈ b.instructions) :
    ∃ items, data.walkOf? "instructions" = some items ∧
      ∃ d ∈ items, i.Realizes s locals around d := by
  obtain ⟨head, instructions⟩ := b
  obtain ⟨-, -, items, hitems, hall⟩ := h
  obtain ⟨d, hd, hi⟩ := exists_of_forall₂ (Node.allRealize_iff.1 hall) hi
  exact ⟨items, hitems, d, s.kept_subset items hd, hi⟩

theorem Block.Realizes.exists_of_mem {b : Block} {unlabelled : String} {data : Value}
    (h : b.Realizes s locals around unlabelled data) {i : Node} (hi : i ∈ b.instructions) :
    ∃ d, i.Realizes s locals around d := by
  obtain ⟨items, -, d, -, hd⟩ := h.exists_item hi
  exact ⟨d, hd⟩

theorem Block.AllRealize.exists_item {index : Nat} {blocks : List Block} {items : List Value}
    (h : Block.AllRealize s locals around index blocks items) {b : Block} (hb : b ∈ blocks) :
    ∃ unlabelled, ∃ data ∈ items, b.Realizes s locals around unlabelled data := by
  induction blocks generalizing index items with
  | nil => exact absurd hb List.not_mem_nil
  | cons c rest ih =>
    obtain _ | ⟨data, items⟩ := items
    · exact h.elim
    rcases List.mem_cons.1 hb with rfl | hb
    · exact ⟨_, data, List.mem_cons_self .., h.1⟩
    · obtain ⟨unlabelled, d, hd, hrealizes⟩ := ih h.2 hb
      exact ⟨unlabelled, d, List.mem_cons_of_mem _ hd, hrealizes⟩

theorem Block.AllRealize.exists_of_mem {index : Nat} {blocks : List Block} {items : List Value}
    (h : Block.AllRealize s locals around index blocks items) {b : Block} (hb : b ∈ blocks) :
    ∃ unlabelled data, b.Realizes s locals around unlabelled data := by
  obtain ⟨unlabelled, data, -, hrealizes⟩ := h.exists_item hb
  exact ⟨unlabelled, data, hrealizes⟩

/-- The labels of the blocks of a container are those that its document gives them. -/
theorem Block.AllRealize.labels_eq {index : Nat} {blocks : List Block} {items : List Value}
    (h : Block.AllRealize s locals around index blocks items) :
    (blocks.map fun b ↦ b.head.label) = Value.blockLabels index items := by
  induction blocks generalizing index items with
  | nil =>
    obtain _ | ⟨data, rest⟩ := items
    · rfl
    · exact h.elim
  | cons b blocks ih =>
    obtain _ | ⟨data, rest⟩ := items
    · exact h.elim
    · obtain ⟨head, instructions⟩ := b
      rw [List.map_cons, h.1.2.1, ih h.2, Value.blockLabels]

/-- Empty instructions are those of empty items, so both may be left out alike. -/
theorem Node.isNop_iff {n : Node} {data : Value} (h : n.Realizes s locals around data) :
    n.isNop ↔ data.operation? = some .nop := by
  cases n <;> simp_all [Node.Realizes, Node.isNop]

/-! ### Resolution -/

/-- The numbers in a tree are different, also from those of the containers around it. -/
structure Node.IsNew (n : Node) (around : List OpenContainer) : Prop where
  /-- No number is in the tree twice. -/
  nodup : n.serials.Nodup
  /-- No number in the tree is that of a container around it. -/
  not_mem : ∀ c ∈ around, c.head.serial ∉ n.serials

namespace Node.IsNew

variable {n c : Node}

theorem of_sublist (h : n.IsNew around) (hc : c.serials.Sublist n.serials) : c.IsNew around :=
  ⟨hc.nodup h.nodup, fun o ho hmem ↦ h.not_mem o ho (hc.subset hmem)⟩

theorem of_mem_children (h : n.IsNew around) (hc : c ∈ n.children) : c.IsNew around := by
  refine h.of_sublist ?_
  rw [n.serials_eq, List.flatMap_def]
  exact (List.sublist_flatten_of_mem (List.mem_map_of_mem hc)).trans
    (List.sublist_append_right _ _)

/-- Inside a container it is one of the containers around. -/
theorem inside {head : ContainerHead} {blocks : List Block}
    (h : (container head blocks).IsNew around) {b : Block} (hb : b ∈ blocks)
    (hc : c ∈ b.instructions) :
    c.IsNew (.ofBlocks head blocks :: around) := by
  have hblock : (block b).IsNew around := h.of_mem_children (List.mem_map_of_mem hb)
  obtain ⟨hnodup, hnot⟩ := hblock.of_mem_children hc
  refine ⟨hnodup, fun o ho hmem ↦ ?_⟩
  rcases List.mem_cons.1 ho with rfl | ho
  · have hcontainer := h.nodup
    rw [serials_container, List.nodup_cons] at hcontainer
    refine hcontainer.1 (List.mem_flatMap.2 ⟨b, hb, List.mem_cons_of_mem _ ?_⟩)
    exact List.mem_flatMap.2 ⟨c, hc, hmem⟩
  · exact hnot o ho hmem

end Node.IsNew

/-- **What realizes a document is resolved**, if heads are one exactly where their numbers are. -/
theorem Node.Realizes.resolved {n : Node} {data : Value} (h : n.Realizes s locals around data)
    (hnew : n.IsNew around) : n.Resolved locals around := by
  induction n using Node.induction generalizing around data with
  | nop => trivial
  | bare op => trivial
  | constant value => exact h.2.2
  | load v => exact h.2.2
  | compare kind l r ihl ihr =>
    obtain ⟨-, -, ⟨_, -, hl⟩, ⟨_, -, hr⟩⟩ := h
    exact ⟨ihl hl (hnew.of_mem_children (by simp [children])),
      ihr hr (hnew.of_mem_children (by simp [children]))⟩
  | binary op l r ihl ihr =>
    obtain ⟨-, -, ⟨_, -, hl⟩, ⟨_, -, hr⟩⟩ := h
    exact ⟨ihl hl (hnew.of_mem_children (by simp [children])),
      ihr hr (hnew.of_mem_children (by simp [children]))⟩
  | store v value ih =>
    obtain ⟨-, -, hv, _, -, hvalue⟩ := h
    exact ⟨hv, ih hvalue (hnew.of_mem_children (by simp [children]))⟩
  | branch target =>
    obtain ⟨-, label, c, -, hc, hfind⟩ := h
    exact ⟨c, hc, List.mem_of_find?_eq_some hfind⟩
  | cond c yes no ihc ihyes ihno =>
    obtain ⟨-, ⟨_, -, hc⟩, ⟨_, -, hyes⟩, hno⟩ := h
    refine ⟨ihc hc (hnew.of_mem_children (by simp [children])),
      ihyes hyes (hnew.of_mem_children (by simp [children])), ?_⟩
    split at hno
    · exact hno ▸ trivial
    · exact ihno hno (hnew.of_mem_children (by simp [children]))
  | call arguments method ih =>
    obtain ⟨-, -, items, -, hall⟩ := h
    refine Node.allResolved_iff.2 fun a ha ↦ ?_
    obtain ⟨d, hd⟩ := hall.exists_of_mem ha
    exact ih a ha hd (hnew.of_mem_children ha)
  | leave target value ih =>
    obtain ⟨-, hvalue, c, rfl, hc⟩ := h
    refine ⟨⟨c, ?_, rfl⟩, ?_⟩
    · split at hc
      · exact List.mem_of_head? hc
      · exact List.mem_of_find?_eq_some hc
    · split at hvalue
      · exact hvalue ▸ trivial
      · exact ih hvalue (hnew.of_mem_children (by simp [children]))
  | block b ih =>
    refine Block.resolved_iff.2 fun i hi ↦ ?_
    obtain ⟨d, hd⟩ := h.2.exists_of_mem hi
    exact ih i hi hd (hnew.of_mem_children hi)
  | container head blocks ih =>
    obtain ⟨-, -, -, items, -, hall⟩ := h
    have hnodup := hnew.nodup
    rw [serials_container] at hnodup
    refine ⟨fun c hc hsame ↦ hnew.not_mem c hc ?_, ?_, ?_⟩
    · rw [hsame, serials_container]
      exact List.mem_cons_self ..
    · have hperm := List.map_append_flatMap_perm blocks (·.head.serial)
        fun b ↦ b.instructions.flatMap serials
      exact (List.nodup_append.1 (hperm.nodup_iff.2 (List.nodup_cons.1 hnodup).2)).1
    · refine Block.allResolved_iff.2 fun b hb ↦ Block.resolved_iff.2 fun i hi ↦ ?_
      obtain ⟨_, data, hblock⟩ := hall.exists_of_mem hb
      obtain ⟨d, hd⟩ := hblock.exists_of_mem hi
      exact ih b hb i hi hd (hnew.inside hb hi)

/-! ### Functions -/

/-- A variable is what a value declares at an index. -/
structure Variable.Realizes (v : Variable) (index : Nat) (data : Value) : Prop where
  /-- The name is the one that is given. -/
  name : data.get? "name" = some (.string v.name)
  /-- The type is spelled. -/
  type : ∃ spelling, data.get? "type" = some spelling ∧ spelling.Spells v.type
  /-- The index is the one that the variable stands at. -/
  index : v.index = some index

/-- Variables are what some values declare, one by one. -/
def Variable.AllRealize (locals : List Variable) (items : List Value) : Prop :=
  List.Forall₂ (fun p data ↦ p.1.Realizes p.2 data) locals.zipIdx items

/-- The names of declared variables are those that are given, in order. -/
theorem Variable.names_eq {locals : List Variable} {index : Nat} {items : List Value}
    (h : List.Forall₂ (fun p data ↦ p.1.Realizes p.2 data) (locals.zipIdx index) items) :
    locals.map Variable.name = items.filterMap Value.name? := by
  induction locals generalizing index items with
  | nil =>
    cases h
    rfl
  | cons v rest ih =>
    obtain _ | ⟨hv, hrest⟩ := h
    rw [List.map_cons, List.filterMap_cons_some (Value.name?_eq_some.2 hv.name), ih hrest]

/-- A function is what a value describes. -/
structure Function.Realizes (s : LoadSettings) (f : Function) (data : Value) : Prop where
  /-- The name is the one that is given. -/
  name : data.get? "name" = some (.string f.name)
  /-- The variables are those that are declared, each at its index. -/
  locals : ∃ items, data.walkOf? "variables" = some items ∧ Variable.AllRealize f.locals items
  /-- No two variables have one name. -/
  nodup_names : (f.locals.map Variable.name).Nodup
  /-- The body is what is described, outside of all containers. -/
  body : ∃ d, data.get? "body" = some d ∧ f.body.Realizes s f.locals [] d
  /-- No two blocks or containers of the body are one. -/
  nodup_serials : f.body.serials.Nodup

theorem Function.Realizes.resolved {f : Function} {data : Value} (h : f.Realizes s data) :
    f.Resolved := by
  obtain ⟨d, -, hbody⟩ := h.body
  exact ⟨h.nodup_names, hbody.resolved ⟨h.nodup_serials, nofun⟩⟩

end StructuredIL
