import StructuredIL.Proofs.Loading.Functions
import StructuredIL.Proofs.Tree.Notation

/-!
# Loaded trees that are legible

A function that is loaded, in whatever way and from whatever document, is what some document says
(`Function.IsLoaded.exists_realizes`). If what is named in it is a name, its tree is legible: the
targets of jumps are among its blocks and containers, and its variables among those it declares
(`Node.Realizes.isLegible`).

A leave holds its target, but its notation has the label only. In a loaded tree that is enough to
know the kind of the target, since the target is the innermost container of its label
(`Node.IsReadable.kind_of_leave`). Only the labels and kinds of the containers around a node are
needed for it.
-/

namespace StructuredIL

/-! ### Loaded functions -/

/-- A function that is loaded: by itself, as one of a module, or as one of the module that a text is
written for. -/
inductive Function.IsLoaded (f : Function) : Prop
  | byItself {s : LoadSettings} {data : Value} {w w' : Workspace} :
      Build.buildFunction s data w = .ok f w' → f.IsLoaded
  | inModule {s : LoadSettings} {data : Value} {w w' : Workspace} {fs : List Function} :
      Build.buildModule s data w = .ok fs w' → f ∈ fs → f.IsLoaded
  | inText {s : LoadSettings} {text : List Char} {fs : List Function} :
      (load s text).outcome = .ok fs → f ∈ fs → f.IsLoaded

theorem Function.IsLoaded.exists_realizes {f : Function} (h : f.IsLoaded) :
    ∃ s data, f.Realizes s data := by
  cases h with
  | @byItself s data w w' h =>
    cases data with
    | object members => exact ⟨s, _, ((Build.ends_buildFunction s members).of_ok trivial h).1⟩
    | _ => cases h
  | @inModule s data w w' fs h hf =>
    obtain ⟨items, -, hall⟩ := Build.realizes_of_buildModule h
    obtain ⟨item, -, hitem⟩ := exists_of_forall₂ hall hf
    exact ⟨s, item, hitem⟩
  | @inText s text fs h hf =>
    obtain ⟨data, items, -, -, hall⟩ := exists_realizes_of_load h
    obtain ⟨item, -, hitem⟩ := exists_of_forall₂ hall hf
    exact ⟨s, item, hitem⟩

theorem Function.IsLoaded.resolved {f : Function} (h : f.IsLoaded) : f.Resolved := by
  obtain ⟨s, data, hrealizes⟩ := h.exists_realizes
  exact hrealizes.resolved

/-! ### Names -/

/-- What a node names for others is a name: the label of a block or a container; also what it
calls. -/
def Node.HasName : Node → Prop
  | .call _ method => method.IsName
  | .block b => b.head.label.IsName
  | .container head _ => head.label.IsName
  | _ => True

/-- All that is named in a function is a name. -/
structure Function.HasNames (f : Function) : Prop where
  /-- Its own name. -/
  name : C.isIdentifier f.name = true
  /-- The names of its variables. -/
  locals : ∀ v ∈ f.locals, C.isIdentifier v.name = true
  /-- What is called in its body, and the labels of blocks and containers. -/
  body : ∀ n ∈ f.body.nodes, n.HasName

/-- The labels of an open container and of its blocks are names. -/
structure OpenContainer.HasNames (c : OpenContainer) : Prop where
  /-- The label of the container. -/
  head : c.head.label.IsName
  /-- The labels of its blocks. -/
  blocks : ∀ b ∈ c.blocks, b.label.IsName

variable {s : LoadSettings} {locals : List Variable} {around : List OpenContainer}

theorem OpenContainer.HasNames.ofBlocks {head : ContainerHead} {blocks : List Block}
    (h : ∀ m ∈ (Node.container head blocks).nodes, m.HasName) :
    (OpenContainer.ofBlocks head blocks).HasNames := by
  obtain ⟨hhead, hblocks⟩ := Node.forall_nodes_iff.1 h
  refine ⟨hhead, List.forall_mem_map.2 fun b hb ↦ ?_⟩
  exact (Node.forall_nodes_iff.1 (hblocks (.block b) (List.mem_map_of_mem hb))).1

/-- **A tree is legible** if what it names is a name, and what is named around it. -/
theorem Node.Realizes.isLegible {n : Node} {data : Value} (h : n.Realizes s locals around data)
    (hlocals : ∀ v ∈ locals, C.isIdentifier v.name = true)
    (haround : ∀ c ∈ around, c.HasNames) (hnames : ∀ m ∈ n.nodes, m.HasName) :
    ∀ m ∈ n.nodes, m.IsLegible := by
  induction n using Node.induction generalizing around data with
  | nop => exact Node.forall_nodes_of_leaf rfl trivial
  | bare op => exact h.elim
  | constant value => exact Node.forall_nodes_of_leaf rfl h.2.2
  | load v => exact Node.forall_nodes_of_leaf rfl (hlocals v h.2.2)
  | compare kind l r ihl ihr =>
    obtain ⟨-, -, ⟨_, -, hl⟩, ⟨_, -, hr⟩⟩ := h
    simp only [Node.nodes, List.forall_mem_cons, List.forall_mem_append] at hnames ⊢
    exact ⟨trivial, ihl hl haround hnames.2.1, ihr hr haround hnames.2.2⟩
  | binary op l r ihl ihr =>
    obtain ⟨-, -, ⟨_, -, hl⟩, ⟨_, -, hr⟩⟩ := h
    simp only [Node.nodes, List.forall_mem_cons, List.forall_mem_append] at hnames ⊢
    exact ⟨trivial, ihl hl haround hnames.2.1, ihr hr haround hnames.2.2⟩
  | store v value ih =>
    obtain ⟨-, -, hv, _, -, hvalue⟩ := h
    simp only [Node.nodes, List.forall_mem_cons] at hnames ⊢
    exact ⟨hlocals v hv, ih hvalue haround hnames.2⟩
  | branch target =>
    obtain ⟨-, label, c, -, hc, hfind⟩ := h
    have hopen := haround c (List.mem_of_head? hc)
    exact Node.forall_nodes_of_leaf rfl (hopen.blocks target (List.mem_of_find?_eq_some hfind))
  | cond c yes no ihc ihyes ihno =>
    obtain ⟨-, ⟨_, -, hc⟩, ⟨_, -, hyes⟩, hno⟩ := h
    simp only [Node.nodes, List.forall_mem_cons, List.forall_mem_append] at hnames ⊢
    refine ⟨trivial, ⟨ihc hc haround hnames.2.1.1, ihyes hyes haround hnames.2.1.2⟩, ?_⟩
    split at hno
    · rw [hno]
      exact Node.forall_nodes_of_leaf rfl trivial
    · exact ihno hno haround hnames.2.2
  | call arguments method ih =>
    obtain ⟨-, -, items, -, hall⟩ := h
    obtain ⟨hroot, hbelow⟩ := Node.forall_nodes_iff.1 hnames
    refine Node.forall_nodes_iff.2 ⟨hroot, fun a ha ↦ ?_⟩
    obtain ⟨d, hd⟩ := hall.exists_of_mem ha
    exact ih a ha hd haround (hbelow a ha)
  | leave target value ih =>
    obtain ⟨-, hvalue, c, rfl, hc⟩ := h
    have hopen : c ∈ around := by
      split at hc
      · exact List.mem_of_head? hc
      · exact List.mem_of_find?_eq_some hc
    simp only [Node.nodes, List.forall_mem_cons] at hnames ⊢
    refine ⟨(haround c hopen).head, ?_⟩
    split at hvalue
    · rw [hvalue]
      exact Node.forall_nodes_of_leaf rfl trivial
    · exact ih hvalue haround hnames.2
  | block b ih =>
    obtain ⟨hroot, hbelow⟩ := Node.forall_nodes_iff.1 hnames
    refine Node.forall_nodes_iff.2 ⟨hroot, fun i hi ↦ ?_⟩
    obtain ⟨d, hd⟩ := h.2.exists_of_mem hi
    exact ih i hi hd haround (hbelow i hi)
  | container head blocks ih =>
    obtain ⟨-, -, -, items, -, hall⟩ := h
    obtain ⟨hroot, hbelow⟩ := Node.forall_nodes_iff.1 hnames
    have hinside : ∀ c ∈ OpenContainer.ofBlocks head blocks :: around, c.HasNames :=
      List.forall_mem_cons.2 ⟨.ofBlocks hnames, haround⟩
    refine Node.forall_nodes_iff.2 ⟨hroot, List.forall_mem_map.2 fun b hb ↦ ?_⟩
    obtain ⟨hhead, hi⟩ := Node.forall_nodes_iff.1 (hbelow (.block b) (List.mem_map_of_mem hb))
    refine Node.forall_nodes_iff.2 ⟨hhead, fun i hmem ↦ ?_⟩
    obtain ⟨_, data, hblock⟩ := hall.exists_of_mem hb
    obtain ⟨d, hd⟩ := hblock.exists_of_mem hmem
    exact ih b hb i hmem hd hinside (hi i hmem)

/-! ### Readable nodes -/

/-- The labels and kinds of open containers. -/
def openHeads (around : List OpenContainer) : List (Value × ContainerKind) :=
  around.map fun c ↦ (c.head.label, c.head.kind)

/-- The kind of the innermost open container of a label. -/
def kindOf? (heads : List (Value × ContainerKind)) (label : Value) : Option ContainerKind :=
  (heads.find? fun p ↦ p.1.same label).map Prod.snd

/-- A node that is what some value describes, and legible. -/
structure Node.IsReadable (around : List OpenContainer) (n : Node) : Prop where
  /-- It is what a value describes. -/
  realized : ∃ s locals data, n.Realizes s locals around data
  /-- It is legible, with all that is below it. -/
  legible : ∀ m ∈ n.nodes, m.IsLegible

/-- Only a text is the same as a text. -/
theorem Value.eq_of_string_same {t : Text} {v : Value} (h : (Value.string t).same v = true) :
    v = .string t := by
  cases v with
  | string u =>
    rw [same_string, beq_iff_eq] at h
    rw [h]
  | _ => simp [same, sameScalar, integer?] at h

namespace Node.IsReadable

variable {n : Node}

theorem root (h : n.IsReadable around) : n.IsLegible := (forall_nodes_iff.1 h.legible).1

theorem below (h : n.IsReadable around) {c : Node} (hc : c ∈ n.children) :
    ∀ k ∈ c.nodes, k.IsLegible :=
  (forall_nodes_iff.1 h.legible).2 c hc

theorem yes {c yes no : Node} (h : (cond c yes no).IsReadable around) : yes.IsReadable around := by
  obtain ⟨⟨s, locals, data, -, -, ⟨_, -, hyes⟩, -⟩, hlegible⟩ := h
  exact ⟨⟨s, locals, _, hyes⟩, (forall_nodes_iff.1 hlegible).2 yes (by simp [children])⟩

/-- The second arm, where it is shown. -/
theorem no {c yes no : Node} (h : (cond c yes no).IsReadable around)
    (hno : no.isEmptyStatement = false) : no.IsReadable around := by
  obtain ⟨⟨s, locals, data, -, -, -, hrealized⟩, hlegible⟩ := h
  refine ⟨?_, (forall_nodes_iff.1 hlegible).2 no (by simp [children])⟩
  split at hrealized
  · rw [hrealized] at hno
    cases hno
  · exact ⟨s, locals, _, hrealized⟩

theorem instruction {b : Block} (h : (block b).IsReadable around) {i : Node}
    (hi : i ∈ b.instructions) : i.IsReadable around := by
  obtain ⟨⟨s, locals, data, hrealized⟩, hlegible⟩ := h
  obtain ⟨d, hd⟩ := hrealized.2.exists_of_mem hi
  exact ⟨⟨s, locals, d, hd⟩, (forall_nodes_iff.1 hlegible).2 i hi⟩

theorem inside {head : ContainerHead} {blocks : List Block}
    (h : (container head blocks).IsReadable around) {b : Block} (hb : b ∈ blocks) {i : Node}
    (hi : i ∈ b.instructions) : i.IsReadable (.ofBlocks head blocks :: around) := by
  obtain ⟨⟨s, locals, data, -, -, -, items, -, hall⟩, hlegible⟩ := h
  obtain ⟨_, d, hblock⟩ := hall.exists_of_mem hb
  obtain ⟨e, he⟩ := hblock.exists_of_mem hi
  have hlegibleBlock := (forall_nodes_iff.1 hlegible).2 (block b) (List.mem_map_of_mem hb)
  exact ⟨⟨s, locals, e, he⟩, (forall_nodes_iff.1 hlegibleBlock).2 i hi⟩

/-- **The kind of a leave's target** is that of the innermost container of its label. -/
theorem kind_of_leave {target : ContainerHead} {value : Node}
    (h : (leave target value).IsReadable around) :
    kindOf? (openHeads around) target.label = some target.kind := by
  obtain ⟨⟨s, locals, data, -, -, c, rfl, hc⟩, hlegible⟩ := h
  obtain ⟨t, ht, -⟩ : c.head.label.IsName := (forall_nodes_iff.1 hlegible).1
  have hsame : c.head.label.same c.head.label = true := by
    rw [ht, Value.same_string, beq_self_eq_true]
  suffices hfind : (around.find? fun o ↦ o.head.label.same c.head.label) = some c by
    rw [kindOf?, openHeads, List.find?_map, Function.comp_def, hfind]
    rfl
  split at hc
  · cases around with
    | nil => cases hc
    | cons o rest =>
      obtain rfl := Option.some.inj hc
      exact List.find?_cons_of_pos hsame
  · rename_i label _
    have hlabel : label = c.head.label := by
      have hfound := List.find?_some (p := fun o : OpenContainer ↦ o.head.label.same label) hc
      rw [ht] at hfound ⊢
      exact Value.eq_of_string_same hfound
    rw [← hlabel]
    exact hc

end Node.IsReadable

/-- The body of a loaded function is readable if all that is named in the function is a name. -/
theorem Function.IsLoaded.isReadable {f : Function} (h : f.IsLoaded) (hnames : f.HasNames) :
    f.body.IsReadable [] := by
  obtain ⟨s, data, hrealizes⟩ := h.exists_realizes
  obtain ⟨d, -, hbody⟩ := hrealizes.body
  exact ⟨⟨s, f.locals, d, hbody⟩, hbody.isLegible hnames.locals nofun hnames.body⟩

end StructuredIL
