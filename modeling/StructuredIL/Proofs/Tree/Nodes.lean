import StructuredIL.Proofs.Tree.Scope
import StructuredIL.Tree.Text

/-!
# All nodes of a tree

`Node.nodes` lists a tree with all that is below its root. It is the root followed by the nodes of
each child (`Node.nodes_eq`), so what is asked of all nodes of a tree is asked of the root and of
all nodes of its children (`Node.forall_nodes_iff`).

What keeps a tree from being written is asked of all its nodes. A tree of ordinary nodes, whose
constants have 32 bits and whose labels and methods are texts, can be written
(`Node.isWritable_of_isOrdinary`).
-/

namespace StructuredIL.Node

theorem nodesOfAll_eq (ns : List Node) : nodesOfAll ns = ns.flatMap nodes := by
  induction ns with
  | nil => rfl
  | cons n rest ih => rw [nodesOfAll, ih, List.flatMap_cons]

theorem nodes_block (b : Block) : (block b).nodes = block b :: b.instructions.flatMap nodes := by
  obtain ⟨head, instructions⟩ := b
  rw [nodes, nodesOfBlock, nodesOfAll_eq]

theorem nodesOfBlocks_eq (blocks : List Block) :
    nodesOfBlocks blocks = (blocks.map block).flatMap nodes := by
  induction blocks with
  | nil => rfl
  | cons b rest ih => rw [nodesOfBlocks, ih, List.map_cons, List.flatMap_cons, nodes]

/-- The root comes first, and then the children, each with all that is below it. -/
theorem nodes_eq (n : Node) : n.nodes = n :: n.children.flatMap nodes := by
  cases n with
  | call arguments method => rw [nodes, nodesOfAll_eq, children]
  | block b => exact nodes_block b
  | container head blocks => rw [nodes, nodesOfBlocks_eq, children]
  | _ => simp [nodes, children]

theorem mem_nodes_of_mem_children {n c m : Node} (hc : c ∈ n.children) (hm : m ∈ c.nodes) :
    m ∈ n.nodes := by
  rw [nodes_eq]
  exact List.mem_cons_of_mem _ (List.mem_flatMap.2 ⟨c, hc, hm⟩)

theorem forall_nodes_iff {P : Node → Prop} {n : Node} :
    (∀ m ∈ n.nodes, P m) ↔ P n ∧ ∀ c ∈ n.children, ∀ m ∈ c.nodes, P m := by
  rw [nodes_eq, List.forall_mem_cons, List.forall_mem_flatMap]

/-- A node without children is the only node of its tree. -/
theorem forall_nodes_of_leaf {P : Node → Prop} {n : Node} (hn : n.children = []) (h : P n) :
    ∀ m ∈ n.nodes, P m := by
  rw [forall_nodes_iff, hn]
  exact ⟨h, List.forall_mem_nil _⟩

/-- Induction from the children of a node to the node, in a tree whose nodes are all of one sort.
The blocks of a container are children of it, and not only what is in them. -/
theorem induction_of_forall_nodes {P motive : Node → Prop}
    (step : ∀ n : Node, P n → (∀ c ∈ n.children, ∀ m ∈ c.nodes, P m) →
      (∀ c ∈ n.children, motive c) → motive n) {n : Node} (h : ∀ m ∈ n.nodes, P m) : motive n := by
  have hstep : ∀ n : Node, (∀ c ∈ n.children, (∀ m ∈ c.nodes, P m) → motive c) →
      (∀ m ∈ n.nodes, P m) → motive n := by
    intro n ih h
    obtain ⟨hn, hchildren⟩ := forall_nodes_iff.1 h
    exact step n hn hchildren fun c hc ↦ ih c hc (hchildren c hc)
  induction n using Node.induction with
  | nop => exact hstep _ nofun h
  | bare op => exact hstep _ nofun h
  | constant value => exact hstep _ nofun h
  | load v => exact hstep _ nofun h
  | compare kind l r ihl ihr => exact hstep _ (by simpa [children] using ⟨ihl, ihr⟩) h
  | binary op l r ihl ihr => exact hstep _ (by simpa [children] using ⟨ihl, ihr⟩) h
  | store v value ih => exact hstep _ (by simpa [children] using ih) h
  | branch target => exact hstep _ nofun h
  | cond c yes no ihc ihyes ihno => exact hstep _ (by simpa [children] using ⟨ihc, ihyes, ihno⟩) h
  | call arguments method ih => exact hstep _ ih h
  | leave target value ih => exact hstep _ (by simpa [children] using ih) h
  | block b ih => exact hstep _ ih h
  | container head blocks ih =>
    refine hstep _ (fun c hc ↦ ?_) h
    obtain ⟨b, hb, rfl⟩ := List.mem_map.1 hc
    exact hstep _ (ih b hb)

/-- What is below a node of a tree is in the tree. -/
theorem mem_nodes_of_mem_nodes {n c m : Node} (hc : c ∈ n.nodes) (hm : m ∈ c.nodes) :
    m ∈ n.nodes := by
  refine induction_of_forall_nodes (P := fun _ ↦ True)
    (motive := fun n ↦ ∀ c ∈ n.nodes, ∀ m ∈ c.nodes, m ∈ n.nodes) ?_ (fun _ _ ↦ trivial) c hc m hm
  intro n _ _ ih
  refine forall_nodes_iff.2 ⟨fun _ hm ↦ hm, fun d hd c hc m hm ↦ ?_⟩
  exact mem_nodes_of_mem_children hd (ih d hd c hc m hm)

/-! ### Trees that are resolved -/

section Resolved

variable {locals : List Variable} {around : List OpenContainer} {n m : Node}

theorem Resolved.exists_of_mem_children (h : n.Resolved locals around) (hm : m ∈ n.children) :
    ∃ inner, m.Resolved locals inner := by
  cases n with
  | compare kind l r | binary op l r =>
    rcases List.mem_pair.1 hm with rfl | rfl
    · exact ⟨around, h.1⟩
    · exact ⟨around, h.2⟩
  | store v value =>
    obtain rfl := List.mem_singleton.1 hm
    exact ⟨around, h.2⟩
  | cond c yes no =>
    obtain ⟨hc, hyes, hno⟩ := h
    simp only [children, List.mem_cons, List.not_mem_nil, or_false] at hm
    rcases hm with rfl | rfl | rfl
    · exact ⟨around, hc⟩
    · exact ⟨around, hyes⟩
    · exact ⟨around, hno⟩
  | call arguments method => exact ⟨around, allResolved_iff.1 h m hm⟩
  | leave target value =>
    obtain rfl := List.mem_singleton.1 hm
    exact ⟨around, h.2⟩
  | block b => exact ⟨around, Block.resolved_iff.1 h m hm⟩
  | container head blocks =>
    obtain ⟨b, hb, rfl⟩ := List.mem_map.1 hm
    exact ⟨_, Block.allResolved_iff.1 h.2.2 b hb⟩
  | _ => exact absurd hm List.not_mem_nil

/-- Every node of a resolved tree is resolved, among the containers around it. -/
theorem Resolved.exists_of_mem_nodes (h : n.Resolved locals around) (hm : m ∈ n.nodes) :
    ∃ inner, m.Resolved locals inner := by
  refine induction_of_forall_nodes (P := fun _ ↦ True) (motive := fun n ↦ ∀ around,
    n.Resolved locals around → ∀ m ∈ n.nodes, ∃ inner, m.Resolved locals inner) ?_
    (fun _ _ ↦ trivial) around h m hm
  intro n _ _ ih around h
  refine forall_nodes_iff.2 ⟨⟨around, h⟩, fun c hc ↦ ?_⟩
  obtain ⟨inner, hinner⟩ := h.exists_of_mem_children hc
  exact ih c hc inner hinner

end Resolved

/-! ### Trees that can be written -/

/-- Integers of 32 bits are short enough to be written. -/
theorem isWritable_of_int32 {value : Int} (h : Build.minInt32 ≤ value ∧ value ≤ Build.maxInt32) :
    StructuredIL.isWritable value = true := by
  have hpow {k : Nat} (hk : 10 ≤ k) : Nat.pow 10 10 ≤ Nat.pow 10 k :=
    Nat.pow_le_pow_right (by omega) hk
  have hvalue : value.natAbs < Nat.pow 10 10 := by
    obtain ⟨hmin, hmax⟩ := h
    rw [Build.minInt32] at hmin
    rw [Build.maxInt32] at hmax
    show value.natAbs < 10 ^ 10
    omega
  have hdigits : 10 ≤ maxDigits := by decide
  exact decide_eq_true (Nat.lt_of_lt_of_le hvalue (hpow hdigits))

/-- What a node itself holds is ordinary: a constant has 32 bits, a label or a method is a text. -/
def IsOrdinary : Node → Prop
  | constant value => Build.minInt32 ≤ value ∧ value ≤ Build.maxInt32
  | branch target => ∃ t, target.label = .string t
  | call _ method => ∃ t, method = .string t
  | leave target _ => ∃ t, target.label = .string t
  | block b => ∃ t, b.head.label = .string t
  | container head _ => ∃ t, head.label = .string t
  | _ => True

theorem areWritable_iff {ns : List Node} : areWritable ns ↔ ∀ n ∈ ns, n.isWritable := by
  induction ns with
  | nil => simp [areWritable]
  | cons n rest ih => simp [areWritable, ih]

theorem isWritable_of_isOrdinary {n : Node} (h : ∀ m ∈ n.nodes, m.IsOrdinary) : n.isWritable := by
  refine induction_of_forall_nodes (motive := fun n ↦ n.isWritable = true) ?_ h
  intro n hn _ ih
  cases n with
  | constant value => exact isWritable_of_int32 hn
  | call arguments method =>
    obtain ⟨t, rfl⟩ := hn
    rw [isWritable, Value.isShowable_string, Bool.true_and]
    exact areWritable_iff.2 ih
  | branch target | leave target value | block b | container head blocks =>
    obtain ⟨t, ht⟩ := hn
    simp_all [isWritable, children]
  | _ => simp_all [isWritable, children]

end StructuredIL.Node
