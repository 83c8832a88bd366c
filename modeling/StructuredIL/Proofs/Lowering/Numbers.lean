import StructuredIL.Proofs.C.IntegerTypes
import StructuredIL.Proofs.C.ReadingBack
import StructuredIL.Proofs.Lowering.Survival
import StructuredIL.Proofs.Tree.Structured
import StructuredIL.Tree.Query

/-!
# The numbers that expressions are in C

The value of an expression in a tree has 32 bits, and what the expression is read as has a number of
C for its value, which may be a `long`. `Node.Represents` says for which uses the number is as good
as the value: always to be stored, and to be compared or printed if no constant in the expression
makes it too wide for that. Between the two stands the tree as a term (`Node.term?`), which has the
constants of the tree, and is what is read, up to the grouping of its sums.
-/

namespace StructuredIL

open C

variable {locals : List Variable} {around : List OpenContainer} {n : Node} {e : Expr} {t : Term}
  {τ : Text → Int32}

/-! ### Names and constants -/

theorem Node.IsExpr.isOver (h : n.IsExpr e) (hn : n.Resolved locals around) :
    e.IsOver (locals.map Variable.name) := by
  induction h with
  | constant _ => trivial
  | load => exact List.mem_map_of_mem hn
  | compare _ _ _ ihl ihr => exact ⟨ihl hn.1, ihr hn.2⟩
  | add _ _ ihl ihr => exact ⟨ihl hn.1, ihr hn.2⟩

/-- An expression without a comparison in an operand is built in layers. -/
theorem Node.IsExpr.isLayered (h : n.IsExpr e) (hn : n.IsFlat) :
    n.IsLayered IsSum ∧ (n.isCompare = false → n.IsSum) := by
  -- what is no comparison is a sum, which the rules for both operators ask of their operands
  induction h with
  | constant _ => exact ⟨.order (.sum (.operand rfl)), fun _ ↦ .operand rfl⟩
  | load => exact ⟨.order (.sum (.operand rfl)), fun _ ↦ .operand rfl⟩
  | @compare kind rel l r _ _ hrel _ _ ihl ihr =>
    obtain ⟨hl, hr, hlflat, hrflat⟩ := hn
    obtain rfl := relationOf?_eq_some.1 hrel
    have hlsum := (ihl hlflat).2 hl
    have hrsum := (ihr hrflat).2 hr
    refine ⟨?_, fun h ↦ absurd h (Bool.noConfusion ·)⟩
    show ((Operator.relation rel).node l r).IsLayered IsSum
    by_cases hequal : rel = .equal
    · subst hequal
      exact .equate rfl (.order (.sum hlsum)) (.sum hrsum)
    · exact .order (.compare (bne_iff_ne.2 hequal) (.sum hlsum) hrsum)
  | add _ _ ihl ihr =>
    obtain ⟨hl, hr, hlflat, hrflat⟩ := hn
    have hsum := IsSum.add ((ihl hlflat).2 hl) ((ihr hrflat).2 hr)
    exact ⟨.order (.sum hsum), fun _ ↦ hsum⟩

namespace Node

/-- The constants of a tree, in order. -/
def constants (n : Node) : List Int := n.nodes.filterMap constantValue?

theorem IsExpr.literals_eq (h : n.IsExpr e) : e.literals = n.constants := by
  induction h with
  | constant _ => rfl
  | load => rfl
  | compare _ _ _ ihl ihr | add _ _ ihl ihr =>
    rw [Expr.literals, ihl, ihr]
    exact (List.filterMap_append ..).symm

/-- The constants of a resolved tree have 32 bits. -/
theorem Resolved.int32_of_mem_constants (h : n.Resolved locals around) {value : Int}
    (hvalue : value ∈ n.constants) : Build.minInt32 ≤ value ∧ value ≤ Build.maxInt32 := by
  obtain ⟨m, hm, hconstant⟩ := List.mem_filterMap.1 hvalue
  obtain ⟨inner, hinner⟩ := h.exists_of_mem_nodes hm
  cases m with
  | constant v =>
    obtain rfl := Option.some.inj hconstant
    exact hinner
  | _ => cases hconstant

/-- What a resolved node is read as has a type among declarations of the variables. -/
theorem IsExpr.isTypable (h : n.IsExpr e) (hn : n.Resolved locals around) :
    e.regrouped.IsTypable (locals.map Variable.name) where
  names := (h.isOver hn).regrouped
  constants := by
    intro v hv
    rw [Expr.literals_regrouped, h.literals_eq] at hv
    exact hn.int32_of_mem_constants hv

theorem summands_subset_constants (n : Node) : n.summands ⊆ n.constants := by
  induction n using Node.induction with
  | constant value => exact List.Subset.refl _
  | binary op l r ihl ihr =>
    cases op with
    | add =>
      have hconstants : (binary .add l r).constants = l.constants ++ r.constants :=
        List.filterMap_append ..
      rw [summands, hconstants]
      exact List.append_subset.2 ⟨fun v hv ↦ List.mem_append_left _ (ihl hv),
        fun v hv ↦ List.mem_append_right _ (ihr hv)⟩
    | _ => exact List.nil_subset _
  | _ => exact List.nil_subset _

/-- The constants below a node of a tree are in the tree. -/
theorem constants_subset_of_mem_nodes {m : Node} (hm : m ∈ n.nodes) :
    m.constants ⊆ n.constants := by
  intro v hv
  obtain ⟨c, hc, hvalue⟩ := List.mem_filterMap.1 hv
  exact List.mem_filterMap.2 ⟨c, mem_nodes_of_mem_nodes hm hc, hvalue⟩

/-- Without the least constant everything is narrow. -/
theorem usesNarrow_of_not_mem_constants (h : Build.minInt32 ∉ n.constants) : n.UsesNarrow := by
  have hsummands : ∀ c ∈ n.children, Build.minInt32 ∉ c.summands := by
    intro c hc hmem
    have hnode : c ∈ n.nodes := mem_nodes_of_mem_children hc (by simp [nodes_eq c])
    exact h (constants_subset_of_mem_nodes hnode (c.summands_subset_constants hmem))
  have hnarrow : ∀ c ∈ n.children, c.IsNarrow := by
    intro c hc
    cases c with
    | binary op l r => exact hsummands _ hc
    | _ => trivial
  cases n with
  | compare kind l r => exact ⟨hnarrow l (by simp [children]), hnarrow r (by simp [children])⟩
  | cond c yes no => exact hnarrow c (by simp [children])
  | call arguments method => exact hsummands
  | _ => trivial

/-! ### The tree as a term -/

theorem IsExpr.exists_term? (h : n.IsExpr e) : ∃ t, n.term? = some t := by
  induction h with
  | constant _ => exact ⟨_, rfl⟩
  | load => exact ⟨_, rfl⟩
  | @compare kind rel l r _ _ hrel _ _ ihl ihr =>
    obtain rfl := relationOf?_eq_some.1 hrel
    obtain ⟨a, ha⟩ := ihl
    obtain ⟨b, hb⟩ := ihr
    exact ⟨_, (term?_node_eq_some (o := .relation rel)).2 ⟨a, b, ha, hb, rfl⟩⟩
  | add _ _ ihl ihr =>
    obtain ⟨a, ha⟩ := ihl
    obtain ⟨b, hb⟩ := ihr
    exact ⟨_, (term?_node_eq_some (o := .plus)).2 ⟨a, b, ha, hb, rfl⟩⟩

/-- The term has the sums of the tree, so it is as narrow as the tree, and what is compared in it as
narrow as what is compared in the tree. -/
theorem narrow_of_term? (h : n.term? = some t) : t.summands = n.summands ∧
    (n.IsNarrow → t.IsNarrow) ∧ ((∀ m ∈ n.nodes, m.UsesNarrow) → t.ComparesNarrow) := by
  refine induction_of_term? (motive := fun n t ↦ t.summands = n.summands ∧
    (n.IsNarrow → t.IsNarrow) ∧ ((∀ m ∈ n.nodes, m.UsesNarrow) → t.ComparesNarrow))
    ?constant ?load ?node h
  case constant => exact fun _ ↦ ⟨rfl, fun _ ↦ trivial, fun _ ↦ trivial⟩
  case load => exact fun _ ↦ ⟨rfl, fun _ ↦ trivial, fun _ ↦ trivial⟩
  case node =>
    rintro o l r a b ⟨hasum, hanarrow, hacompares⟩ ⟨hbsum, hbnarrow, hbcompares⟩
    have hchildren : (o.node l r).children = [l, r] := by cases o <;> rfl
    have hsummands : (Term.operation o a b).summands = (o.node l r).summands := by
      cases o with
      | plus => rw [Operator.node, summands, Term.summands, hasum, hbsum]
      | relation rel => rfl
    refine ⟨hsummands, fun hnarrow ↦ ?_, fun huses ↦ ?_⟩
    · rw [Term.IsNarrow, hsummands]
      cases o with
      | plus => exact hnarrow
      | relation rel => exact List.not_mem_nil
    · rw [forall_nodes_iff, hchildren, List.forall_mem_cons, List.forall_mem_singleton] at huses
      obtain ⟨huses, hl, hr⟩ := huses
      cases o with
      | plus => exact ⟨hacompares hl, hbcompares hr⟩
      | relation rel =>
        exact ⟨hanarrow huses.1, hbnarrow huses.2, hacompares hl, hbcompares hr⟩

/-! ### Values and numbers -/

/-- **A number that stands for a value of a node.** It is stored as the value. If the node is no sum
with the least constant it compares as the value, and without that constant it is printed as the
value. -/
structure Represents (n : Node) (a : Int32) (b : Number) : Prop where
  /-- What is stored of the number. -/
  stored : b.toInt32 = a
  /-- How the number compares. -/
  compared : n.IsNarrow → b.toInt = a.toInt
  /-- What is printed of the number. -/
  printed : Build.minInt32 ∉ n.summands → b.int? = some a

/-- A narrow expression decides what its number decides. -/
theorem Represents.isTrue_eq {a : Int32} {b : Number} (h : n.Represents a b) (hn : n.IsNarrow) :
    b.isTrue = (a != 0) := by
  rw [Number.isTrue, h.compared hn, Bool.eq_iff_iff, bne_iff_ne, bne_iff_ne, ne_eq, ne_eq,
    ← Int32.toInt_inj, Int32.toInt_zero]

/-- **A flat expression and what it is read as**: the value of the one is represented by the number
that the other is. -/
theorem IsExpr.exists_represents (h : n.IsExpr e) (hflat : n.IsFlat)
    (hn : n.Resolved locals around) (hnarrow : ∀ m ∈ n.nodes, m.UsesNarrow) (τ : Text → Int32) :
    ∃ a b, n.value? (τ ∘ Variable.name) = some a ∧ e.regrouped.number? τ = some b ∧
      n.Represents a b := by
  obtain ⟨t, ht⟩ := h.exists_term?
  obtain ⟨hsummands, htnarrow, htcompares⟩ := narrow_of_term? ht
  have hlayered := (h.isLayered hflat).1
  -- what is read has the sums of the term, in other groups
  have hsame : e.regrouped.SameSums t := hlayered.sameSums ht h
  have htypable := h.isTypable hn
  obtain ⟨b, hb, htype⟩ := htypable.exists_number? τ
  obtain ⟨hstored, hcompared⟩ :=
    htypable.toInt32_number? (hsame.comparesNarrow_iff.2 (htcompares hnarrow)) hb
  refine ⟨e.regrouped.value τ, b, ?_, hb, hstored, fun hn ↦ ?_, fun hleast ↦ ?_⟩
  · rw [← hlayered.value?_regrouped, h.value?_regrouped]
  · exact hcompared (hsame.isNarrow_iff.2 (htnarrow hn))
  · rw [hsame.summands_eq, hsummands, if_neg hleast] at htype
    rw [Number.int?, if_pos htype, hstored]

end Node

/-- A function without the least constant is narrow. -/
theorem Function.isNarrow_of_not_mem_constants {f : Function}
    (h : Build.minInt32 ∉ f.body.constants) : f.IsNarrow := fun _ hm ↦
  Node.usesNarrow_of_not_mem_constants (mt (Node.constants_subset_of_mem_nodes hm ·) h)

end StructuredIL
