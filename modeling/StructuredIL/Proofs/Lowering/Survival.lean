import StructuredIL.Proofs.C.Reassociation
import StructuredIL.Proofs.Lowering.Expressions

/-!
# Which expressions are read back

`Node.term?` is an expression as a term, grouped as the tree groups it. Its text is read as a term
as well, and the two are compared here as trees: they are the same up to the grouping of sums
exactly if the tree is built in layers, sums below comparisons by order below comparisons for
equality, and the latter two from the left (`read_text_sameSums_iff`). Every other tree is read as
another expression, and nothing is said about it; that the other expression may have the same value
by chance is a different matter.

One direction is that what is built in layers is grouped as it is built, for any operands with an
associative sum, and so for terms up to the grouping of sums (`Node.IsLayered.sameSums`). The other
is that what is read has a rank below three, that the rank does not depend on the grouping of sums,
and that a tree of rank below three is built in layers (`Node.isOfRank_of_rank_le`).
-/

namespace StructuredIL

open C

/-- A term that can be written: its names are names, and no integer in it is too long. -/
def C.Term.IsWritable : Term → Prop
  | literal value => StructuredIL.isWritable value = true
  | name t => IsName t
  | operation _ l r => l.IsWritable ∧ r.IsWritable

namespace Node

/-- An expression of operands, sums and comparisons that have a counterpart in C, as a term. -/
def term? : Node → Option Term
  | constant value => some (.literal value)
  | load source => some (.name source.name)
  | compare kind l r => do
    let rel ← relationOf? kind
    return .operation (.relation rel) (← l.term?) (← r.term?)
  | binary .add l r => do return .operation .plus (← l.term?) (← r.term?)
  | _ => none

variable {n : Node} {e : Expr} {t : Term}

theorem term?_node (o : Operator) (l r : Node) :
    (o.node l r).term? = do return .operation o (← l.term?) (← r.term?) := by
  cases o with
  | plus => rw [Operator.node, term?]
  | relation rel => rw [Operator.node, term?, relationOf?_eq_some.2 rfl]; rfl

theorem term?_node_eq_some {o : Operator} {l r : Node} :
    (o.node l r).term? = some t ↔
      ∃ a b, l.term? = some a ∧ r.term? = some b ∧ .operation o a b = t := by
  simp [term?_node, Option.bind_eq_some_iff]

/-- Induction over the nodes that are terms: an operand, or an operator between two such nodes. -/
theorem induction_of_term? {motive : Node → Term → Prop}
    (constant : ∀ value, motive (.constant value) (.literal value))
    (load : ∀ v, motive (.load v) (.name v.name))
    (node : ∀ o l r a b, motive l a → motive r b → motive (Operator.node o l r) (.operation o a b))
    (h : n.term? = some t) : motive n t := by
  induction n using Node.induction generalizing t with
  | constant value =>
    obtain rfl := Option.some.inj h
    exact constant value
  | load v =>
    obtain rfl := Option.some.inj h
    exact load v
  | compare kind l r ihl ihr =>
    obtain ⟨rel, hrel, -⟩ := Option.bind_eq_some_iff.1 h
    obtain rfl := relationOf?_eq_some.1 hrel
    obtain ⟨a, b, ha, hb, rfl⟩ := (term?_node_eq_some (o := .relation rel)).1 h
    exact node (.relation rel) l r a b (ihl ha) (ihr hb)
  | binary op l r ihl ihr =>
    cases op with
    | add =>
      obtain ⟨a, b, ha, hb, rfl⟩ := (term?_node_eq_some (o := .plus)).1 h
      exact node .plus l r a b (ihl ha) (ihr hb)
    | _ => cases h
  | _ => cases h

/-! ### Lowering -/

/-- What is a term that can be written is lowered. -/
theorem exists_isExpr_of_term? (h : n.term? = some t) (ht : t.IsWritable) :
    ∃ e, n.IsExpr e ∧ e.IsReadable := by
  refine induction_of_term? (motive := fun n t ↦ t.IsWritable → ∃ e, n.IsExpr e ∧ e.IsReadable)
    ?constant ?load ?node h ht
  case constant => exact fun value hvalue ↦ ⟨_, .constant hvalue, trivial⟩
  case load => exact fun v hv ↦ ⟨_, .load, hv⟩
  case node =>
    rintro o l r a b ihl ihr ⟨ha, hb⟩
    obtain ⟨x, hx, hxreads⟩ := ihl ha
    obtain ⟨y, hy, hyreads⟩ := ihr hb
    cases o with
    | plus => exact ⟨_, .add hx hy, hxreads, hyreads⟩
    | relation rel => exact ⟨_, .compare (relationOf?_eq_some.2 rfl) hx hy, hxreads, hyreads⟩

/-! ### Terms that are read back -/

/-- The class of an expression, of which the grouping of sums is forgotten. -/
def sumClass? (n : Node) : Option SumClass := n.term?.map SumClass.of

end Node

/-- An operator between two classes, if they are given. -/
def C.Operator.joined? (o : Operator) (a b : Option SumClass) :
    Option SumClass := do
  return SumClass.operation o (← a) (← b)

namespace Node

variable {n : Node} {e : Expr} {t : Term}

theorem sumClass?_node (o : Operator) (l r : Node) :
    (o.node l r).sumClass? = o.joined? l.sumClass? r.sumClass? := by
  rw [sumClass?, term?_node, sumClass?, sumClass?]
  cases l.term? <;> cases r.term? <;> rfl

theorem joined?_plus_assoc (a b c : Option SumClass) :
    Operator.plus.joined? (Operator.plus.joined? a b) c =
      Operator.plus.joined? a (Operator.plus.joined? b c) := by
  cases a <;> cases b <;> cases c <;> simp [Operator.joined?, SumClass.plus_assoc]

theorem IsExpr.map_chain_sumClass? (h : n.IsExpr e) :
    n.chain.map sumClass? = (e.chain.map SumClass.of).map some := by
  induction h with
  | constant _ => rfl
  | load => rfl
  | compare hrel _ _ ihl ihr =>
    rw [chain_compare hrel, Expr.chain, Chain.map_join, Chain.map_join, Chain.map_join, ihl, ihr]
  | add _ _ ihl ihr =>
    rw [chain, Expr.chain, Chain.map_join, Chain.map_join, Chain.map_join, ihl, ihr]

/-- **What is built in layers is read as it is**, up to the grouping of sums. -/
theorem IsLayered.sameSums (h : n.IsLayered IsSum) (ht : n.term? = some t) (he : n.IsExpr e) :
    e.regrouped.SameSums t := by
  refine SumClass.of_eq_of_iff.1 (Option.some.inj ?_)
  calc some (SumClass.of e.regrouped)
    _ = some ((e.chain.map SumClass.of).group SumClass.operation) := by
      rw [Expr.regrouped, SumClass.of_group]
    _ = ((e.chain.map SumClass.of).map some).group Operator.joined? :=
      Chain.map_group (fun _ _ _ ↦ rfl) _
    _ = (n.chain.map sumClass?).group Operator.joined? := by rw [he.map_chain_sumClass?]
    _ = n.sumClass? :=
      h.group_eq sumClass?_node fun m hm ↦ hm.level_eq sumClass?_node joined?_plus_assoc
    _ = some (SumClass.of t) := by rw [sumClass?, ht, Option.map_some]

/-- The layers by rank: sums, comparisons by order, comparisons for equality. -/
def IsOfRank : Nat → Node → Prop
  | 0 => IsSum
  | 1 => IsOrder IsSum
  | _ => IsLayered IsSum

/-- Each layer has those below it in it. -/
theorem IsOfRank.mono {j k : Nat} (h : n.IsOfRank j) (hjk : j ≤ k) : n.IsOfRank k := by
  match j, k with
  | 0, 0 => exact h
  | 0, 1 => exact .sum h
  | 0, _ + 2 => exact .order (.sum h)
  | 1, 1 => exact h
  | 1, _ + 2 => exact .order h
  | _ + 2, _ + 2 => exact h

/-- An operator puts together what is of its layer and what is of the layer below. -/
theorem isOfRank_node {o : Operator} {l r : Node} (hl : l.IsOfRank o.rank)
    (hr : r.IsOfRank (o.rank - 1)) : (o.node l r).IsOfRank o.rank := by
  cases o with
  | plus => exact .add hl hr
  | relation rel =>
    cases rel with
    | equal => exact .equate rfl hl hr
    | _ => exact .compare rfl hl hr

/-- **A tree of rank below three is built in layers.** -/
theorem isOfRank_of_rank_le {k : Nat} (h : n.term? = some t) (hk : k ≤ 2) (ht : t.rank ≤ k) :
    n.IsOfRank k := by
  refine induction_of_term? (motive := fun n t ↦ ∀ k ≤ 2, t.rank ≤ k → n.IsOfRank k)
    ?constant ?load ?node h k hk ht
  case constant =>
    intro value k _ _
    exact IsOfRank.mono (j := 0) (.operand rfl) k.zero_le
  case load =>
    intro v k _ _
    exact IsOfRank.mono (j := 0) (.operand rfl) k.zero_le
  case node =>
    intro o l r a b ihl ihr k hk hrank
    obtain ⟨ha, hb, ho⟩ := (Term.rank_operation_le_iff hk).1 hrank
    exact (isOfRank_node (ihl _ (by omega) ha) (ihr _ (by omega) hb)).mono ho

end Node

/-- **Which expressions are read back.** An expression of operands, sums and comparisons that have
a counterpart, as a term that can be written, is lowered in every mode without a diagnostic. Its
text is read as the same term, up to the grouping of sums, exactly if it is built in layers: a sum
of operands in any way, comparisons of sums by order from the left, and comparisons of these for
equality from the left. -/
theorem read_text_sameSums_iff {n : Node} {t : Term} (h : n.term? = some t) (ht : t.IsWritable) :
    ∃ e u, (∀ mode, lowerExpr mode n = pure e) ∧ Term.read? e.text = some u ∧
      (u.SameSums t ↔ n.IsLayered Node.IsSum) := by
  obtain ⟨e, he, hreads⟩ := Node.exists_isExpr_of_term? h ht
  refine ⟨e, e.regrouped, he.lowerExpr_eq, Expr.read?_text hreads, fun hsame ↦ ?_, fun hn ↦ ?_⟩
  · have hrank : t.rank ≤ 2 := hsame.rank_eq ▸ Expr.rank_regrouped_le hreads
    exact Node.isOfRank_of_rank_le h le_rfl hrank
  · exact hn.sameSums h he

open SumOfThree in
/-- A sum that is built from the right is read back up to its grouping, and a sum with a comparison
on its right is read as something else. -/
theorem read_text_of_sums :
    (∃ e t u, lowerExpr .strict fromRight = pure e ∧ fromRight.term? = some t ∧
      Term.read? e.text = some u ∧ u ≠ t ∧ u.SameSums t) ∧
    ∃ e t u, lowerExpr .strict ofComparison = pure e ∧ ofComparison.term? = some t ∧
      Term.read? e.text = some u ∧ ¬u.SameSums t ∧ ¬ofComparison.IsLayered Node.IsSum := by
  constructor
  · obtain ⟨e, u, hlower, hread, hsame⟩ := read_text_sameSums_iff (n := fromRight) rfl
      ⟨⟨rfl, rfl⟩, ⟨rfl, rfl⟩, rfl, rfl⟩
    have hlayered : fromRight.IsLayered Node.IsSum :=
      .order (.sum (.add (.operand rfl) (.add (.operand rfl) (.operand rfl))))
    refine ⟨e, _, u, hlower _, rfl, hread, ?_, hsame.2 hlayered⟩
    cases hlower .strict
    cases hread
    exact nofun
  · obtain ⟨e, u, hlower, hread, hsame⟩ := read_text_sameSums_iff (n := ofComparison) rfl
      ⟨⟨rfl, rfl⟩, ⟨rfl, rfl⟩, rfl, rfl⟩
    cases hlower .strict
    cases hread
    -- the text is a comparison by order, and the tree is of no layer
    have hnot : ¬(Term.operation (.relation .less) (.operation .plus (.name "x") (.name "y"))
        (.name "z")).SameSums (.operation .plus (.name "x")
          (.operation (.relation .less) (.name "y") (.name "z"))) :=
      fun h ↦ absurd h.rank_eq (by decide)
    exact ⟨_, _, _, rfl, rfl, rfl, hnot, mt hsame.2 hnot⟩

end StructuredIL
