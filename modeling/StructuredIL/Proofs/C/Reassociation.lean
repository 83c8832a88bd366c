import StructuredIL.Proofs.C.Precedence

/-!
# Terms up to the grouping of sums

A sum of three terms may be written without parentheses however it is grouped: what is read is
grouped from the left, and this changes nothing that matters, since addition is associative.
`Term.SameSums` is the least congruence that says so. Two such terms have the same value
(`Term.SameSums.value_eq`), but that is a weaker thing: `x` and `x + 0` have one value and are
different terms.

Whether a term can be read back at all, up to its sums, is told by its rank. A sum has rank zero,
a comparison by order rank one and a comparison for equality rank two, if their operands have ranks
that may stand there; whatever else there is has rank three. The rank does not depend on the
grouping of sums (`Term.SameSums.rank_eq`), and what C reads never has rank three
(`Chain.rank_group_le`). So a term of rank three is never what its text is read as.
-/

namespace StructuredIL.C

namespace Term

/-- Two terms that differ in how their sums are grouped, and in nothing else. -/
inductive SameSums : Term → Term → Prop
  | refl (t : Term) : SameSums t t
  | symm {t u : Term} : SameSums t u → SameSums u t
  | trans {t u v : Term} : SameSums t u → SameSums u v → SameSums t v
  | operation (o : Operator) {a b c d : Term} : SameSums a c → SameSums b d →
      SameSums (.operation o a b) (.operation o c d)
  | assoc (a b c : Term) : SameSums (.operation .plus (.operation .plus a b) c)
      (.operation .plus a (.operation .plus b c))

variable {t u : Term}

/-- The grouping of sums does not matter for the value. -/
theorem SameSums.value_eq (h : t.SameSums u) (σ : Text → Int32) : t.value σ = u.value σ := by
  induction h with
  | refl t => rfl
  | symm _ ih => exact ih.symm
  | trans _ _ iht ihu => exact iht.trans ihu
  | operation o _ _ iha ihb => rw [value_operation, value_operation, iha, ihb]
  | assoc a b c => simp only [value_operation, Operator.onInts_plus, Int32.add_assoc]

end Term

/-! ### Ranks -/

/-- The level on which an operator stands: sums, comparisons by order, comparisons for equality. -/
def Operator.rank : Operator → Nat
  | plus => 0
  | relation .equal => 2
  | relation _ => 1

theorem Operator.rank_of_isOrder {o : Operator} (h : o.isOrder = true) : o.rank = 1 := by
  cases o with
  | plus => cases h
  | relation rel => cases rel <;> first | rfl | cases h

theorem Operator.rank_of_isEquality {o : Operator} (h : o.isEquality = true) : o.rank = 2 := by
  cases o with
  | plus => cases h
  | relation rel => cases rel <;> first | rfl | cases h

/-- The level of a term: that of its operator, if its left operand is of the same level or below and
its right operand of a level below. A sum may stand on both sides of a sum. -/
def Term.rank : Term → Nat
  | literal _ => 0
  | name _ => 0
  | operation o l r => if l.rank ≤ o.rank ∧ r.rank ≤ o.rank - 1 then o.rank else 3

theorem Term.rank_operation {o : Operator} {l r : Term} (hl : l.rank ≤ o.rank)
    (hr : r.rank ≤ o.rank - 1) : (operation o l r).rank = o.rank :=
  if_pos ⟨hl, hr⟩

/-- What is no more than a comparison for equality has operands that fit. -/
theorem Term.rank_operation_le_iff {o : Operator} {l r : Term} {k : Nat} (hk : k ≤ 2) :
    (operation o l r).rank ≤ k ↔ l.rank ≤ o.rank ∧ r.rank ≤ o.rank - 1 ∧ o.rank ≤ k := by
  rw [rank]
  split <;> omega

theorem Term.rank_plus (l r : Term) :
    (operation .plus l r).rank = if l.rank = 0 ∧ r.rank = 0 then 0 else 3 := by
  simp [rank, Operator.rank]

/-- **The rank does not depend on the grouping of sums.** -/
theorem Term.SameSums.rank_eq {t u : Term} (h : t.SameSums u) : t.rank = u.rank := by
  induction h with
  | refl t => rfl
  | symm _ ih => exact ih.symm
  | trans _ _ iht ihu => exact iht.trans ihu
  | operation o _ _ iha ihb => rw [rank, rank, iha, ihb]
  | assoc a b c =>
    -- on either side the three operands have to be sums
    simp only [rank_plus]
    by_cases ha : a.rank = 0 <;> by_cases hb : b.rank = 0 <;> by_cases hc : c.rank = 0 <;>
      simp [ha, hb, hc]

/-- **What C reads has a rank below three**: operands are gathered to sums, these to comparisons by
order, and these to comparisons for equality. -/
theorem Chain.rank_group_le {c : Chain Term} (h : c.All fun t ↦ t.rank ≤ 0) :
    (c.group .operation).rank ≤ 2 := by
  have hsums : (c.level Operator.isSum .operation).All fun t ↦ t.rank ≤ 0 := by
    refine h.level (fun _ ht ↦ ht) fun o a b ho ha hb ↦ ?_
    cases o with
    | plus => exact (Term.rank_operation ha hb).le
    | relation rel => cases ho
  have horders : ((c.level Operator.isSum .operation).level Operator.isOrder .operation).All
      fun t ↦ t.rank ≤ 1 := by
    refine hsums.level (fun _ ht ↦ ht.trans zero_le_one) fun o a b ho ha hb ↦ ?_
    have hrank := Operator.rank_of_isOrder ho
    exact ((Term.rank_operation_le_iff one_le_two).2 ⟨by omega, by omega, hrank.le⟩)
  refine (horders.level (Q := fun t ↦ t.rank ≤ 2) (fun _ ht ↦ ht.trans one_le_two)
    fun o a b ho ha hb ↦ ?_).1
  have hrank := Operator.rank_of_isEquality ho
  exact ((Term.rank_operation_le_iff le_rfl).2 ⟨by omega, by omega, hrank.le⟩)

theorem Expr.rank_regrouped_le {e : Expr} (h : e.IsReadable) : e.regrouped.rank ≤ 2 := by
  refine Chain.rank_group_le ((all_isOperand_chain h).mono fun t ht ↦ ?_)
  cases t with
  | operation o l r => exact ht.elim
  | _ => exact le_rfl

/-! ### Classes -/

/-- Terms up to the grouping of their sums. -/
def Term.sums : Setoid Term := ⟨SameSums, .refl, .symm, .trans⟩

/-- A term of which the grouping of sums is forgotten. -/
abbrev SumClass : Type := Quotient Term.sums

namespace SumClass

/-- The class of a term. -/
def of (t : Term) : SumClass := Quotient.mk Term.sums t

/-- An operator between two classes. -/
def operation (o : Operator) : SumClass → SumClass → SumClass :=
  Quotient.map₂ (.operation o) fun _ _ hl _ _ hr ↦ .operation o hl hr

theorem of_eq_of_iff {t u : Term} : of t = of u ↔ t.SameSums u := Quotient.eq

/-- The class of an operation is that of its operands. -/
theorem of_operation (o : Operator) (l r : Term) :
    of (.operation o l r) = operation o (of l) (of r) := rfl

theorem plus_assoc (a b c : SumClass) :
    operation .plus (operation .plus a b) c = operation .plus a (operation .plus b c) := by
  induction a, b, c using Quotient.inductionOn₃ with
  | h a b c => exact Quotient.sound (.assoc a b c)

/-- The class of what C reads is found by grouping the classes of the operands. -/
theorem of_group (c : Chain Term) : of (c.group .operation) = (c.map of).group operation :=
  Chain.map_group of_operation c

end SumClass

end StructuredIL.C
