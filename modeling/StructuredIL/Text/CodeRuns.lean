/-!
# Sets of characters, written as runs of code points

A property of characters is a fact of a standard, not of this library, so it is kept as data: the
code points that have it, gathered into runs. Capital and small letters often alternate, which is
why a run has a step: `⟨0x100, 0x136, 2⟩` is every second code point from `U+0100` to `U+0136`.

Membership is a plain search of the list. Every class below answers for ASCII by itself and asks
its table only beyond, so the tables hold no code point under `0x80` and facts about ASCII text
never reach them.
-/

namespace StructuredIL.Text

/-- The code points `first`, `first + step`, … up to `last`. -/
structure CodeRun where
  /-- The least code point of the run. -/
  first : Nat
  /-- The greatest code point of the run. -/
  last : Nat
  /-- The distance between neighbours. -/
  step : Nat
  deriving DecidableEq, Repr

namespace CodeRun

/-- Whether a code point lies on the run. -/
def contains (r : CodeRun) (n : Nat) : Bool :=
  decide (r.first ≤ n) && decide (n ≤ r.last) && (n - r.first) % r.step == 0

theorem contains_iff {r : CodeRun} {n : Nat} :
    r.contains n = true ↔ r.first ≤ n ∧ n ≤ r.last ∧ (n - r.first) % r.step = 0 := by
  simp [contains, and_assoc]

end CodeRun

/-- Whether a character lies on one of the runs. -/
def inRuns (runs : List CodeRun) (c : Char) : Bool :=
  runs.any fun r ↦ r.contains c.toNat

/-- Whether a character is one of the 128 that every class decides without a table. -/
def isAscii (c : Char) : Bool := decide (c.toNat < 0x80)

end StructuredIL.Text
