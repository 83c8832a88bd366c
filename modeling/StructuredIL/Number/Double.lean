/-!
# Double precision numbers

The numbers of a document that are written with a point or an exponent. They are kept exactly, as
a mantissa and a binary exponent, and not as machine words: what this library does with such a
number is to compare it with an integer, to write it in the fewest digits and, once, to multiply
it, and each of these is a statement about its exact value.

The finite numbers are `mantissa · 2 ^ exponent` with a mantissa below `2 ^ 53` and an exponent
from `-1074` on. `ofRatio` gives the nearest of them, of two equally near ones that with the even
mantissa; it is the only place where anything is rounded.
-/

namespace StructuredIL

/-- A number of the double precision format. -/
inductive Double where
  /-- `mantissa · 2 ^ exponent`, or its opposite. -/
  | finite (negative : Bool) (mantissa : Nat) (exponent : Int)
  /-- Beyond the finite numbers on either side. -/
  | infinite (negative : Bool)
  /-- Not a number. -/
  | nan
  deriving DecidableEq, Repr, Inhabited

namespace Double

/-- The least exponent. -/
def minExponent : Int := -1074

/-- The greatest exponent. -/
def maxExponent : Int := 971

/-- Zero of either sign. -/
def zero (negative : Bool) : Double := .finite negative 0 minExponent

/-! ### Rounding -/

/-- The quotient of two numbers, rounded to the nearest integer and to the even one of two. -/
def divRound (num den : Nat) : Nat :=
  let q := num / den
  let twice := 2 * (num % den)
  if twice < den then q else if den < twice then q + 1 else q + q % 2

/-- `num / (den · 2 ^ e)` as a quotient of two numbers. -/
def scale (num den : Nat) (e : Int) : Nat × Nat :=
  if 0 ≤ e then (num, den * Nat.pow 2 e.toNat) else (num * Nat.pow 2 (-e).toNat, den)

/-- The exponent at which `num / den` has a mantissa of 53 binary digits, or the least exponent. -/
def exponentFor (num den : Nat) : Int :=
  let e : Int := num.log2 - den.log2 - 52
  let (n, d) := scale num den e
  max minExponent (if n < d * Nat.pow 2 52 then e - 1 else e)

/-- The double nearest to `num / den`, with the given sign. -/
def ofRatio (negative : Bool) (num den : Nat) : Double :=
  if num = 0 then zero negative
  else
    let e := exponentFor num den
    let (n, d) := scale num den e
    let m := divRound n d
    let (m, e) := if m = Nat.pow 2 53 then (Nat.pow 2 52, e + 1) else (m, e)
    if maxExponent < e then .infinite negative else .finite negative m e

/-- The double nearest to `digits · 10 ^ exponent`. Numbers beyond all doubles are settled by their
size, before any power is taken. -/
def ofDecimal (negative : Bool) (digits : Nat) (exponent : Int) : Double :=
  let size : Int := (Nat.toDigits 10 digits).length + exponent
  if digits = 0 ∨ size < -330 then zero negative
  else if 310 < size then .infinite negative
  else if 0 ≤ exponent then ofRatio negative (digits * Nat.pow 10 exponent.toNat) 1
  else ofRatio negative digits (Nat.pow 10 (-exponent).toNat)

/-- The double nearest to an integer. -/
def ofInt (n : Int) : Double := ofRatio (decide (n < 0)) n.natAbs 1

/-! ### Values -/

/-- The mantissa with its sign. -/
def signed (negative : Bool) (mantissa : Nat) : Int :=
  if negative then -Int.ofNat mantissa else mantissa

/-- Whether `m · 2 ^ e` and `n · 2 ^ f` are the same number. -/
def sameScaled (m e n f : Int) : Bool :=
  m * Int.pow 2 (e - min e f).toNat == n * Int.pow 2 (f - min e f).toNat

/-- Whether two doubles are the same number; `nan` is the same as nothing. -/
def same : Double → Double → Bool
  | .finite s m e, .finite t n f => sameScaled (signed s m) e (signed t n) f
  | .infinite s, .infinite t => s == t
  | _, _ => false

/-- Whether a double is the given integer, exactly. -/
def isInt : Double → Int → Bool
  | .finite s m e, n => sameScaled (signed s m) e n 0
  | _, _ => false

/-- Whether a double is zero. -/
def isZero : Double → Bool
  | .finite _ m _ => m == 0
  | _ => false

/-- Whether a double carries the negative sign. -/
def isNegative : Double → Bool
  | .finite s _ _ => s
  | .infinite s => s
  | .nan => false

/-- The double nearest to a product. Zero times infinity is no number. -/
def mul (x y : Double) : Double :=
  let negative := x.isNegative != y.isNegative
  match x, y with
  | .nan, _ => .nan
  | _, .nan => .nan
  | .infinite _, y => if y.isZero then .nan else .infinite negative
  | x, .infinite _ => if x.isZero then .nan else .infinite negative
  | .finite _ m e, .finite _ n f =>
    if 0 ≤ e + f then ofRatio negative (m * n * Nat.pow 2 (e + f).toNat) 1
    else ofRatio negative (m * n) (Nat.pow 2 (-(e + f)).toNat)

end Double

end StructuredIL
