import StructuredIL.Number.Double

/-!
# Writing a double in the fewest digits

A double is written with the fewest decimal digits that still read back as the same double, and
among these with the nearest. The doubles nearest to a given one bound an interval of numbers that
all read as it; its ends belong to it when the mantissa is even. For one digit, two digits and so
on, `shortest` tries the two decimals of that many digits next to the value, and stops at the first
count where one of them lies in the interval. Seventeen digits always do.

All of it is integer arithmetic on an exact quotient, so nothing is rounded on the way.
-/

namespace StructuredIL.Double

/-- The numbers `low / den` to `high / den` that read as a double of value `value / den`, with or
without the two ends. -/
structure Interval where
  /-- The double's own value. -/
  value : Nat
  /-- The lower end. -/
  low : Nat
  /-- The upper end. -/
  high : Nat
  /-- The common denominator. -/
  den : Nat
  /-- Whether the ends belong to the interval. -/
  closed : Bool

/-- The interval of the positive double `m · 2 ^ e`. Below a power of two the next double is twice
as near as above it. -/
def interval (m : Nat) (e : Int) : Interval :=
  let low := if m = Nat.pow 2 52 ∧ minExponent < e then 4 * m - 1 else 4 * m - 2
  let up := Nat.pow 2 e.toNat
  ⟨4 * m * up, low * up, (4 * m + 2) * up, 4 * Nat.pow 2 (-e).toNat, m % 2 == 0⟩

/-- Whether `num / den'` lies in the interval. -/
def Interval.holds (i : Interval) (num den' : Nat) : Bool :=
  let x := num * i.den
  if i.closed then decide (i.low * den' ≤ x) && decide (x ≤ i.high * den')
  else decide (i.low * den' < x) && decide (x < i.high * den')

/-- Of the decimals `n · 10 ^ k` and `(n + 1) · 10 ^ k` on either side of the value, the nearer one
that lies in the interval, if one of them does. Of two equally near ones the even one is taken. -/
def Interval.nearest? (i : Interval) (k : Int) : Option Nat :=
  let up := Nat.pow 10 k.toNat
  let down := Nat.pow 10 (-k).toNat
  let n := i.value * down / (i.den * up)
  let below := i.holds (n * up) down
  let above := i.holds ((n + 1) * up) down
  let twice := 2 * (i.value * down)
  let middle := (2 * n + 1) * up * i.den
  let lower := decide (twice < middle) || (twice == middle && n % 2 == 0)
  if below && (lower || !above) then some n
  else if above then some (n + 1)
  else none

/-- The first count of digits, from `count` on, that gives a decimal of the interval; the value has
`size` digits before the point. -/
def Interval.search (i : Interval) (size : Int) (count : Nat) : Nat → Nat × Int
  | 0 => (0, 0)
  | tries + 1 =>
    let k := size - count
    match i.nearest? k with
    | some n => (n, k)
    | none => i.search size (count + 1) tries

/-- How many digits stand before the point of `num / den`; not positive if it is below one tenth. -/
def pointPlace (num den : Nat) : Int :=
  if den ≤ num then (Nat.toDigits 10 (num / den)).length
  else 1 - (Nat.toDigits 10 ((den - 1) / num)).length

/-- Drops the zeros at the end of a number that counts steps of `10 ^ k`. -/
def dropZeros (n : Nat) (k : Int) : Nat × Int :=
  if h : n ≠ 0 ∧ n % 10 = 0 then dropZeros (n / 10) (k + 1) else (n, k)
termination_by n
decreasing_by omega

/-- The shortest decimal `n · 10 ^ k` that reads as the positive double `m · 2 ^ e`. -/
def shortest (m : Nat) (e : Int) : Nat × Int :=
  let i := interval m e
  let (n, k) := i.search (pointPlace i.value i.den) 1 17
  dropZeros n k

/-! ### Layout -/

/-- The least power of ten whose decimals are written without an exponent. -/
def leastPlain : Int := -4

/-- The greatest power of ten whose decimals are written without an exponent. -/
def greatestPlain : Int := 15

/-- Digits with a point: `point` of them stand before it. -/
def plainDigits (digits : List Char) (point : Int) : List Char :=
  if point ≤ 0 then '0' :: '.' :: List.replicate (-point).toNat '0' ++ digits
  else
    let whole := digits.take point.toNat ++ List.replicate (point.toNat - digits.length) '0'
    let rest := digits.drop point.toNat
    whole ++ '.' :: (if rest.isEmpty then ['0'] else rest)

/-- An exponent: a sign and at least two digits. -/
def exponentDigits (power : Int) : List Char :=
  let digits := Nat.toDigits 10 power.natAbs
  (if power < 0 then '-' else '+') :: List.replicate (2 - digits.length) '0' ++ digits

/-- Digits with an exponent: one digit stands before the point, which is left out if none stands
after it. -/
def scientificDigits (digits : List Char) (power : Int) : List Char :=
  let mantissa :=
    match digits with
    | [] => ['0']
    | [d] => [d]
    | d :: rest => d :: '.' :: rest
  mantissa ++ 'e' :: exponentDigits power

/-- The text of a double. -/
def text : Double → String
  | .nan => "nan"
  | .infinite negative => if negative then "-inf" else "inf"
  | .finite negative m e =>
    let body :=
      if m = 0 then ['0', '.', '0']
      else
        let (n, k) := shortest m e
        let digits := Nat.toDigits 10 n
        let power := k + digits.length - 1
        if leastPlain ≤ power ∧ power ≤ greatestPlain then plainDigits digits (power + 1)
        else scientificDigits digits power
    String.ofList (if negative then '-' :: body else body)

end StructuredIL.Double
