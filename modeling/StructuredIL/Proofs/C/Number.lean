import Mathlib.Algebra.Group.Nat.Defs
import StructuredIL.C.Code
import StructuredIL.Loading.Node

/-!
# The numbers of C

An integer of C has a type, which is the number of its bits. A decimal constant has the first of
`int`, `long` and `long long` that holds it, where an `int` has 32 bits and the other two 64; a
minus sign in front of it is an operator and changes nothing about that. Variables of both types
that are declared here are promoted to `int`. Two operands are converted to their common type, in
which they are added, with a sum that wraps around, or compared, which gives an `int`.

So a constant of 32 bits is an `int` unless it is the least one, whose sign stands in front of a
number that is one too large (`IntegerType.ofConstant?_natAbs`). What is added to that constant is
added in 64 bits. The last 32 bits of a sum are the same in all types (`Number.toInt32_add`), but a
comparison looks at the other bits as well.
-/

namespace StructuredIL.C

/-! ### Integer types -/

/-- The integer types that constants and sums may have. -/
inductive IntegerType where
  /-- The type of most constants and of all variables. -/
  | int
  /-- A wider type. -/
  | long
  /-- A type that is at least as wide. -/
  | longLong
  deriving DecidableEq, Repr

namespace IntegerType

/-- The number of bits of a type. -/
def width : IntegerType → Nat
  | int => 32
  | long => 64
  | longLong => 64

/-- Whether a type holds a number that is not negative. -/
def holds (type : IntegerType) (n : Nat) : Bool := n < 2 ^ (type.width - 1)

/-- The type of a decimal constant without a sign: the first that holds it. -/
def ofConstant? (n : Nat) : Option IntegerType :=
  [int, long, longLong].find? fun type ↦ type.holds n

/-- The place of a type among the others. -/
def rank : IntegerType → Nat
  | int => 0
  | long => 1
  | longLong => 2

/-- The type to which two operands are converted, and which a sum of them has. -/
def common (s t : IntegerType) : IntegerType := if s.rank ≤ t.rank then t else s

/-- **The type of a constant of 32 bits**: it is an `int`, but for the least one. -/
theorem ofConstant?_natAbs {value : Int} (h : Build.minInt32 ≤ value ∧ value ≤ Build.maxInt32) :
    ofConstant? value.natAbs = some (if value = Build.minInt32 then long else int) := by
  by_cases hleast : value = Build.minInt32
  · subst hleast
    rfl
  · have hint : int.holds value.natAbs = true := by
      simp only [holds, width, Build.minInt32, Build.maxInt32] at h hleast ⊢
      exact decide_eq_true (by omega)
    simp [ofConstant?, hint, hleast]

theorem width_le_common_left (s t : IntegerType) : s.width ≤ (s.common t).width := by
  cases s <;> cases t <;> decide

theorem width_le_common_right (s t : IntegerType) : t.width ≤ (s.common t).width := by
  cases s <;> cases t <;> decide

theorem two_pow_dvd (type : IntegerType) : 2 ^ 32 ∣ 2 ^ type.width := by
  cases type <;> decide

end IntegerType

/-- The type to which a variable is promoted where it is used: a `bool` is promoted to `int`. -/
def CType.promoted : CType → IntegerType
  | .int32 => .int
  | .bool => .int

/-! ### Numbers -/

/-- A number of an integer type. -/
structure Number where
  /-- Its type. -/
  type : IntegerType
  /-- Its bits, the sign among them. -/
  bits : BitVec type.width

/-- Whether a comparison holds. -/
def Relation.holds : Relation → Int → Int → Bool
  | .atLeast, a, b => decide (b ≤ a)
  | .greater, a, b => decide (b < a)
  | .less, a, b => decide (a < b)
  | .equal, a, b => a == b

namespace Number

/-- A number of a type, with as many bits as the type has. -/
def ofInt (type : IntegerType) (value : Int) : Number := ⟨type, BitVec.ofInt type.width value⟩

/-- What is in a variable, as an `int`. -/
def ofInt32 (value : Int32) : Number := ⟨.int, value.toBitVec⟩

/-- The value of a number. -/
def toInt (a : Number) : Int := a.bits.toInt

/-- A number as it is stored in a variable of 32 bits: those in front are lost. -/
def toInt32 (a : Number) : Int32 := Int32.ofInt a.toInt

/-- Whether a condition is met. -/
def isTrue (a : Number) : Bool := a.toInt != 0

/-- What is printed where an `int` is asked for. A number of another type cannot be printed so. -/
def int? (a : Number) : Option Int32 := if a.type = .int then some a.toInt32 else none

/-- The bits of a number that is converted to a type. -/
def bitsIn (type : IntegerType) (a : Number) : BitVec type.width := a.bits.signExtend type.width

/-- The sum of two numbers in their common type. It wraps around. -/
def add (a b : Number) : Number :=
  let type := a.type.common b.type
  ⟨type, a.bitsIn type + b.bitsIn type⟩

/-- One or zero, as two numbers compare in their common type or not. -/
def compare (rel : Relation) (a b : Number) : Number :=
  let type := a.type.common b.type
  ofInt .int (if rel.holds (a.bitsIn type).toInt (b.bitsIn type).toInt then 1 else 0)

variable {a b : Number} {type : IntegerType} {value : Int}

@[simp] theorem toInt_ofInt32 (value : Int32) : (ofInt32 value).toInt = value.toInt := rfl

@[simp] theorem toInt32_ofInt32 (value : Int32) : (ofInt32 value).toInt32 = value := by
  rw [toInt32, toInt_ofInt32, Int32.ofInt_toInt]

/-- An `int` is what is stored of it. -/
theorem eq_ofInt32 (h : a.type = .int) : a = ofInt32 a.toInt32 := by
  obtain ⟨type, bits⟩ := a
  obtain rfl : type = .int := h
  have hbits : BitVec.ofInt 32 bits.toInt = bits := BitVec.ofInt_toInt
  exact congrArg _ hbits.symm

/-- Every type holds an integer of 32 bits. -/
theorem toInt_ofInt (h : Build.minInt32 ≤ value ∧ value ≤ Build.maxInt32) :
    (ofInt type value).toInt = value := by
  rw [Build.minInt32, Build.maxInt32] at h
  show (BitVec.ofInt type.width value).toInt = value
  rw [BitVec.toInt_ofInt]
  cases type <;> exact Int.bmod_eq_of_le (by simp only [IntegerType.width]; omega)
    (by simp only [IntegerType.width]; omega)

/-- A conversion to a type that is as wide keeps the value. -/
theorem toInt_bitsIn (h : a.type.width ≤ type.width) : (a.bitsIn type).toInt = a.toInt :=
  BitVec.toInt_signExtend_of_le h

/-- Numbers are compared by their values. -/
theorem compare_eq (rel : Relation) (a b : Number) :
    compare rel a b = ofInt .int (if rel.holds a.toInt b.toInt then 1 else 0) := by
  rw [compare, toInt_bitsIn (IntegerType.width_le_common_left _ _),
    toInt_bitsIn (IntegerType.width_le_common_right _ _)]

/-- **The last 32 bits of a sum do not depend on the types.** -/
theorem toInt32_add (a b : Number) : (a.add b).toInt32 = a.toInt32 + b.toInt32 := by
  have hsum : (a.add b).toInt =
      (a.toInt + b.toInt).bmod (2 ^ (a.type.common b.type).width) := by
    show (a.bitsIn _ + b.bitsIn _).toInt = _
    rw [BitVec.toInt_add, toInt_bitsIn (IntegerType.width_le_common_left _ _),
      toInt_bitsIn (IntegerType.width_le_common_right _ _)]
  rw [toInt32, hsum, toInt32, toInt32, ← Int32.ofInt_add]
  refine Int32.toInt_inj.1 ?_
  rw [Int32.toInt_ofInt, Int32.toInt_ofInt, Int32.size]
  exact Int.bmod_bmod_of_dvd (IntegerType.two_pow_dvd _)

/-- Among `int`s a sum is one of 32 bits. -/
theorem add_ofInt32 (a b : Int32) : (ofInt32 a).add (ofInt32 b) = ofInt32 (a + b) := by
  rw [eq_ofInt32 (a := (ofInt32 a).add (ofInt32 b)) rfl, toInt32_add, toInt32_ofInt32,
    toInt32_ofInt32]

end Number

end StructuredIL.C
