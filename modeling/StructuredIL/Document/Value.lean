import StructuredIL.Number.Double
import StructuredIL.Text.Basic

/-!
# Document values

What a document holds: the scalars, lists, and objects whose members keep the order in which they
were first written. A value of this type is also what a label or the name of a call may be, since a
document may put any value there, so this module has all that the library asks of such a value:

* `Value.get?`, the member of an object, with the fact that a member is lower than the object
  (`height_lt_of_get?`), which is what recursion on documents descends by;
* `Value.same`, when two labels are one. A truth value is the integer it stands for, an integer is
  the double of the same value, lists agree item by item and objects member by member in any order.
  It is not an equivalence: `nan` is the same as nothing;
* `Value.isTruthy`, when a label counts as given;
* `Value.elements?`, what a walk over a value meets.
-/

namespace StructuredIL

/-- The greatest number of decimal digits that an integer is read or written with. -/
def maxDigits : Nat := 4300

/-- A value of a document. -/
inductive Value where
  /-- The absent value. -/
  | null
  /-- A truth value. -/
  | bool (b : Bool)
  /-- An integer of any size. -/
  | int (n : Int)
  /-- A number written with a point or an exponent. -/
  | float (x : Double)
  /-- A text. -/
  | string (s : Text)
  /-- A list of values. -/
  | list (items : List Value)
  /-- Named values, in the order in which their names were first written. -/
  | object (members : List (Text × Value))
  deriving Inhabited, Repr

namespace Value

/-! ### Members -/

/-- The member of a list of members that has a name. -/
def member? (members : List (Text × Value)) (key : Text) : Option Value :=
  (members.find? fun m ↦ m.1 == key).map Prod.snd

/-- The member of an object that has a name; other values have no members. -/
def get? (v : Value) (key : Text) : Option Value :=
  match v with
  | .object members => member? members key
  | _ => none

/-- The members with one more: a name that is there keeps its place and takes the new value. -/
def setMember (key : Text) (v : Value) : List (Text × Value) → List (Text × Value)
  | [] => [(key, v)]
  | (k, w) :: rest => if k == key then (k, v) :: rest else (k, w) :: setMember key v rest

theorem member?_setMember_self (key : Text) (v : Value) (members : List (Text × Value)) :
    member? (setMember key v members) key = some v := by
  induction members with
  | nil => simp [setMember, member?]
  | cons m rest ih =>
    obtain ⟨k, w⟩ := m
    by_cases h : k = key
    · simp [setMember, member?, h]
    · have hk : (k == key) = false := by simp [h]
      simpa [setMember, member?, hk] using ih

/-- The members of other names are kept. -/
theorem member?_setMember_of_ne {key k : Text} (h : k ≠ key) (v : Value)
    (members : List (Text × Value)) :
    member? (setMember key v members) k = member? members k := by
  induction members with
  | nil => simp [setMember, member?, Ne.symm h]
  | cons m rest ih =>
    obtain ⟨l, w⟩ := m
    by_cases hl : l = key
    · simp [setMember, member?, hl, Ne.symm h]
    · have hk : (l == key) = false := by simp [hl]
      by_cases hlk : l = k
      · simp [setMember, member?, hlk, h]
      · have hlk' : (l == k) = false := by simp [hlk]
        simpa [setMember, member?, hk, hlk'] using ih

/-- The members of a document text, read from left to right. -/
def ofMembers (written : List (Text × Value)) : Value :=
  .object (written.foldl (fun members m ↦ setMember m.1 m.2 members) [])

/-! ### Height -/

mutual
/-- How deep values are nested in a value. -/
def height : Value → Nat
  | .list items => heightOfItems items + 1
  | .object members => heightOfMembers members + 1
  | _ => 0

/-- The height of the highest of some values. -/
def heightOfItems : List Value → Nat
  | [] => 0
  | v :: rest => max v.height (heightOfItems rest)

/-- The height of the highest of some members. -/
def heightOfMembers : List (Text × Value) → Nat
  | [] => 0
  | (_, v) :: rest => max v.height (heightOfMembers rest)
end

theorem height_le_of_mem_items {items : List Value} {v : Value} (h : v ∈ items) :
    v.height ≤ heightOfItems items := by
  induction items with
  | nil => cases h
  | cons w rest ih =>
    rw [heightOfItems]
    rcases List.mem_cons.1 h with rfl | h
    · exact Nat.le_max_left _ _
    · exact Nat.le_trans (ih h) (Nat.le_max_right _ _)

theorem height_le_of_mem_members {members : List (Text × Value)} {m : Text × Value}
    (h : m ∈ members) : m.2.height ≤ heightOfMembers members := by
  induction members with
  | nil => cases h
  | cons w rest ih =>
    obtain ⟨k, w⟩ := w
    rw [heightOfMembers]
    rcases List.mem_cons.1 h with rfl | h
    · exact Nat.le_max_left _ _
    · exact Nat.le_trans (ih h) (Nat.le_max_right _ _)

/-- A member is lower than its object. -/
theorem height_lt_of_get? {v w : Value} {key : Text} (h : v.get? key = some w) :
    w.height < v.height := by
  cases v with
  | object members =>
    simp only [get?, member?, Option.map_eq_some_iff] at h
    obtain ⟨m, hm, rfl⟩ := h
    have := height_le_of_mem_members (List.mem_of_find?_eq_some hm)
    rw [height]
    omega
  | _ => simp [get?] at h

/-! ### Walking over a value -/

/-- The values that a walk over a value meets: the items of a list, the code points of a text, the
names of an object's members. The other values cannot be walked over. -/
def elements? : Value → Option (List Value)
  | .list items => some items
  | .string s => some (s.map fun p ↦ .string [p])
  | .object members => some (members.map fun m ↦ .string m.1)
  | _ => none

/-- What a walk meets is not higher than what is walked over. -/
theorem height_le_of_elements? {v w : Value} {items : List Value} (h : v.elements? = some items)
    (hw : w ∈ items) : w.height ≤ v.height := by
  cases v with
  | list xs =>
    simp only [elements?, Option.some.injEq] at h
    subst h
    have := height_le_of_mem_items hw
    rw [height]
    omega
  | string s =>
    simp only [elements?, Option.some.injEq] at h
    subst h
    obtain ⟨p, -, rfl⟩ := List.mem_map.1 hw
    simp [height]
  | object members =>
    simp only [elements?, Option.some.injEq] at h
    subst h
    obtain ⟨m, -, rfl⟩ := List.mem_map.1 hw
    simp [height]
  | _ => simp [elements?] at h

/-! ### Truth -/

/-- Whether a value counts as given: `null`, `false`, zero and everything empty do not. -/
def isTruthy : Value → Bool
  | .null => false
  | .bool b => b
  | .int n => n != 0
  | .float x => !x.isZero
  | .string s => !s.isEmpty
  | .list items => !items.isEmpty
  | .object members => !members.isEmpty

/-- A value if it is there and counts as given, and the other one if not. -/
def orElse (v? : Option Value) (other : Value) : Value :=
  match v? with
  | some v => if v.isTruthy then v else other
  | none => other

/-! ### Sameness -/

/-- The integer that a value stands for, if it is an integer or a truth value. -/
def integer? : Value → Option Int
  | .bool b => some (if b then 1 else 0)
  | .int n => some n
  | _ => none

/-- Sameness of values that are not both lists and not both objects. -/
def sameScalar (v w : Value) : Bool :=
  match v.integer?, w.integer? with
  | some m, some n => m == n
  | some m, none =>
    match w with
    | .float y => y.isInt m
    | _ => false
  | none, some n =>
    match v with
    | .float x => x.isInt n
    | _ => false
  | none, none =>
    match v, w with
    | .null, .null => true
    | .string s, .string t => s == t
    | .float x, .float y => x.same y
    | _, _ => false

mutual
/-- Whether two values are one value. -/
def same : Value → Value → Bool
  | .list xs, .list ys => sameItems xs ys
  | .object xs, .object ys => xs.length == ys.length && sameMembers xs ys
  | v, w => sameScalar v w

/-- Whether two lists agree item by item. -/
def sameItems : List Value → List Value → Bool
  | [], [] => true
  | v :: xs, w :: ys => same v w && sameItems xs ys
  | _, _ => false

/-- Whether all members of a list are members of the other. -/
def sameMembers : List (Text × Value) → List (Text × Value) → Bool
  | [], _ => true
  | (k, v) :: xs, ys =>
    (match member? ys k with
      | some w => same v w
      | none => false) && sameMembers xs ys
end

theorem same_string (s t : Text) : same (.string s) (.string t) = (s == t) := by
  simp [same, sameScalar, integer?]

end Value

end StructuredIL
