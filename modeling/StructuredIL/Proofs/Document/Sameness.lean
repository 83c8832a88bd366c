import Mathlib.Algebra.Field.Rat
import Mathlib.Data.List.Forall2
import Mathlib.Data.List.Induction
import Mathlib.Data.List.Nodup
import Mathlib.Data.List.Perm.Subperm
import Mathlib.Tactic.NormNum
import StructuredIL.Document.Reader

/-!
# Values that are the same

`Value.same` compares values that a document may hold. It is no equality: a truth value is the same
as an integer, an integer as a double, and `nan` is the same as nothing, not even as itself. But
values that are the same as a third one are the same (`Value.same_of_same`), so a value can be the
same as one only of several values that differ from each other.

For scalars this is so since each of them stands for something (`Value.standing?`), and two are the
same if they stand for the same thing. For objects it takes more: the members of one are looked for
in the other, and they are as many, so both have the same names only if no name is there twice. No
object that is read from a text has a name twice (`Document.hasUniqueNames_of_readDocument?`).
-/

namespace StructuredIL

/-! ### Numbers -/

namespace Double

/-- `m · 2 ^ e` as an exact number. -/
def scaled (m e : Int) : ℚ := m * 2 ^ e

theorem sameScaled_iff {m e n f : Int} :
    sameScaled m e n f = true ↔ scaled m e = scaled n f := by
  have hpow (k : Int) (hk : min e f ≤ k) :
      (2 : ℚ) ^ k = 2 ^ (min e f) * ((2 ^ (k - min e f).toNat : Int) : ℚ) := by
    obtain ⟨d, hd⟩ := Int.eq_ofNat_of_zero_le (Int.sub_nonneg_of_le hk)
    obtain rfl : k = min e f + d := by omega
    rw [zpow_add₀ (by norm_num), hd]
    simp
  have hne : (2 : ℚ) ^ (min e f) ≠ 0 := zpow_ne_zero _ (by norm_num)
  rw [sameScaled, beq_iff_eq, scaled, scaled, hpow e (min_le_left ..), hpow f (min_le_right ..),
    mul_left_comm, mul_left_comm (n : ℚ), mul_right_inj' hne]
  norm_cast

end Double

namespace Value

/-- What a scalar stands for. -/
inductive Standing where
  /-- The absence of a value. -/
  | absence
  /-- A number. -/
  | number (q : ℚ)
  /-- What is beyond all numbers on either side. -/
  | infinity (negative : Bool)
  /-- A text. -/
  | text (t : Text)

/-- What a value stands for, if it is a scalar; `nan` stands for nothing. -/
def standing? : Value → Option Standing
  | .null => some .absence
  | .bool b => some (.number (if b then 1 else 0))
  | .int n => some (.number n)
  | .float (.finite s m e) => some (.number (Double.scaled (Double.signed s m) e))
  | .float (.infinite s) => some (.infinity s)
  | .float .nan => none
  | .string t => some (.text t)
  | .list _ => none
  | .object _ => none

/-- A double is an integer if it stands for it. -/
theorem standing?_float_iff {x : Double} {n : Int} :
    (float x).standing? = some (.number n) ↔ x.isInt n = true := by
  cases x with
  | finite s m e =>
    have hzero : Double.scaled n 0 = n := by simp [Double.scaled]
    simp [standing?, Double.isInt, Double.sameScaled_iff, hzero]
  | _ => simp [standing?, Double.isInt]

theorem standing?_of_integer? {v : Value} {n : Int} (h : v.integer? = some n) :
    v.standing? = some (.number n) := by
  cases v with
  | bool b => cases b <;> cases h <;> simp [standing?]
  | int m =>
    cases h
    rfl
  | _ => cases h

theorem double_same_iff {x y : Double} :
    x.same y = true ↔ (float x).standing?.isSome ∧ (float x).standing? = (float y).standing? := by
  cases x <;> cases y <;> simp [Double.same, standing?, Double.sameScaled_iff]

/-- **Scalars are the same** if they stand for the same thing. -/
theorem sameScalar_iff {v w : Value} :
    sameScalar v w = true ↔ v.standing?.isSome ∧ v.standing? = w.standing? := by
  rw [sameScalar.eq_def]
  cases hv : v.integer? with
  | some m =>
    rw [standing?_of_integer? hv]
    cases hw : w.integer? with
    | some n => simp [standing?_of_integer? hw]
    | none =>
      cases w with
      | float y => exact standing?_float_iff.symm.trans ⟨fun h ↦ ⟨rfl, h.symm⟩, fun h ↦ h.2.symm⟩
      | bool | int => cases hw
      | _ => simp [standing?]
  | none =>
    cases hw : w.integer? with
    | some n =>
      rw [standing?_of_integer? hw]
      cases v with
      | float x => exact standing?_float_iff.symm.trans ⟨fun h ↦ ⟨h ▸ rfl, h⟩, And.right⟩
      | bool | int => cases hv
      | _ => simp [standing?]
    | none =>
      cases v with
      | bool | int => cases hv
      | float x =>
        cases w with
        | float y => exact double_same_iff
        | bool | int => cases hw
        | _ => cases x <;> simp [standing?]
      | _ =>
        cases w with
        | float y => cases y <;> simp [standing?]
        | bool | int => cases hw
        | _ => simp [standing?]

/-! ### Lists and objects -/

theorem sameItems_iff {xs ys : List Value} :
    sameItems xs ys = true ↔ List.Forall₂ (fun v w ↦ v.same w = true) xs ys := by
  induction xs generalizing ys with
  | nil => cases ys <;> simp [sameItems]
  | cons v xs ih => cases ys <;> simp [sameItems, ih]

theorem sameMembers_iff {xs ys : List (Text × Value)} :
    sameMembers xs ys = true ↔ ∀ m ∈ xs, ∃ w, member? ys m.1 = some w ∧ m.2.same w = true := by
  induction xs with
  | nil => simp [sameMembers]
  | cons m xs ih =>
    obtain ⟨k, v⟩ := m
    rw [sameMembers, Bool.and_eq_true, ih, List.forall_mem_cons]
    cases member? ys k <;> simp

/-- Values that are the same are two lists, two objects or two scalars. -/
theorem same_cases {v w : Value} (h : v.same w = true) :
    (∃ xs ys, v = .list xs ∧ w = .list ys ∧ sameItems xs ys = true) ∨
      (∃ xs ys, v = .object xs ∧ w = .object ys ∧
        (xs.length == ys.length && sameMembers xs ys) = true) ∨
      v.standing?.isSome = true ∧ v.standing? = w.standing? := by
  cases v with
  | list xs =>
    cases w with
    | list ys => exact .inl ⟨xs, ys, rfl, rfl, h⟩
    | _ => exact .inr (.inr (sameScalar_iff.1 h))
  | object xs =>
    cases w with
    | object ys => exact .inr (.inl ⟨xs, ys, rfl, rfl, h⟩)
    | _ => exact .inr (.inr (sameScalar_iff.1 h))
  | _ => exact .inr (.inr (sameScalar_iff.1 h))

theorem same_of_standing? {v w : Value} (hsome : w.standing?.isSome = true)
    (h : v.standing? = w.standing?) : v.same w = true := by
  have hscalar : v.same w = sameScalar v w := by
    cases w with
    | list | object => cases hsome
    | _ => cases v <;> rfl
  rw [hscalar, sameScalar_iff, h]
  exact ⟨hsome, rfl⟩

/-! ### Unique names -/

mutual
/-- Whether no object in a value has two members of one name. -/
def hasUniqueNames : Value → Bool
  | .list items => haveUniqueNames items
  | .object members => decide (members.map Prod.fst).Nodup && membersHaveUniqueNames members
  | _ => true

/-- Whether no object in some values has two members of one name. -/
def haveUniqueNames : List Value → Bool
  | [] => true
  | v :: rest => v.hasUniqueNames && haveUniqueNames rest

/-- Whether no object in the values of some members has two members of one name. -/
def membersHaveUniqueNames : List (Text × Value) → Bool
  | [] => true
  | (_, v) :: rest => v.hasUniqueNames && membersHaveUniqueNames rest
end

theorem hasUniqueNames_list {items : List Value} :
    (list items).hasUniqueNames = true ↔ ∀ v ∈ items, v.hasUniqueNames = true := by
  rw [hasUniqueNames]
  induction items with
  | nil => simp [haveUniqueNames]
  | cons v rest ih => simp [haveUniqueNames, ih]

theorem hasUniqueNames_object {members : List (Text × Value)} :
    (object members).hasUniqueNames = true ↔
      (members.map Prod.fst).Nodup ∧ ∀ m ∈ members, m.2.hasUniqueNames = true := by
  have hmembers : membersHaveUniqueNames members = true ↔
      ∀ m ∈ members, m.2.hasUniqueNames = true := by
    induction members with
    | nil => simp [membersHaveUniqueNames]
    | cons m rest ih =>
      obtain ⟨k, v⟩ := m
      simp [membersHaveUniqueNames, ih]
  rw [hasUniqueNames, Bool.and_eq_true, decide_eq_true_eq, hmembers]

/-! ### Sameness with a third value -/

theorem mem_of_member? {members : List (Text × Value)} {key : Text} {v : Value}
    (h : member? members key = some v) : (key, v) ∈ members := by
  obtain ⟨m, hm, rfl⟩ := Option.map_eq_some_iff.1 h
  have hkey := List.find?_some hm
  rw [← eq_of_beq hkey]
  exact List.mem_of_find?_eq_some hm

theorem exists_member? {members : List (Text × Value)} {key : Text}
    (h : key ∈ members.map Prod.fst) : ∃ v, member? members key = some v := by
  cases hv : member? members key with
  | some v => exact ⟨v, rfl⟩
  | none =>
    obtain ⟨m, hm, rfl⟩ := List.mem_map.1 h
    exact absurd (beq_self_eq_true m.1) (List.find?_eq_none.1 (Option.map_eq_none_iff.1 hv) m hm)

/-- If all names of some members are among as many others, and none of them is there twice, both
have the same names. -/
theorem names_subset_of_length_eq {xs ys : List (Text × Value)} (hxs : (xs.map Prod.fst).Nodup)
    (hsub : xs.map Prod.fst ⊆ ys.map Prod.fst) (hlength : xs.length = ys.length) :
    ys.map Prod.fst ⊆ xs.map Prod.fst := by
  have hperm : (xs.map Prod.fst).Perm (ys.map Prod.fst) :=
    (hxs.subperm hsub).perm_of_length_le (by simp [hlength])
  exact hperm.symm.subset

/-- The names of an object are those of one that is the same. -/
theorem names_subset_of_sameMembers {xs ys : List (Text × Value)}
    (h : sameMembers xs ys = true) : xs.map Prod.fst ⊆ ys.map Prod.fst := by
  refine List.forall_mem_map.2 fun m hm ↦ ?_
  obtain ⟨w, hw, -⟩ := sameMembers_iff.1 h m hm
  exact List.mem_map.2 ⟨_, mem_of_member? hw, rfl⟩

theorem sameItems_of_sameItems {xs ys ts : List Value}
    (ih : ∀ y ∈ ys, ∀ x t : Value, x.same t = true → y.same t = true → x.same y = true)
    (hxs : sameItems xs ts = true) (hys : sameItems ys ts = true) : sameItems xs ys = true := by
  rw [sameItems_iff] at hxs hys ⊢
  induction hys generalizing xs with
  | nil => exact hxs
  | cons hy _ ihys =>
    obtain _ | ⟨hx, hxs⟩ := hxs
    exact .cons (ih _ (List.mem_cons_self ..) _ _ hx hy)
      (ihys (fun y hy ↦ ih y (List.mem_cons_of_mem _ hy)) hxs)

theorem sameMembers_of_sameMembers {xs ys ts : List (Text × Value)}
    (ih : ∀ m ∈ ys, ∀ x t : Value, x.same t = true → m.2.same t = true → x.same m.2 = true)
    (hnodup : (ys.map Prod.fst).Nodup) (hlength : ys.length = ts.length)
    (hxs : sameMembers xs ts = true) (hys : sameMembers ys ts = true) :
    sameMembers xs ys = true := by
  -- The names of the third object are those of the second, so a member of the first is there.
  have hnames := names_subset_of_length_eq hnodup (names_subset_of_sameMembers hys) hlength
  refine sameMembers_iff.2 fun m hm ↦ ?_
  obtain ⟨t, ht, hmt⟩ := sameMembers_iff.1 hxs m hm
  obtain ⟨y, hy⟩ := exists_member? (hnames (names_subset_of_sameMembers hxs
    (List.mem_map_of_mem hm)))
  have hmem := mem_of_member? hy
  obtain ⟨t', ht', hyt⟩ := sameMembers_iff.1 hys _ hmem
  rw [ht] at ht'
  cases ht'
  exact ⟨y, hy, ih _ hmem _ _ hmt hyt⟩

/-- **Values that are the same as a third one are the same.** -/
theorem same_of_same {a b t : Value} (hb : b.hasUniqueNames = true) (hat : a.same t = true)
    (hbt : b.same t = true) : a.same b = true := by
  induction hn : b.height using Nat.strong_induction_on generalizing a b t with
  | _ n ih =>
    obtain ⟨ys, ts, rfl, rfl, hys⟩ | ⟨ys, ts, rfl, rfl, hys⟩ | ⟨hsome, hstanding⟩ := same_cases hbt
    · obtain ⟨xs, _, rfl, h, hxs⟩ | ⟨_, _, -, h, -⟩ | ⟨hsome, hstanding⟩ := same_cases hat
      · cases h
        refine sameItems_of_sameItems (fun y hy x t hx hyt ↦ ?_) hxs hys
        have hlt : y.height < n := by
          have := height_le_of_mem_items hy
          rw [← hn, height]
          omega
        exact ih _ hlt (hasUniqueNames_list.1 hb y hy) hx hyt rfl
      · cases h
      · rw [hstanding] at hsome
        cases hsome
    · obtain ⟨_, _, -, h, -⟩ | ⟨xs, _, rfl, h, hxs⟩ | ⟨hsome, hstanding⟩ := same_cases hat
      · cases h
      · cases h
        obtain ⟨hnodup, hvalues⟩ := hasUniqueNames_object.1 hb
        rw [Bool.and_eq_true, beq_iff_eq] at hxs hys
        have hmembers : sameMembers xs ys = true := by
          refine sameMembers_of_sameMembers (fun m hm x t hx hmt ↦ ?_) hnodup hys.1 hxs.2 hys.2
          have hlt : m.2.height < n := by
            have := height_le_of_mem_members hm
            rw [← hn, height]
            omega
          exact ih _ hlt (hvalues m hm) hx hmt rfl
        rw [same, hmembers, hxs.1, hys.1, beq_self_eq_true]
        rfl
      · rw [hstanding] at hsome
        cases hsome
    · obtain ⟨_, _, -, rfl, -⟩ | ⟨_, _, -, rfl, -⟩ | ⟨-, hstanding'⟩ := same_cases hat
      · rw [hstanding] at hsome
        cases hsome
      · rw [hstanding] at hsome
        cases hsome
      · rw [← hstanding] at hstanding'
        exact same_of_standing? hsome hstanding'

/-! ### Documents -/

theorem mem_setMember {key : Text} {v : Value} {members : List (Text × Value)} {m : Text × Value}
    (h : m ∈ setMember key v members) : m = (key, v) ∨ m ∈ members := by
  induction members with
  | nil => simpa [setMember] using h
  | cons n rest ih =>
    obtain ⟨k, w⟩ := n
    rw [setMember] at h
    split at h
    · rename_i hk
      rw [eq_of_beq hk, List.mem_cons] at h
      exact h.imp_right (List.mem_cons_of_mem _)
    · rw [List.mem_cons] at h
      obtain rfl | h := h
      · exact .inr (List.mem_cons_self ..)
      · exact (ih h).imp_right (List.mem_cons_of_mem _)

theorem nodup_setMember {key : Text} {v : Value} {members : List (Text × Value)}
    (h : (members.map Prod.fst).Nodup) : ((setMember key v members).map Prod.fst).Nodup := by
  induction members with
  | nil => simp [setMember]
  | cons n rest ih =>
    obtain ⟨k, w⟩ := n
    rw [List.map_cons, List.nodup_cons] at h
    rw [setMember]
    split
    · exact List.nodup_cons.2 h
    · rename_i hk
      refine List.nodup_cons.2 ⟨fun hmem ↦ ?_, ih h.2⟩
      obtain ⟨m, hm, hmk⟩ := List.mem_map.1 hmem
      obtain rfl | hm := mem_setMember hm
      · exact hk (beq_iff_eq.2 hmk.symm)
      · exact h.1 (hmk ▸ List.mem_map_of_mem hm)

theorem hasUniqueNames_setMember {key : Text} {v : Value} {members : List (Text × Value)}
    (hv : v.hasUniqueNames = true) (h : (object members).hasUniqueNames = true) :
    (object (setMember key v members)).hasUniqueNames = true := by
  obtain ⟨hnodup, hvalues⟩ := hasUniqueNames_object.1 h
  refine hasUniqueNames_object.2 ⟨nodup_setMember hnodup, fun m hm ↦ ?_⟩
  obtain rfl | hm := mem_setMember hm
  · exact hv
  · exact hvalues m hm

theorem hasUniqueNames_ofMembers {written : List (Text × Value)}
    (h : ∀ m ∈ written, m.2.hasUniqueNames = true) : (ofMembers written).hasUniqueNames = true := by
  rw [ofMembers]
  induction written using List.reverseRecOn with
  | nil => rfl
  | append_singleton written m ih =>
    rw [List.foldl_append, List.foldl_cons, List.foldl_nil]
    exact hasUniqueNames_setMember (h m (by simp)) (ih fun w hw ↦ h w (by simp [hw]))

end Value

namespace Document

variable {cs rest : List Char} {v : Value}

theorem hasUniqueNames_of_value? {d : Decimal} {negative : Bool}
    (h : d.value? negative = some v) : v.hasUniqueNames = true := by
  rw [Decimal.value?] at h
  split at h
  · split at h
    · cases h
    · cases h
      rfl
  · dsimp only at h
    split at h
    · cases h
    · cases h
      rfl

theorem hasUniqueNames_of_readHexadecimal? {negative : Bool}
    (h : readHexadecimal? negative cs = some (v, rest)) : v.hasUniqueNames = true := by
  rw [readHexadecimal?.eq_def] at h
  split at h
  · dsimp only at h
    split at h
    · cases h
      rfl
    · cases h
  · cases h

theorem hasUniqueNames_of_readUnsigned? {negative : Bool}
    (h : readUnsigned? negative cs = some (v, rest)) : v.hasUniqueNames = true := by
  rw [readUnsigned?] at h
  split at h
  · split at h
    · exact hasUniqueNames_of_readHexadecimal? h
    · obtain ⟨_, hvalue, h⟩ := Option.map_eq_some_iff.1 h
      cases h
      exact hasUniqueNames_of_value? hvalue
  · split at h
    · cases h
      rfl
    · obtain ⟨_, -, h⟩ := Option.map_eq_some_iff.1 h
      cases h
      rfl

theorem hasUniqueNames_of_readNumber? (h : readNumber? cs = some (v, rest)) :
    v.hasUniqueNames = true := by
  rw [readNumber?.eq_def] at h
  split at h <;> exact hasUniqueNames_of_readUnsigned? h

theorem hasUniqueNames_of_readWord? (h : readWord? cs = some (v, rest)) :
    v.hasUniqueNames = true := by
  rw [readWord?] at h
  split at h
  · cases h
    rfl
  · split at h
    · cases h
      rfl
    · obtain ⟨_, -, h⟩ := Option.map_eq_some_iff.1 h
      cases h
      rfl

/-- What is read within a bound has no name twice in an object, wherever it is read. -/
structure ReadsUniqueNames (bound : Nat) : Prop where
  /-- A value. -/
  value : ∀ {cs v rest}, readValue? bound cs = some (v, rest) → v.hasUniqueNames = true
  /-- The items of a list. -/
  items : ∀ {cs items rest}, readItems? bound cs = some (items, rest) →
    ∀ v ∈ items, v.hasUniqueNames = true
  /-- The members of an object. -/
  members : ∀ {cs members rest}, readMembers? bound cs = some (members, rest) →
    ∀ m ∈ members, m.2.hasUniqueNames = true

namespace ReadsUniqueNames

variable {bound : Nat}

theorem value_succ (ih : ReadsUniqueNames bound)
    (h : readValue? (bound + 1) cs = some (v, rest)) : v.hasUniqueNames = true := by
  rw [readValue?.eq_def] at h
  dsimp only at h
  split at h
  · obtain ⟨r, hr, h⟩ := Option.map_eq_some_iff.1 h
    cases h
    exact Value.hasUniqueNames_list.2 (ih.items hr)
  · obtain ⟨r, hr, h⟩ := Option.map_eq_some_iff.1 h
    cases h
    exact Value.hasUniqueNames_ofMembers (ih.members hr)
  · split at h
    · rename_i hword
      cases h
      exact hasUniqueNames_of_readWord? hword
    · split at h
      · cases h
        rfl
      · exact hasUniqueNames_of_readNumber? h

theorem items_succ (ih : ReadsUniqueNames bound) {items : List Value}
    (h : readItems? (bound + 1) cs = some (items, rest)) :
    ∀ v ∈ items, v.hasUniqueNames = true := by
  rw [readItems?.eq_def] at h
  split at h
  · cases h
  · cases h
    exact List.forall_mem_nil _
  · rename_i hbound _
    cases hbound
    split at h
    · cases h
    · have hvalue := ih.value ‹_›
      split at h
      · obtain ⟨r, hr, h⟩ := Option.map_eq_some_iff.1 h
        cases h
        exact List.forall_mem_cons.2 ⟨hvalue, ih.items hr⟩
      · cases h
        exact List.forall_mem_singleton.2 hvalue
      · cases h

theorem members_succ (ih : ReadsUniqueNames bound) {members : List (Text × Value)}
    (h : readMembers? (bound + 1) cs = some (members, rest)) :
    ∀ m ∈ members, m.2.hasUniqueNames = true := by
  rw [readMembers?.eq_def] at h
  split at h
  · cases h
  · cases h
    exact List.forall_mem_nil _
  · rename_i hbound _
    cases hbound
    split at h
    · cases h
    · split at h
      · split at h
        · cases h
        · have hvalue := ih.value ‹_›
          split at h
          · obtain ⟨r, hr, h⟩ := Option.map_eq_some_iff.1 h
            cases h
            exact List.forall_mem_cons.2 ⟨hvalue, ih.members hr⟩
          · cases h
            exact List.forall_mem_singleton.2 hvalue
          · cases h
      · cases h

end ReadsUniqueNames

/-- **What is read from a text** has no name twice in an object. -/
theorem readsUniqueNames (bound : Nat) : ReadsUniqueNames bound := by
  induction bound with
  | zero => exact ⟨nofun, nofun, nofun⟩
  | succ bound ih => exact ⟨ih.value_succ, ih.items_succ, ih.members_succ⟩

theorem hasUniqueNames_of_readDocument? (h : readDocument? cs = some v) :
    v.hasUniqueNames = true := by
  rw [readDocument?] at h
  split at h
  · rename_i hread
    split at h
    · cases h
      exact (readsUniqueNames _).value hread
    · cases h
  · cases h

end Document

end StructuredIL
