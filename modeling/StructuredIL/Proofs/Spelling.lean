import Mathlib
import StructuredIL.Tree.Kinds

/-!
# The spellings of a name

The name of a member is made of words in capitals, with an underscore between any two of them
(`MemberName`). A document may write it as it is, in small letters, as words run together with a
capital at the front of each, or like that with a small letter at the very front (`Spelling`).
Whatever the words are, each of these stands for the name (`MemberName.key_spelled`). So a member is
found under every spelling of its name, and no other member is
(`Vocabulary.ofSpelling_spelled_iff`).

Words run together can be told from a name in capitals by a small letter, so a name of two words or
more needs a word with a letter behind its first one. Of one word this is not asked: it is divided
nowhere, whether it is taken for a name in capitals or not.
-/

namespace StructuredIL

open Text

/-! ### Words and names -/

/-- A word of a name: a capital letter of ASCII, and capital letters and digits behind it. -/
structure NameWord where
  /-- The first letter. -/
  first : Char
  /-- What is behind it. -/
  rest : List Char
  /-- The first letter is a capital. -/
  isUpper_first : first.isUpper = true
  /-- Behind it are capitals and digits. -/
  all_rest : (rest.all fun c ↦ c.isUpper || c.isDigit) = true

namespace NameWord

/-- The characters of a word. -/
def chars (w : NameWord) : List Char := w.first :: w.rest

/-- The characters of a word with small letters behind the first one. -/
def capitalized (w : NameWord) : List Char := w.first :: w.rest.map Char.toLower

/-- Whether a word has a letter behind its first one. -/
def HasSecondLetter (w : NameWord) : Prop := ∃ c ∈ w.rest, c.isUpper = true

end NameWord

/-- A name in words. -/
structure MemberName where
  /-- The first word. -/
  first : NameWord
  /-- The other words, in order. -/
  others : List NameWord
  /-- Of several words, one has a letter behind its first one. -/
  exists_hasSecondLetter : others ≠ [] → ∃ w ∈ first :: others, w.HasSecondLetter

/-- How a name may be written. -/
inductive Spelling where
  /-- As it is. -/
  | capitals
  /-- In small letters. -/
  | small
  /-- In words run together, each with a capital at its front. -/
  | camel
  /-- In words run together, each but the first with a capital at its front. -/
  | smallCamel
  deriving DecidableEq, Repr

namespace MemberName

/-- The characters of a name: its words, with underscores between them. -/
def chars (N : MemberName) : List Char :=
  N.first.chars ++ N.others.flatMap fun w ↦ '_' :: w.chars

/-- A name as it is. -/
def text (N : MemberName) : Text := ofChars N.chars

/-- The words of a name run together. -/
def camelCase (N : MemberName) : List Char :=
  N.first.capitalized ++ N.others.flatMap NameWord.capitalized

/-- A name in a spelling. -/
def spelled (N : MemberName) : Spelling → Text
  | .capitals => N.text
  | .small => lower N.text
  | .camel => ofChars N.camelCase
  | .smallCamel => ofChars (N.camelCase.modifyHead Char.toLower)

end MemberName

/-! ### Capitals and digits -/

section Characters

variable {c : Char}

theorem toNat_of_isUpper (h : c.isUpper = true) : 65 ≤ c.toNat ∧ c.toNat ≤ 90 := by
  simpa [Char.isUpper, UInt32.le_iff_toNat_le] using h

theorem toNat_of_isLower (h : c.isLower = true) : 97 ≤ c.toNat ∧ c.toNat ≤ 122 := by
  simpa [Char.isLower, UInt32.le_iff_toNat_le] using h

theorem isAscii_of_isLower (h : c.isLower = true) : isAscii c = true :=
  decide_eq_true (Nat.lt_of_le_of_lt (toNat_of_isLower h).2 (by decide))

/-- A character that names have: a capital letter, a digit, or an underscore. -/
def IsNameChar (c : Char) : Prop := c.isUpper = true ∨ c.isDigit = true ∨ c = '_'

namespace IsNameChar

theorem toNat_lt (h : IsNameChar c) : c.toNat < 97 := by
  rcases h with h | h | rfl
  · have hbounds := toNat_of_isUpper h
    omega
  · have hbounds := Char.isDigit_iff_toNat.1 h
    exact Nat.lt_of_le_of_lt hbounds.2 (by decide)
  · decide

theorem isLower_eq_false (h : IsNameChar c) : c.isLower = false := by
  have hlt := h.toNat_lt
  rw [Bool.eq_false_iff]
  intro hlower
  have hbounds := toNat_of_isLower hlower
  omega

theorem toUpper_eq (h : IsNameChar c) : c.toUpper = c :=
  Char.toUpper_eq_of_not_isLower (Bool.eq_false_iff.1 h.isLower_eq_false)

theorem toUpper_toLower (h : IsNameChar c) : c.toLower.toUpper = c := by
  rw [Char.toUpper_toLower_eq_toUpper, h.toUpper_eq]

theorem isAscii (h : IsNameChar c) : isAscii c = true := by
  have hlt := h.toNat_lt
  exact decide_eq_true (by omega)

theorem isAscii_toLower (h : IsNameChar c) : Text.isAscii c.toLower = true := by
  by_cases hupper : c.isUpper = true
  · have hbounds := toNat_of_isUpper hupper
    rw [Char.toLower_eq_of_isUpper hupper]
    refine decide_eq_true ?_
    rw [Char.toNat_ofNat]
    split <;> omega
  · rw [Char.toLower_eq_of_not_isUpper hupper]
    exact h.isAscii

end IsNameChar

end Characters

/-- Characters that names have, in small letters and then in capitals again. -/
theorem map_toUpper_map_toLower {cs : List Char} (h : ∀ c ∈ cs, IsNameChar c) :
    (cs.map Char.toLower).map Char.toUpper = cs := by
  rw [List.map_map]
  exact (List.map_congr_left fun c hc ↦ (h c hc).toUpper_toLower).trans (List.map_id cs)

theorem mem_ofChars {c : Char} {cs : List Char} : .char c ∈ ofChars cs ↔ c ∈ cs :=
  List.mem_map_of_injective fun _ _ h ↦ CodePoint.char.inj h

/-- A small letter of ASCII keeps a text from being in capitals. -/
theorem inCapitals_eq_false {c : Char} {cs : List Char} (hmem : c ∈ cs)
    (hlower : c.isLower = true) : inCapitals (ofChars cs) = false := by
  have hsmall : isSmall c = true := by
    rw [isSmall_ascii (isAscii_of_isLower hlower), hlower]
  have hany : (ofChars cs).any (CodePoint.is isSmall) = true :=
    List.any_eq_true.2 ⟨.char c, mem_ofChars.2 hmem, hsmall⟩
  rw [inCapitals, hany, Bool.not_true, Bool.and_false]

/-! ### Words run together -/

namespace Vocabulary

theorem divide_append (t u : Text) : divide (t ++ u) = divide t ++ divide u := List.flatMap_append

/-- Without capitals there is nothing to divide. -/
theorem divide_eq_self {cs : List Char} (h : ∀ c ∈ cs, c.isUpper = false) :
    divide (ofChars cs) = ofChars cs := by
  induction cs with
  | nil => rfl
  | cons c cs ih =>
    have hrest := ih fun d hd ↦ h d (List.mem_cons_of_mem c hd)
    rw [ofChars, divide] at hrest ⊢
    simp [h c (List.mem_cons_self ..), hrest]

end Vocabulary

open Vocabulary

namespace NameWord

variable (w : NameWord)

theorem isUpper_or_isDigit_of_mem {c : Char} (h : c ∈ w.chars) :
    c.isUpper = true ∨ c.isDigit = true := by
  rcases List.mem_cons.1 h with rfl | h
  · exact .inl w.isUpper_first
  · exact Bool.or_eq_true_iff.1 (List.all_eq_true.1 w.all_rest c h)

theorem isNameChar_of_mem {c : Char} (h : c ∈ w.chars) : IsNameChar c :=
  (w.isUpper_or_isDigit_of_mem h).imp_right .inl

theorem isNameChar_first : IsNameChar w.first := .inl w.isUpper_first

theorem map_toUpper_capitalized : w.capitalized.map Char.toUpper = w.chars := by
  have hrest : (w.rest.map Char.toLower).map Char.toUpper = w.rest :=
    map_toUpper_map_toLower fun c hc ↦ w.isNameChar_of_mem (List.mem_cons_of_mem w.first hc)
  rw [capitalized, List.map_cons, hrest, w.isNameChar_first.toUpper_eq, chars]

theorem isAscii_of_mem_capitalized {c : Char} (h : c ∈ w.capitalized) : isAscii c = true := by
  rcases List.mem_cons.1 h with rfl | h
  · exact w.isNameChar_first.isAscii
  · obtain ⟨d, hd, rfl⟩ := List.mem_map.1 h
    exact (w.isNameChar_of_mem (List.mem_cons_of_mem w.first hd)).isAscii_toLower

/-- Behind its first letter a word is not divided. -/
theorem divide_rest : divide (ofChars (w.rest.map Char.toLower)) =
    ofChars (w.rest.map Char.toLower) := by
  refine divide_eq_self fun c hc ↦ ?_
  obtain ⟨d, -, rfl⟩ := List.mem_map.1 hc
  exact Char.isUpper_toLower_eq_false d

/-- A word is divided from what is in front of it. -/
theorem divide_capitalized :
    divide (ofChars w.capitalized) = ofChars ('_' :: w.capitalized) := by
  have hfirst : divide [.char w.first] = [.char '_', .char w.first] := by
    simp [divide, w.isUpper_first]
  show divide ([.char w.first] ++ ofChars (w.rest.map Char.toLower)) = _
  rw [divide_append, hfirst, divide_rest]
  rfl

theorem divide_flatMap_capitalized (ws : List NameWord) :
    divide (ofChars (ws.flatMap capitalized)) =
      ofChars (ws.flatMap fun w ↦ '_' :: w.capitalized) := by
  induction ws with
  | nil => rfl
  | cons w ws ih =>
    rw [List.flatMap_cons, List.flatMap_cons, ofChars_append, ofChars_append, divide_append, ih,
      divide_capitalized]

end NameWord

namespace MemberName

variable (N : MemberName)

theorem isNameChar_of_mem {c : Char} (h : c ∈ N.chars) : IsNameChar c := by
  rcases List.mem_append.1 h with h | h
  · exact N.first.isNameChar_of_mem h
  · obtain ⟨w, -, h⟩ := List.mem_flatMap.1 h
    rcases List.mem_cons.1 h with rfl | h
    · exact .inr (.inr rfl)
    · exact w.isNameChar_of_mem h

/-- Words run together, behind the first letter. -/
def camelTail : List Char :=
  N.first.rest.map Char.toLower ++ N.others.flatMap NameWord.capitalized

/-- **Words run together are divided again** in front of each but the first, if the first letter is
the one that it should be or its small letter. -/
theorem upper_divided {c : Char} (hascii : isAscii c = true) (hc : c.toUpper = N.first.first) :
    upper (divided (ofChars (c :: N.camelTail))) = N.text := by
  have hfirst : upperPoint (.char c) = [.char N.first.first] := by
    rw [upperPoint, upperOf_ascii hascii, hc]
    rfl
  have hdivided : divided (ofChars (c :: N.camelTail)) =
      ofChars (N.first.capitalized ++ N.others.flatMap fun w ↦ '_' :: w.capitalized) := by
    have hcons : ofChars (c :: N.camelTail) = .char c :: ofChars N.camelTail := rfl
    rw [hcons, divided, hfirst]
    show .char N.first.first :: divide (ofChars N.camelTail) = _
    rw [camelTail, ofChars_append, divide_append, NameWord.divide_rest,
      NameWord.divide_flatMap_capitalized, NameWord.capitalized, List.cons_append, ← ofChars_append]
    rfl
  have hchars : ∀ c ∈ N.first.capitalized ++ N.others.flatMap fun w ↦ '_' :: w.capitalized,
      isAscii c = true := by
    intro d hd
    rcases List.mem_append.1 hd with hd | hd
    · exact N.first.isAscii_of_mem_capitalized hd
    · obtain ⟨w, -, hd⟩ := List.mem_flatMap.1 hd
      rcases List.mem_cons.1 hd with rfl | hd
      · decide
      · exact w.isAscii_of_mem_capitalized hd
  rw [hdivided, upper_ofChars hchars, List.map_append, NameWord.map_toUpper_capitalized,
    List.map_flatMap]
  simp only [List.map_cons, NameWord.map_toUpper_capitalized]
  rfl

/-- Run together in capitals, the words have nothing between them. -/
theorem map_toUpper_camel {c : Char} (hc : c.toUpper = N.first.first) :
    (c :: N.camelTail).map Char.toUpper = (N.first :: N.others).flatMap NameWord.chars := by
  have hcamel : (c :: N.camelTail).map Char.toUpper = N.camelCase.map Char.toUpper := by
    rw [List.map_cons, hc, ← N.first.isNameChar_first.toUpper_eq, ← List.map_cons]
    rfl
  rw [hcamel, camelCase, ← List.flatMap_cons, List.map_flatMap]
  simp only [NameWord.map_toUpper_capitalized]

theorem underscore_not_mem {c : Char} (hc : c.toUpper = N.first.first) :
    '_' ∉ c :: N.camelTail := by
  intro hmem
  -- an underscore stays one in capitals, and none of the words has one
  have hupper : '_' ∈ (c :: N.camelTail).map Char.toUpper := List.mem_map.2 ⟨'_', hmem, rfl⟩
  rw [N.map_toUpper_camel hc] at hupper
  obtain ⟨w, -, hw⟩ := List.mem_flatMap.1 hupper
  exact absurd (w.isUpper_or_isDigit_of_mem hw) (by decide)

theorem isAscii_of_mem_camelTail {c : Char} (h : c ∈ N.camelTail) : isAscii c = true := by
  rcases List.mem_append.1 h with h | h
  · exact N.first.isAscii_of_mem_capitalized (List.mem_cons_of_mem _ h)
  · obtain ⟨w, -, h⟩ := List.mem_flatMap.1 h
    exact w.isAscii_of_mem_capitalized h

/-- A letter behind the first one of a word is a small letter when words are run together. -/
theorem exists_isLower (h : N.others ≠ []) : ∃ c ∈ N.camelTail, c.isLower = true := by
  obtain ⟨w, hw, c, hc, hupper⟩ := N.exists_hasSecondLetter h
  have hmem : c.toLower ∈ w.rest.map Char.toLower := List.mem_map_of_mem hc
  refine ⟨c.toLower, ?_, ?_⟩
  · rcases List.mem_cons.1 hw with rfl | hw
    · exact List.mem_append_left _ hmem
    · exact List.mem_append_right _
        (List.mem_flatMap.2 ⟨w, hw, List.mem_cons_of_mem w.first hmem⟩)
  · rw [Char.isLower_toLower_eq_isAlpha, Char.isAlpha, hupper, Bool.true_or]

/-! ### Every spelling -/

theorem upper_text : upper N.text = N.text := by
  rw [text, upper_ofChars fun c hc ↦ (N.isNameChar_of_mem hc).isAscii]
  exact congrArg ofChars ((List.map_congr_left fun c hc ↦
    (N.isNameChar_of_mem hc).toUpper_eq).trans (List.map_id N.chars))

theorem lower_text : lower N.text = ofChars (N.chars.map Char.toLower) :=
  lower_ofChars fun _ hc ↦ (N.isNameChar_of_mem hc).isAscii

theorem upper_lower_text : upper (lower N.text) = N.text := by
  have hascii : ∀ c ∈ N.chars.map Char.toLower, isAscii c = true := by
    intro c hc
    obtain ⟨d, hd, rfl⟩ := List.mem_map.1 hc
    exact (N.isNameChar_of_mem hd).isAscii_toLower
  rw [lower_text, upper_ofChars hascii, map_toUpper_map_toLower fun c hc ↦ N.isNameChar_of_mem hc,
    text]

theorem inCapitals_text : inCapitals N.text = true := by
  have hcapital : N.text.any (CodePoint.is isCapital) = true := by
    refine List.any_eq_true.2 ⟨.char N.first.first, mem_ofChars.2 (List.mem_cons_self ..), ?_⟩
    rw [CodePoint.is_char, isCapital_ascii N.first.isNameChar_first.isAscii,
      N.first.isUpper_first]
  have hsmall : N.text.any (CodePoint.is isSmall) = false := by
    refine List.any_eq_false.2 fun p hp ↦ ?_
    obtain ⟨c, hc, rfl⟩ := List.mem_map.1 hp
    have hname := N.isNameChar_of_mem hc
    rw [CodePoint.is_char, isSmall_ascii hname.isAscii, hname.isLower_eq_false]
    exact Bool.false_ne_true
  rw [inCapitals, hcapital, hsmall]
  rfl

/-- Words run together are no text in capitals, unless there is one word only. -/
theorem others_eq_nil_of_inCapitals {c : Char}
    (h : inCapitals (ofChars (c :: N.camelTail)) = true) : N.others = [] := by
  by_contra hothers
  obtain ⟨d, hd, hlower⟩ := N.exists_isLower hothers
  rw [inCapitals_eq_false (List.mem_cons_of_mem c hd) hlower] at h
  cases h

theorem contains_underscore (cs : List Char) :
    (ofChars cs).contains (.char '_') = true ↔ '_' ∈ cs := by
  rw [List.contains_iff_mem, mem_ofChars]

/-- Words run together stand for the name, if the first letter is the one that it should be or its
small letter. -/
theorem key_camel {c : Char} (hascii : isAscii c = true) (hc : c.toUpper = N.first.first) :
    key (ofChars (c :: N.camelTail)) = N.text := by
  rw [key]
  split
  · rename_i hcond
    -- the text is not divided, so there must be nothing to divide
    have hcapitals : inCapitals (ofChars (c :: N.camelTail)) = true := by
      rcases Bool.or_eq_true_iff.1 hcond with h | h
      · exact h
      · exact absurd ((contains_underscore _).1 h) (N.underscore_not_mem hc)
    have hothers := N.others_eq_nil_of_inCapitals hcapitals
    have hall : ∀ d ∈ c :: N.camelTail, isAscii d = true :=
      List.forall_mem_cons.2 ⟨hascii, fun d hd ↦ N.isAscii_of_mem_camelTail hd⟩
    rw [upper_ofChars hall, N.map_toUpper_camel hc, text, chars, hothers]
    rfl
  · exact N.upper_divided hascii hc

theorem key_small : key (lower N.text) = N.text := by
  by_cases hothers : N.others = []
  · -- a single word is a word run together
    have hsingle : lower N.text = ofChars (N.first.first.toLower :: N.camelTail) := by
      rw [lower_text, chars, camelTail, hothers]
      simp [NameWord.chars]
    rw [hsingle]
    exact N.key_camel N.first.isNameChar_first.isAscii_toLower
      N.first.isNameChar_first.toUpper_toLower
  · obtain ⟨w, ws, hws⟩ := List.exists_cons_of_ne_nil hothers
    have hmem : '_' ∈ N.chars.map Char.toLower := by
      refine List.mem_map.2 ⟨'_', ?_, rfl⟩
      rw [chars, hws, List.flatMap_cons]
      simp
    have hdivided : (lower N.text).contains (.char '_') = true := by
      rw [lower_text]
      exact (contains_underscore _).2 hmem
    rw [key, hdivided, Bool.or_true, if_pos rfl, upper_lower_text]

/-- **Every spelling stands for the name.** -/
theorem key_spelled (form : Spelling) : key (N.spelled form) = N.text := by
  have hfirst : IsNameChar N.first.first := N.first.isNameChar_first
  cases form with
  | capitals => rw [spelled, key, inCapitals_text, Bool.true_or, if_pos rfl, upper_text]
  | small => exact N.key_small
  | camel => exact N.key_camel hfirst.isAscii hfirst.toUpper_eq
  | smallCamel => exact N.key_camel hfirst.isAscii_toLower hfirst.toUpper_toLower

end MemberName

/-! ### Members -/

/-- **A member is found under every spelling of its name**, which stands for that name whether any
member has it or not, and no other member is found under it. -/
theorem Vocabulary.ofSpelling_spelled_iff (N : MemberName) (form : Spelling) :
    key (N.spelled form) = N.text ∧
      ∀ {α : Type} [Vocabulary α] (a b : α), ofString (name a) = N.text →
        (ofSpelling (N.spelled form) = .ok b ↔ b = a) := by
  refine ⟨N.key_spelled form, fun a b ha ↦ ?_⟩
  have hfound : ofSpelling (N.spelled form) = .ok a := by
    rw [ofSpelling, N.key_spelled, ← ha, ofName?_name]
  rw [hfound, Except.ok.injEq, eq_comm]

/-- The name `GREATER_THAN_OR_EQUAL` in words. -/
def ComparisonKind.greaterThanOrEqualName : MemberName where
  first := ⟨'G', ['R', 'E', 'A', 'T', 'E', 'R'], by decide, by decide⟩
  others := [⟨'T', ['H', 'A', 'N'], by decide, by decide⟩, ⟨'O', ['R'], by decide, by decide⟩,
    ⟨'E', ['Q', 'U', 'A', 'L'], by decide, by decide⟩]
  exists_hasSecondLetter _ := ⟨_, List.mem_cons_self .., 'R', by decide, by decide⟩

theorem Vocabulary.ofSpelling_greaterThanOrEqual :
    ofString (name ComparisonKind.greaterThanOrEqual) =
        ComparisonKind.greaterThanOrEqualName.text ∧
      ComparisonKind.greaterThanOrEqualName.spelled .smallCamel = "greaterThanOrEqual" ∧
      ofSpelling (ofString "greaterThanOrEqual") = .ok ComparisonKind.greaterThanOrEqual := by
  have hname : ofString (name ComparisonKind.greaterThanOrEqual) =
      ComparisonKind.greaterThanOrEqualName.text := by decide
  have hspelled : ComparisonKind.greaterThanOrEqualName.spelled .smallCamel =
      "greaterThanOrEqual" := by decide
  have hfound := ofSpelling_spelled_iff ComparisonKind.greaterThanOrEqualName .smallCamel
  rw [hspelled] at hfound
  exact ⟨hname, hspelled, (hfound.2 _ _ hname).2 rfl⟩

/-- Words of one letter each look like one word when they are run together. -/
example : Vocabulary.key "AB" ≠ "A_B" := by decide

end StructuredIL
