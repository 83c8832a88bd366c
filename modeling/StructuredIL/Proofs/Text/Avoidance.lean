import StructuredIL.Proofs.C.Token
import StructuredIL.Text.Case

/-!
# Characters that a text does without

A diagnostic is told from what stands around it by the colon of its marker, and the structure of
a text by its brackets. These five characters are `Text.framing`. The words of the library and the
integers do without all of them, and a name that does without some of them still does so in small
letters (`Text.Avoids.lower`): no letter has a counterpart among them.
-/

namespace StructuredIL.Text

/-- The characters that diagnostics begin with and that brackets are made of. -/
def framing : List Char := [':', '(', ')', '\x7b', '\x7d']

theorem forall_mem_framing {P : Char → Prop} :
    (∀ c ∈ framing, P c) ↔ P ':' ∧ P '(' ∧ P ')' ∧ P '\x7b' ∧ P '\x7d' := by
  simp [framing]

/-- A text without certain characters. -/
def Avoids (chars : List Char) (t : Text) : Prop := ∀ c ∈ chars, CodePoint.char c ∉ t

instance (chars : List Char) (t : Text) : Decidable (Avoids chars t) :=
  List.decidableBAll (fun c ↦ CodePoint.char c ∉ t) chars

variable {chars : List Char} {t u : Text}

theorem avoids_nil : Avoids chars [] := fun _ _ ↦ List.not_mem_nil

theorem avoids_append : Avoids chars (t ++ u) ↔ Avoids chars t ∧ Avoids chars u := by
  simp only [Avoids, List.mem_append, not_or]
  exact ⟨fun h ↦ ⟨fun c hc ↦ (h c hc).1, fun c hc ↦ (h c hc).2⟩, fun h c hc ↦ ⟨h.1 c hc, h.2 c hc⟩⟩

/-- The characters of a literal are found by unification, which spares decoding it. -/
theorem avoids_ofList {cs : List Char} (h : chars.any cs.contains = false) :
    Avoids chars (ofString (String.ofList cs)) := by
  intro c hc hmem
  rw [ofString, String.toList_ofList] at hmem
  obtain ⟨d, hd, heq⟩ := List.mem_map.1 hmem
  cases heq
  exact List.any_eq_false.1 h c hc (List.contains_iff_mem.2 hd)

/-! ### Names -/

/-- A name has no other characters than those of words. -/
theorem avoids_of_isIdentifier (h : C.isIdentifier t = true)
    (hchars : chars.any C.isWordChar = false) : Avoids chars t := by
  intro c hc hmem
  have hword : C.isWordChar c = true := C.isWordChar_of_isIdentifier h _ hmem
  exact List.any_eq_false.1 hchars c hc hword

/-! ### Integers -/

/-- Digits are no other characters. -/
theorem avoids_of_isDigits (h : C.isDigits t = true) (hchars : chars.any Char.isDigit = false) :
    Avoids chars t := by
  intro c hc hmem
  have hall : t.all (CodePoint.is Char.isDigit) = true := (Bool.and_eq_true_iff.1 h).2
  have hdigit : c.isDigit = true := List.all_eq_true.1 hall _ hmem
  exact List.any_eq_false.1 hchars c hc hdigit

/-- An integer in writing has digits only, and perhaps a sign. -/
theorem avoids_integer_of (value : Int) (hchars : chars.any Char.isDigit = false)
    (hsign : '-' ∉ chars) : Avoids chars (ofString (toString value)) := by
  cases value with
  | ofNat n => exact avoids_of_isDigits (C.isDigits_repr n) hchars
  | negSucc n =>
    have hnone : Avoids chars "-" := by
      intro c hc hmem
      cases List.mem_singleton.1 hmem
      exact hsign hc
    rw [C.ofString_negSucc]
    exact avoids_append.2 ⟨hnone, avoids_of_isDigits (C.isDigits_repr (n + 1)) hchars⟩

theorem avoids_natural (n : Nat) : Avoids framing (ofString (toString n)) :=
  avoids_of_isDigits (C.isDigits_repr n) (by decide)

theorem avoids_integer (value : Int) : Avoids framing (ofString (toString value)) :=
  avoids_integer_of value (by decide) (by decide)

/-! ### Small letters -/

/-- Of the letters beyond ASCII, one has a counterpart that is ASCII, the Kelvin sign, and that
counterpart is a letter. -/
theorem apply_of_mem_lowerShifts {s : CaseShift} (hs : s ∈ lowerShifts) {n : Nat}
    (hn : s.run.contains n = true) : 0x80 ≤ s.apply n ∨ s.apply n = 'k'.toNat := by
  have htable : ∀ s ∈ lowerShifts,
      0x80 ≤ (s.first : Int) + s.distance ∨ s.first = s.last ∧ s.first + s.distance = 0x6B := by
    decide +kernel
  obtain ⟨hfirst, hlast, -⟩ := CodeRun.contains_iff.1 hn
  have hfirst' : s.first ≤ n := hfirst
  have hlast' : n ≤ s.last := hlast
  show 0x80 ≤ ((n : Int) + s.distance).toNat ∨ ((n : Int) + s.distance).toNat = 0x6B
  rcases htable s hs with h | ⟨hsingle, h⟩
  · exact .inl (by omega)
  · exact .inr (by omega)

theorem toNat_ofNat {n : Nat} (h : (Char.ofNat n).toNat ≠ 0) : (Char.ofNat n).toNat = n := by
  by_cases hvalid : n.isValidChar
  · rw [Char.ofNat, dif_pos hvalid]
    rfl
  · rw [Char.ofNat, dif_neg hvalid] at h
    exact absurd rfl h

/-- A letter that has a counterpart beyond ASCII is not sent to one of the five characters. -/
theorem shifted_of_mem_framing {c : Char} (h : shifted lowerShifts c ∈ framing) :
    shifted lowerShifts c = c := by
  rw [shifted] at h ⊢
  split at h
  · rename_i s hfind
    have happly := apply_of_mem_lowerShifts (List.mem_of_find?_eq_some hfind)
      (List.find?_some (p := fun s : CaseShift ↦ s.run.contains c.toNat) hfind)
    have hsmall : ∀ d ∈ framing, d.toNat ≠ 0 ∧ d.toNat < 0x80 ∧ d.toNat ≠ 'k'.toNat :=
      forall_mem_framing.2 (by decide)
    obtain ⟨hzero, hascii, hk⟩ := hsmall _ h
    rw [toNat_ofNat hzero] at hascii hk
    rcases happly with happly | happly
    · omega
    · exact absurd happly hk
  · rfl

theorem eq_of_mem_lowerOf {before after : Text} {c d : Char} (h : d ∈ lowerOf before c after)
    (hd : d ∈ framing) : d = c := by
  rw [lowerOf] at h
  split at h
  · have htable : ∀ d ∈ framing, ∀ n < 0x80, d = (Char.ofNat n).toLower → d = Char.ofNat n :=
      forall_mem_framing.2 (by decide +kernel)
    have hc := htable d hd c.toNat (of_decide_eq_true ‹_›)
    rw [Char.ofNat_toNat] at hc
    exact hc (List.mem_singleton.1 h)
  · split at h
    · have hsigma : '\u03c2' ∉ framing ∧ '\u03c3' ∉ framing := by decide
      rw [List.mem_singleton] at h
      split at h
      · exact absurd (h ▸ hd) hsigma.1
      · exact absurd (h ▸ hd) hsigma.2
    · split at h
      · have hword : 'i' ∉ framing ∧ '\u0307' ∉ framing := by decide
        rcases List.mem_cons.1 h with rfl | h
        · exact absurd hd hword.1
        · exact absurd (List.mem_singleton.1 h ▸ hd) hword.2
      · rw [List.mem_singleton] at h
        rw [h] at hd ⊢
        exact shifted_of_mem_framing hd

/-- **A text that does without some of the five characters** does without them in small letters. -/
theorem Avoids.lower (hchars : chars ⊆ framing) (h : t.Avoids chars) : t.lower.Avoids chars := by
  have hafter : ∀ before : Text, (lowerAfter before t).Avoids chars := by
    induction t with
    | nil => exact fun _ ↦ avoids_nil
    | cons p rest ih =>
      intro before
      have hrest : Avoids chars rest := fun c hc hmem ↦ h c hc (List.mem_cons_of_mem p hmem)
      cases p with
      | char c =>
        refine avoids_append.2 ⟨fun d hd hmem ↦ ?_, ih hrest _⟩
        obtain ⟨e, he, heq⟩ := List.mem_map.1 hmem
        cases heq
        obtain rfl := eq_of_mem_lowerOf he (hchars hd)
        exact h _ hd (List.mem_cons_self ..)
      | half d =>
        intro c hc hmem
        rcases List.mem_cons.1 hmem with heq | hmem
        · cases heq
        · exact ih hrest _ c hc hmem
  exact hafter []

end StructuredIL.Text
