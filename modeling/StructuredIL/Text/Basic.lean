/-!
# Texts

A text is a list of code points. Nearly all code points are characters, but 2048 of them are not:
each is half of a surrogate pair. A document may name one by an escape. A text that holds such a
half can be compared, searched and quoted like every other; it only cannot be written to a file,
because no encoding has a place for it.

So whatever may hold a text of a document is a `Text`, and `String` is kept for the words of the
library itself and for what stands in files. The way in is `Text.ofString`, which is also a
coercion, and the way out is `Text.toString?`, which gives nothing for a text with a half in it. The
two are inverse to each other (`toString?_ofString`, `ofString_of_toString?`).
-/

namespace StructuredIL

/-! ### Code points -/

/-- A code point. -/
inductive CodePoint where
  /-- A character. -/
  | char (c : Char)
  /-- Half of a surrogate pair, by its distance from `U+D800`, the first of them. -/
  | half (distance : Fin 0x800)
  deriving DecidableEq, Repr, Inhabited

namespace CodePoint

/-- The number of a code point. -/
def toNat : CodePoint → Nat
  | char c => c.toNat
  | half d => 0xD800 + d

/-- The code point of a number below `0x110000`. -/
def ofNat (n : Nat) : CodePoint :=
  if n.isValidChar then char (Char.ofNat n) else half (Fin.ofNat 0x800 (n - 0xD800))

/-- Whether a code point is a character of a class. -/
def is (p : Char → Bool) : CodePoint → Bool
  | char c => p c
  | half _ => false

@[simp] theorem is_char (p : Char → Bool) (c : Char) : (char c).is p = p c := rfl

@[simp] theorem is_half (p : Char → Bool) (d : Fin 0x800) : (half d).is p = false := rfl

end CodePoint

/-! ### Texts -/

/-- A text. -/
abbrev Text := List CodePoint

namespace Text

/-- The text of some characters. -/
def ofChars (cs : List Char) : Text := cs.map .char

/-- The text of a string. -/
def ofString (s : String) : Text := ofChars s.toList

instance : Coe String Text := ⟨ofString⟩

/-- The characters of a text, if all its code points are characters. -/
def chars? : Text → Option (List Char)
  | [] => some []
  | .char c :: rest => (chars? rest).map (c :: ·)
  | .half _ :: _ => none

/-- A text as a string, if all its code points are characters. -/
def toString? (t : Text) : Option String := (chars? t).map String.ofList

/-- Texts one after the other, with another text between any two of them. -/
def joined (between : Text) (parts : List Text) : Text := List.intercalate between parts

/-! ### Strings as texts -/

theorem ofChars_append (cs ds : List Char) : ofChars (cs ++ ds) = ofChars cs ++ ofChars ds :=
  List.map_append

theorem ofString_append (s t : String) : ofString (s ++ t) = ofString s ++ ofString t := by
  simp [ofString, ofChars_append]

theorem ofChars_inj {cs ds : List Char} : ofChars cs = ofChars ds ↔ cs = ds :=
  List.map_inj_right fun _ _ h ↦ CodePoint.char.inj h

theorem ofString_inj {s t : String} : ofString s = ofString t ↔ s = t := by
  rw [ofString, ofString, ofChars_inj, String.toList_inj]

theorem chars?_ofChars (cs : List Char) : chars? (ofChars cs) = some cs := by
  induction cs with
  | nil => rfl
  | cons c cs ih =>
    have h : chars? (ofChars (c :: cs)) = (chars? (ofChars cs)).map (c :: ·) := rfl
    rw [h, ih, Option.map_some]

theorem ofChars_of_chars? {t : Text} {cs : List Char} (h : chars? t = some cs) :
    ofChars cs = t := by
  induction t generalizing cs with
  | nil => cases h; rfl
  | cons p rest ih =>
    cases p with
    | char c =>
      obtain ⟨ds, hd, rfl⟩ := Option.map_eq_some_iff.1 h
      have hr : ofChars (c :: ds) = .char c :: ofChars ds := rfl
      rw [hr, ih hd]
    | half d => cases h

theorem toString?_ofString (s : String) : toString? (ofString s) = some s := by
  rw [toString?, ofString, chars?_ofChars, Option.map_some, String.ofList_toList]

theorem ofString_of_toString? {t : Text} {s : String} (h : toString? t = some s) :
    ofString s = t := by
  obtain ⟨cs, hc, rfl⟩ := Option.map_eq_some_iff.1 h
  rw [ofString, String.toList_ofList, ofChars_of_chars? hc]

end Text

end StructuredIL
