import StructuredIL.Document.Value
import StructuredIL.Text.Letter

/-!
# Reading a document

The JSON5 grammar: JSON with comments, names without quotes as keys, texts in either quote that may
go on over a line end, trailing commas, hexadecimal integers, signs, and the two numbers without
digits. A text is read as a list of characters; each reader takes what it understands off the front
and returns the rest, or nothing if the text does not begin that way. Why a text is no document is
not told: a document is read in one piece or not at all.

A number with a point or an exponent is a `Double`, every other one an integer of any size, save
that a decimal integer of more than `maxDigits` digits is refused.

Values nest, so the readers of a value, of its items and of its members call each other. They count
down a bound that `readDocument?` sets above twice the length of the text; of any two calls, one
within the other, at least one takes a character, so the bound is never what stops them.
-/

namespace StructuredIL.Document

open Text

/-! ### Blanks and comments -/

/-- What follows the end of the comment that a text is in. -/
def afterComment? : List Char → Option (List Char)
  | [] => none
  | '*' :: '/' :: rest => some rest
  | _ :: rest => afterComment? rest

theorem length_lt_of_afterComment? {cs rest : List Char} (h : afterComment? cs = some rest) :
    rest.length < cs.length := by
  fun_induction afterComment? cs with
  | case1 => cases h
  | case2 r =>
    cases h
    rw [List.length_cons, List.length_cons]
    omega
  | case3 c r _ ih =>
    have := ih h
    rw [List.length_cons]
    omega

/-- A text without the blanks, line ends and comments at its front. A comment that does not end is
left where it is. -/
def skipBlanks (cs : List Char) : List Char :=
  match cs with
  | [] => []
  | '/' :: '/' :: rest => skipBlanks (rest.dropWhile fun c ↦ !isLineEnd c)
  | '/' :: '*' :: rest =>
    match _h : afterComment? rest with
    | some r => skipBlanks r
    | none => cs
  | c :: rest => if isBlank c || isLineEnd c then skipBlanks rest else cs
termination_by cs.length
decreasing_by
  · have := (List.dropWhile_sublist (fun c ↦ !isLineEnd c) (l := rest)).length_le
    simp only [List.length_cons]
    omega
  · have := length_lt_of_afterComment? ‹_›
    simp only [List.length_cons]
    omega
  · simp

/-- What follows a word, if a text begins with it. -/
def afterWord? : List Char → List Char → Option (List Char)
  | [], cs => some cs
  | w :: word, c :: cs => if w == c then afterWord? word cs else none
  | _ :: _, [] => none

/-! ### Digits and escapes -/

/-- The value of a hexadecimal digit. -/
def hexValue? (c : Char) : Option Nat :=
  if c.isDigit then some (c.toNat - '0'.toNat)
  else if 'a' ≤ c ∧ c ≤ 'f' then some (c.toNat - 'a'.toNat + 10)
  else if 'A' ≤ c ∧ c ≤ 'F' then some (c.toNat - 'A'.toNat + 10)
  else none

/-- The number that a text of digits denotes. -/
def digitsValue (base : Nat) (digits : List Char) : Nat :=
  digits.foldl (fun n c ↦ n * base + (hexValue? c).getD 0) 0

/-- The code point that at most four hexadecimal digits denote. -/
def pointOfDigits? (digits : List Char) : Option CodePoint :=
  if digits.all fun c ↦ (hexValue? c).isSome then some (.ofNat (digitsValue 16 digits)) else none

/-- What a letter after a backslash stands for. -/
def letterEscape (c : Char) : Char :=
  match c with
  | 'b' => '\x08'
  | 'f' => '\x0c'
  | 'n' => '\n'
  | 'r' => '\r'
  | 't' => '\t'
  | 'v' => '\x0b'
  | c => c

/-- What an escape stands for, read after its backslash. A line end stands for nothing. -/
def readEscape? : List Char → Option (Text × List Char)
  | '\r' :: '\n' :: rest => some ([], rest)
  | 'x' :: a :: b :: rest => (pointOfDigits? [a, b]).map fun p ↦ ([p], rest)
  | 'u' :: a :: b :: c :: d :: rest => (pointOfDigits? [a, b, c, d]).map fun p ↦ ([p], rest)
  | '0' :: c :: rest => if c.isDigit then none else some ([.char '\x00'], c :: rest)
  | ['0'] => some ([.char '\x00'], [])
  | c :: rest =>
    if c == 'x' || c == 'u' || c.isDigit then none
    else if isLineEnd c then some ([], rest)
    else some ([.char (letterEscape c)], rest)
  | [] => none

theorem length_lt_of_readEscape? {cs : List Char} {r : Text × List Char}
    (h : readEscape? cs = some r) : r.2.length < cs.length := by
  unfold readEscape? at h
  split at h
  · cases h
    simp only [List.length_cons]
    omega
  · obtain ⟨c, -, rfl⟩ := Option.map_eq_some_iff.1 h
    simp only [List.length_cons]
    omega
  · obtain ⟨c, -, rfl⟩ := Option.map_eq_some_iff.1 h
    simp only [List.length_cons]
    omega
  · split at h
    · cases h
    · cases h
      simp only [List.length_cons]
      omega
  · cases h
    simp only [List.length_cons, List.length_nil]
    omega
  · split at h
    · cases h
    · split at h <;> cases h <;> simp only [List.length_cons] <;> omega
  · cases h

/-! ### Texts and names -/

/-- The text up to its closing quote, and what follows the quote. -/
def readQuoted? (quote : Char) (cs : List Char) : Option (Text × List Char) :=
  match cs with
  | [] => none
  | c :: rest =>
    if c == quote then some ([], rest)
    else if c == '\n' || c == '\r' then none
    else if c == '\\' then
      match _h : readEscape? rest with
      | none => none
      | some (written, after) =>
        (readQuoted? quote after).map fun r ↦ (written ++ r.1, r.2)
    else (readQuoted? quote rest).map fun r ↦ (.char c :: r.1, r.2)
termination_by cs.length
decreasing_by
  · have : after.length < rest.length := length_lt_of_readEscape? ‹_›
    simp only [List.length_cons]
    omega
  · simp

/-- The longest name at the front of a text; `start` tells whether its first character is still to
come. An escape may stand for any part of a name. -/
def readName (start : Bool) : List Char → Text × List Char
  | '\\' :: 'u' :: a :: b :: c :: d :: rest =>
    match pointOfDigits? [a, b, c, d] with
    | some p => let r := readName false rest; (p :: r.1, r.2)
    | none => ([], '\\' :: 'u' :: a :: b :: c :: d :: rest)
  | c :: rest =>
    if isNameStart c || (!start && isNamePart c) then
      let r := readName false rest
      (.char c :: r.1, r.2)
    else ([], c :: rest)
  | [] => ([], [])

/-- A text in either quote. -/
def readString? : List Char → Option (Text × List Char)
  | c :: rest => if c == '"' || c == '\'' then readQuoted? c rest else none
  | [] => none

/-- The key of a member: a text or a name. -/
def readKey? (cs : List Char) : Option (Text × List Char) :=
  match readString? cs with
  | some r => some r
  | none =>
    match readName true cs with
    | ([], _) => none
    | r => some r

/-! ### Numbers -/

/-- The decimal digits at the front of a text, and the rest. -/
def readDigits (cs : List Char) : List Char × List Char :=
  (cs.takeWhile Char.isDigit, cs.dropWhile Char.isDigit)

theorem readDigits_append (cs : List Char) : (readDigits cs).1 ++ (readDigits cs).2 = cs :=
  List.takeWhile_append_dropWhile

/-- The parts of a decimal number as it is written. -/
structure Decimal where
  /-- The digits before the point. -/
  whole : List Char
  /-- The digits after the point, if there is a point. -/
  fraction? : Option (List Char)
  /-- The sign and the digits of the exponent, if there is one. -/
  exponent? : Option (Bool × List Char)

/-- The point and the digits that follow it, if a text begins with a point. -/
def readFraction : List Char → Option (List Char) × List Char
  | '.' :: rest => let r := readDigits rest; (some r.1, r.2)
  | cs => (none, cs)

/-- The sign and the digits of an exponent, if a text begins with one. -/
def readExponent : List Char → Option (Bool × List Char) × List Char
  | c :: rest =>
    if c == 'e' || c == 'E' then
      let (negative, rest) :=
        match rest with
        | '-' :: r => (true, r)
        | '+' :: r => (false, r)
        | r => (false, r)
      let r := readDigits rest
      (some (negative, r.1), r.2)
    else (none, c :: rest)
  | [] => (none, [])

/-- The decimal number at the front of a text. A zero may not be followed by another digit. -/
def readDecimal? (cs : List Char) : Option (Decimal × List Char) :=
  let (whole, rest) := readDigits cs
  let (fraction?, rest) := readFraction rest
  let (exponent?, rest) := readExponent rest
  match whole with
  | '0' :: _ :: _ => none
  | [] => if fraction?.isSome then some (⟨whole, fraction?, exponent?⟩, rest) else none
  | _ => some (⟨whole, fraction?, exponent?⟩, rest)

/-- The value of a decimal number. A number with a point or an exponent needs a digit beside the
point and one in the exponent; an integer may not be too long. -/
def Decimal.value? (negative : Bool) (d : Decimal) : Option Value :=
  match d.fraction?, d.exponent? with
  | none, none =>
    if maxDigits < d.whole.length then none
    else some (.int (Double.signed negative (digitsValue 10 d.whole)))
  | fraction?, exponent? =>
    let fraction := fraction?.getD []
    let (down, power) := exponent?.getD (false, ['0'])
    if (d.whole ++ fraction).isEmpty || power.isEmpty then none
    else
      let exponent := Double.signed down (digitsValue 10 power) - fraction.length
      some (.float (.ofDecimal negative (digitsValue 10 (d.whole ++ fraction)) exponent))

/-- The hexadecimal integer at the front of a text. -/
def readHexadecimal? (negative : Bool) : List Char → Option (Value × List Char)
  | '0' :: x :: rest =>
    let digits := rest.takeWhile fun c ↦ (hexValue? c).isSome
    if (x == 'x' || x == 'X') && !digits.isEmpty then
      some (.int (Double.signed negative (digitsValue 16 digits)),
        rest.dropWhile fun c ↦ (hexValue? c).isSome)
    else none
  | _ => none

/-- Whether a text goes on with a name. -/
def beginsName (cs : List Char) : Bool := !(readName true cs).1.isEmpty

/-- The number at the front of a text, after its sign. A decimal number may not run into a name. -/
def readUnsigned? (negative : Bool) (cs : List Char) : Option (Value × List Char) :=
  match readDecimal? cs with
  | some (d, rest) =>
    if beginsName rest then readHexadecimal? negative cs
    else (d.value? negative).map fun v ↦ (v, rest)
  | none =>
    match afterWord? "Infinity".toList cs with
    | some rest => some (.float (.infinite negative), rest)
    | none => (afterWord? "NaN".toList cs).map fun rest ↦ (.float .nan, rest)

/-- The number at the front of a text. -/
def readNumber? : List Char → Option (Value × List Char)
  | '-' :: rest => readUnsigned? true rest
  | '+' :: rest => readUnsigned? false rest
  | cs => readUnsigned? false cs

/-! ### Values -/

/-- The words that stand for values. -/
def readWord? (cs : List Char) : Option (Value × List Char) :=
  match afterWord? "null".toList cs with
  | some rest => some (.null, rest)
  | none =>
    match afterWord? "true".toList cs with
    | some rest => some (.bool true, rest)
    | none => (afterWord? "false".toList cs).map fun rest ↦ (.bool false, rest)

mutual
/-- The value at the front of a text. -/
def readValue? : Nat → List Char → Option (Value × List Char)
  | 0, _ => none
  | bound + 1, cs =>
    match cs with
    | '[' :: rest => (readItems? bound (skipBlanks rest)).map fun r ↦ (.list r.1, r.2)
    | '\x7b' :: rest => (readMembers? bound (skipBlanks rest)).map fun r ↦ (.ofMembers r.1, r.2)
    | cs =>
      match readWord? cs with
      | some r => some r
      | none =>
        match readString? cs with
        | some (s, rest) => some (.string s, rest)
        | none => readNumber? cs

/-- The items of a list from here to its end; another item, or the end, stands here. -/
def readItems? : Nat → List Char → Option (List Value × List Char)
  | 0, _ => none
  | _ + 1, ']' :: rest => some ([], rest)
  | bound + 1, cs =>
    match readValue? bound cs with
    | none => none
    | some (v, rest) =>
      match skipBlanks rest with
      | ',' :: rest => (readItems? bound (skipBlanks rest)).map fun r ↦ (v :: r.1, r.2)
      | ']' :: rest => some ([v], rest)
      | _ => none

/-- The members of an object from here to its end; another member, or the end, stands here. -/
def readMembers? : Nat → List Char → Option (List (Text × Value) × List Char)
  | 0, _ => none
  | _ + 1, '\x7d' :: rest => some ([], rest)
  | bound + 1, cs =>
    match readKey? cs with
    | none => none
    | some (key, rest) =>
      match skipBlanks rest with
      | ':' :: rest =>
        match readValue? bound (skipBlanks rest) with
        | none => none
        | some (v, rest) =>
          match skipBlanks rest with
          | ',' :: rest =>
            (readMembers? bound (skipBlanks rest)).map fun r ↦ ((key, v) :: r.1, r.2)
          | '\x7d' :: rest => some ([(key, v)], rest)
          | _ => none
      | _ => none
end

/-- The value that a text is written for, if it is a document. -/
def readDocument? (cs : List Char) : Option Value :=
  match readValue? (2 * cs.length + 2) (skipBlanks cs) with
  | some (v, rest) => if (skipBlanks rest).isEmpty then some v else none
  | none => none

end StructuredIL.Document
