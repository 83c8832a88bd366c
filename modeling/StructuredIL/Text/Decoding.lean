/-!
# Reading bytes as text

Files are UTF-8. Reading is strict: the first byte that no text can have at its place ends it, with
a fault that says which bytes are to blame and why. The reader goes byte by byte and carries what
the characters begun so far still owe, so its recursion is on the bytes themselves and the place of
a fault is a count, never a search.

Lines may end in any of the three common ways; `universalNewlines` leaves one of them.
-/

namespace StructuredIL.Text

/-! ### Faults -/

/-- Why a byte cannot stand where it stands. -/
inductive DecodeReason where
  /-- No character begins with the byte. -/
  | invalidStart
  /-- The character begun before the byte cannot go on with it. -/
  | invalidContinuation
  /-- The bytes end within a character. -/
  | unexpectedEnd
  deriving DecidableEq, Repr

/-- The words for a reason. -/
def DecodeReason.text : DecodeReason → String
  | .invalidStart => "invalid start byte"
  | .invalidContinuation => "invalid continuation byte"
  | .unexpectedEnd => "unexpected end of data"

/-- The bytes to blame: `length` of them from position `start`, of which `byte` is the first. -/
structure DecodeFault where
  /-- The position of the first byte to blame. -/
  start : Nat
  /-- How many bytes are to blame. -/
  length : Nat
  /-- The first byte to blame. -/
  byte : UInt8
  /-- What is wrong with them. -/
  reason : DecodeReason
  deriving DecidableEq, Repr

/-- A byte in two hexadecimal digits. -/
def byteDigits (b : UInt8) : String :=
  String.ofList [Nat.digitChar (b.toNat / 16), Nat.digitChar (b.toNat % 16)]

/-- What a reader is told. A single byte is shown, several are only placed. -/
def DecodeFault.message (f : DecodeFault) : String :=
  if f.length == 1 then
    s!"'utf-8' codec can't decode byte 0x{byteDigits f.byte} in position {f.start}: "
      ++ f.reason.text
  else
    s!"'utf-8' codec can't decode bytes in position {f.start}-{f.start + f.length - 1}: "
      ++ f.reason.text

/-! ### Decoding -/

/-- What a first byte promises of the bytes that follow it. -/
structure Promise where
  /-- The bits of the code point that the byte itself gives. -/
  bits : Nat
  /-- How many bytes follow. -/
  owed : Nat
  /-- The least value of the next byte. -/
  low : Nat
  /-- The greatest value of the next byte. -/
  high : Nat

/-- The promise of a first byte. The bounds on the second byte keep out overlong forms, the
surrogates and everything beyond the last code point. -/
def Promise.ofByte? (b : UInt8) : Option Promise :=
  let n := b.toNat
  if n < 0x80 then some ⟨n, 0, 0x80, 0xBF⟩
  else if n < 0xC2 then none
  else if n < 0xE0 then some ⟨n - 0xC0, 1, 0x80, 0xBF⟩
  else if n < 0xF0 then
    some ⟨n - 0xE0, 2, if n = 0xE0 then 0xA0 else 0x80, if n = 0xED then 0x9F else 0xBF⟩
  else if n < 0xF5 then
    some ⟨n - 0xF0, 3, if n = 0xF0 then 0x90 else 0x80, if n = 0xF4 then 0x8F else 0xBF⟩
  else none

/-- A character that has begun and is not complete. -/
structure Unfinished where
  /-- The position of its first byte. -/
  start : Nat
  /-- Its first byte. -/
  lead : UInt8
  /-- The bits read so far, and what is still owed. -/
  promise : Promise

/-- The text of the bytes from a position on, where the character before may be unfinished. -/
def decodeFrom (position : Nat) (unfinished : Option Unfinished) :
    List UInt8 → Except DecodeFault (List Char)
  | [] =>
    match unfinished with
    | none => .ok []
    | some u => .error ⟨u.start, position - u.start, u.lead, .unexpectedEnd⟩
  | b :: rest =>
    match unfinished with
    | none =>
      match Promise.ofByte? b with
      | none => .error ⟨position, 1, b, .invalidStart⟩
      | some p =>
        if p.owed = 0 then (Char.ofNat p.bits :: ·) <$> decodeFrom (position + 1) none rest
        else decodeFrom (position + 1) (some ⟨position, b, p⟩) rest
    | some u =>
      if u.promise.low ≤ b.toNat ∧ b.toNat ≤ u.promise.high then
        let bits := u.promise.bits * 0x40 + (b.toNat - 0x80)
        if u.promise.owed = 1 then (Char.ofNat bits :: ·) <$> decodeFrom (position + 1) none rest
        else
          let promise := ⟨bits, u.promise.owed - 1, 0x80, 0xBF⟩
          decodeFrom (position + 1) (some { u with promise }) rest
      else .error ⟨u.start, position - u.start, u.lead, .invalidContinuation⟩

/-- The text of a file's bytes. -/
def decode (bytes : ByteArray) : Except DecodeFault (List Char) :=
  decodeFrom 0 none bytes.toList

/-! ### Line ends -/

/-- Every line end in one form. -/
def universalNewlines : List Char → List Char
  | '\r' :: '\n' :: rest => '\n' :: universalNewlines rest
  | '\r' :: rest => '\n' :: universalNewlines rest
  | c :: rest => c :: universalNewlines rest
  | [] => []

theorem not_mem_universalNewlines (cs : List Char) : '\r' ∉ universalNewlines cs := by
  fun_induction universalNewlines cs with
  | case1 rest ih => simpa using ih
  | case2 rest _ ih => simpa using ih
  | case3 c rest _ hc ih =>
    have h : c ≠ '\r' := fun he ↦ hc he
    simpa [Ne.symm h] using ih
  | case4 => simp

end StructuredIL.Text
