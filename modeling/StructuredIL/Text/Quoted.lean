import StructuredIL.Text.Basic
import StructuredIL.Text.Printable

/-!
# Quoted text

How a text is shown between quotes, as messages and dumps show it. Single quotes are used unless
the text itself holds one and holds no double quote. Inside, the quote in use and the backslash
are escaped, the three common controls have letters, and every other code point that is not a
printable character is written by its number in small hexadecimal digits, in the shortest of the
three widths that holds it.

Quoting leaves nothing in a text that is no character, so every text has a quoted form that is a
string. `escaped` does only that much: it is how a text is shown where it must be shown as it is.
-/

namespace StructuredIL.Text

/-- The hexadecimal digits of a number, filled up with zeros on the left to a least width. -/
def hexDigits (width n : Nat) : List Char :=
  let digits := Nat.toDigits 16 n
  List.replicate (width - digits.length) '0' ++ digits

/-- The quote that stands at both ends of a text: the single one, unless the text holds a single
quote and no double one. -/
def quoteFor (t : Text) : Char :=
  if t.contains (.char '\'') && !t.contains (.char '"') then '"' else '\''

/-- One character of a text that stands between the given quotes. -/
def escapeChar (quote c : Char) : List Char :=
  if c == quote || c == '\\' then ['\\', c]
  else if c == '\n' then ['\\', 'n']
  else if c == '\r' then ['\\', 'r']
  else if c == '\t' then ['\\', 't']
  else if isPrintable c then [c]
  else if c.toNat < 0x100 then '\\' :: 'x' :: hexDigits 2 c.toNat
  else if c.toNat < 0x10000 then '\\' :: 'u' :: hexDigits 4 c.toNat
  else '\\' :: 'U' :: hexDigits 8 c.toNat

/-- Half of a surrogate pair as an escape. -/
def escapeHalf (distance : Fin 0x800) : List Char :=
  '\\' :: 'u' :: hexDigits 4 (CodePoint.half distance).toNat

/-- One code point of a text that stands between the given quotes. -/
def escapePoint (quote : Char) : CodePoint → List Char
  | .char c => escapeChar quote c
  | .half d => escapeHalf d

/-- A text between quotes. -/
def quoted (t : Text) : String :=
  let quote := quoteFor t
  String.ofList (quote :: t.flatMap (escapePoint quote) ++ [quote])

/-- A text as it is, but for what is no character, which is shown as an escape. -/
def escaped (t : Text) : String :=
  String.ofList (t.flatMap fun
    | .char c => [c]
    | .half d => escapeHalf d)

end StructuredIL.Text
