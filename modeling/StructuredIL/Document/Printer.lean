import StructuredIL.Document.Value
import StructuredIL.Number.Shortest
import StructuredIL.Text.Quoted

/-!
# The text of a value

Two texts belong to a value. `Value.quoted` shows it as a value: texts stand in quotes, the scalars
have words of their own, lists and objects their brackets. `Value.text` shows a text as itself and
everything else as `quoted` does; it is what a label looks like where it is printed. A quoted value
is a string; a text that is shown as itself may hold what no string does.

Both are total. Whether a value may be printed is a separate question: integers of more than 4300
digits have no text, and neither has a value that holds one. `Value.isShowable` answers it for both
texts, since a value that is a text itself can always be shown, and those who print ask first.
-/

namespace StructuredIL

/-- Whether an integer is short enough to be written. -/
def isWritable (n : Int) : Bool := decide (n.natAbs < Nat.pow 10 maxDigits)

namespace Value

/-- Parts with a comma and a space between them. -/
def commaSeparated (parts : List String) : String := ", ".intercalate parts

mutual
/-- A value, shown as a value. -/
def quoted : Value → String
  | .null => "None"
  | .bool b => if b then "True" else "False"
  | .int n => toString n
  | .float x => x.text
  | .string s => Text.quoted s
  | .list items => "[" ++ commaSeparated (quotedItems items) ++ "]"
  | .object members => "\x7b" ++ commaSeparated (quotedMembers members) ++ "\x7d"

/-- The items of a list, each shown as a value. -/
def quotedItems : List Value → List String
  | [] => []
  | v :: rest => v.quoted :: quotedItems rest

/-- The members of an object, each shown with its name. -/
def quotedMembers : List (Text × Value) → List String
  | [] => []
  | (k, v) :: rest => (Text.quoted k ++ ": " ++ v.quoted) :: quotedMembers rest
end

/-- A value as a label shows it. -/
def text : Value → Text
  | .string s => s
  | v => v.quoted

mutual
/-- Whether a value can be shown as a value: no integer in it is too long. -/
def isShowable : Value → Bool
  | .int n => isWritable n
  | .list items => areShowable items
  | .object members => areMembersShowable members
  | _ => true

/-- Whether all items of a list can be shown. -/
def areShowable : List Value → Bool
  | [] => true
  | v :: rest => v.isShowable && areShowable rest

/-- Whether all members of an object can be shown. -/
def areMembersShowable : List (Text × Value) → Bool
  | [] => true
  | (_, v) :: rest => v.isShowable && areMembersShowable rest
end

@[simp] theorem isShowable_string (s : Text) : isShowable (.string s) = true := by
  simp [isShowable]

@[simp] theorem text_string (s : Text) : text (.string s) = s := rfl

end Value

end StructuredIL
