import StructuredIL.Text.Case

/-!
# Vocabularies

A vocabulary is a finite type whose members have names in capitals, with underscores between the
words. A document may spell such a name in more than one way: as it is, in small letters, or as
words run together with a capital at the front of each (`LessThan`, `lessThan`). `key` gives the
name that a spelling stands for, whether a member has that name or not, and `ofSpelling` finds the
member.

A spelling with no small letter, or with an underscore, is taken to be divided already. Every other
spelling is divided before each ASCII capital but the first letter.
-/

namespace StructuredIL

/-- A finite type with named and numbered members. Every member is listed, and no two have one
name, so looking a member's name up finds it. -/
class Vocabulary (α : Type) where
  /-- The members, in order. -/
  members : List α
  /-- The name of a member. -/
  name : α → String
  /-- The number of a member. -/
  code : α → Nat
  /-- A member is the first one of its name. -/
  find_name (a : α) : (members.find? fun b ↦ name b == name a) = some a

/-- No member has the name that a spelling stands for. -/
structure UnknownName where
  /-- The name that was looked for. -/
  key : Text
  deriving DecidableEq, Repr

namespace Vocabulary

open Text

/-- Puts an underscore before each ASCII capital. -/
def divide (t : Text) : Text :=
  t.flatMap fun p ↦ if p.is Char.isUpper then [.char '_', p] else [p]

/-- A spelling with its first letter made capital and an underscore before each later capital. -/
def divided (t : Text) : Text :=
  match t with
  | [] => []
  | p :: rest =>
    match upperPoint p ++ rest with
    | [] => []
    | q :: after => q :: divide after

/-- The name that a spelling stands for. -/
def key (spelling : Text) : Text :=
  if inCapitals spelling || spelling.contains (.char '_') then upper spelling
  else upper (divided spelling)

variable {α : Type} [Vocabulary α]

/-- The member of a name. -/
def ofName? (key : Text) : Option α := members.find? fun a ↦ ofString (name a) == key

theorem ofName?_name (a : α) : ofName? (name a) = some a := by
  have h : ∀ b : α, (ofString (name b) == ofString (name a)) = (name b == name a) := fun b ↦ by
    rw [Bool.eq_iff_iff, beq_iff_eq, beq_iff_eq, ofString_inj]
  simp only [ofName?, h, find_name]

/-- The member that a spelling stands for. -/
def ofSpelling (spelling : Text) : Except UnknownName α :=
  match ofName? (key spelling) with
  | some a => .ok a
  | none => .error ⟨key spelling⟩

end Vocabulary

end StructuredIL
