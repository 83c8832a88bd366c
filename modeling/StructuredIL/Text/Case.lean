import StructuredIL.Text.Basic
import StructuredIL.Text.Case.Tables

/-!
# Letter case

Capitals and small letters of whole texts. A text changes case letter by letter with two
exceptions, both from the standard: some letters have a word as their counterpart (`ß` becomes
`SS`), and the capital sigma has two small forms, one of which stands at the end of a word only.
So `upper` is a map over the letters, while `lower` carries what lies before the letter as well.
What is no character has no case.

ASCII letters are decided without the tables (`upperOf_ascii`, `lowerOf_ascii`), which is all that
names made of ASCII letters ever need.
-/

namespace StructuredIL.Text

/-! ### Classes -/

/-- A capital letter. -/
def isCapital (c : Char) : Bool :=
  if isAscii c then c.isUpper else inRuns capitalRuns c

/-- A small letter, or one that is capital in its first part only. -/
def isSmall (c : Char) : Bool :=
  if isAscii c then c.isLower else inRuns smallRuns c

/-- A letter that has case at all. -/
def isCased (c : Char) : Bool := isCapital c || isSmall c

/-- A character that does not part a letter from its neighbours: a mark, an apostrophe, a stop
within a word. -/
def isCaseIgnorable (c : Char) : Bool :=
  if isAscii c then c == '\'' || c == '.' || c == ':' || c == '^' || c == '\x60'
  else inRuns caseIgnorableRuns c

/-- A text is in capitals when it has a capital letter and no small one. -/
def inCapitals (t : Text) : Bool :=
  t.any (CodePoint.is isCapital) && !t.any (CodePoint.is isSmall)

/-! ### Counterparts of single letters -/

/-- The counterpart of a letter under a list of shifts, or the letter itself. -/
def shifted (shifts : List CaseShift) (c : Char) : Char :=
  match shifts.find? fun s ↦ s.run.contains c.toNat with
  | some s => Char.ofNat (s.apply c.toNat)
  | none => c

/-- The capital counterpart of a letter, which may be a word. -/
def upperOf (c : Char) : List Char :=
  if isAscii c then [c.toUpper]
  else match upperWords.find? fun w ↦ w.1 == c with
    | some w => w.2
    | none => [shifted upperShifts c]

/-- Whether a text, read away from a place in it, begins with a letter that has case, once the
characters that do not count are passed over. -/
def beginsCased (t : Text) : Bool :=
  match t.dropWhile (CodePoint.is isCaseIgnorable) with
  | [] => false
  | p :: _ => p.is isCased

/-- The small counterpart of a letter between `before` (read backwards) and `after`. A capital
sigma takes its final form where a letter stands before it and none after. -/
def lowerOf (before : Text) (c : Char) (after : Text) : List Char :=
  if isAscii c then [c.toLower]
  else if c == '\u03a3' then
    [if beginsCased before && !beginsCased after then '\u03c2' else '\u03c3']
  else if c == '\u0130' then ['i', '\u0307']
  else [shifted lowerShifts c]

/-! ### Whole texts -/

/-- The capital counterpart of a code point. -/
def upperPoint : CodePoint → Text
  | .char c => ofChars (upperOf c)
  | .half d => [.half d]

/-- A text in capitals. -/
def upper (t : Text) : Text := t.flatMap upperPoint

/-- The small counterparts of the letters that follow `before`, which is read backwards. -/
def lowerAfter (before : Text) : Text → Text
  | [] => []
  | .char c :: rest => ofChars (lowerOf before c rest) ++ lowerAfter (.char c :: before) rest
  | .half d :: rest => .half d :: lowerAfter (.half d :: before) rest

/-- A text in small letters. -/
def lower (t : Text) : Text := lowerAfter [] t

/-! ### ASCII -/

theorem isCapital_ascii {c : Char} (h : isAscii c = true) : isCapital c = c.isUpper := by
  simp [isCapital, h]

theorem isSmall_ascii {c : Char} (h : isAscii c = true) : isSmall c = c.isLower := by
  simp [isSmall, h]

theorem upperOf_ascii {c : Char} (h : isAscii c = true) : upperOf c = [c.toUpper] := by
  simp [upperOf, h]

theorem lowerOf_ascii {before after : Text} {c : Char} (h : isAscii c = true) :
    lowerOf before c after = [c.toLower] := by
  simp [lowerOf, h]

theorem upper_ofChars {cs : List Char} (h : ∀ c ∈ cs, isAscii c = true) :
    upper (ofChars cs) = ofChars (cs.map Char.toUpper) := by
  induction cs with
  | nil => rfl
  | cons c cs ih =>
    have hc : upperPoint (.char c) = [.char c.toUpper] := by
      rw [upperPoint, upperOf_ascii (h c (List.mem_cons_self ..))]
      rfl
    show upperPoint (.char c) ++ upper (ofChars cs) = _
    rw [hc, ih fun d hd ↦ h d (List.mem_cons_of_mem c hd)]
    rfl

theorem lower_ofChars {cs : List Char} (h : ∀ c ∈ cs, isAscii c = true) :
    lower (ofChars cs) = ofChars (cs.map Char.toLower) := by
  -- what stands before a letter is asked for a sigma only
  have hafter (before : Text) : lowerAfter before (ofChars cs) = ofChars (cs.map Char.toLower) := by
    induction cs generalizing before with
    | nil => rfl
    | cons c cs ih =>
      show ofChars (lowerOf before c (ofChars cs)) ++ lowerAfter (.char c :: before) (ofChars cs) = _
      rw [lowerOf_ascii (h c (List.mem_cons_self ..)),
        ih fun d hd ↦ h d (List.mem_cons_of_mem c hd)]
      rfl
  exact hafter []

end StructuredIL.Text
