import StructuredIL.Proofs.Lowering.Layout

/-!
# The brackets of a generated text

A text is nested (`Text.IsNested`) if every closing bracket in it is of the sort of the innermost
open one and none stays open at its end. It is read from the front for this, with the brackets that
are open, so what a part of a text does is asked for whatever is open in front of it: a part that is
nested by itself leaves that as it is (`Text.KeepsBrackets`), and such parts may be put one after
the other and into brackets.

What best effort writes is laid out from words, names, brackets and diagnostics, and only the names
come from a document. So if no name has a bracket the whole text is nested, whatever in it is
a diagnostic (`C.isNested_generate`). A diagnostic has brackets of its own if it shows the notation
of a leave's value.
-/

namespace StructuredIL

namespace Text

/-! ### Nested texts -/

/-- The sorts of brackets. -/
inductive Bracket where
  /-- Round ones. -/
  | paren
  /-- Curly ones. -/
  | brace
  deriving DecidableEq, Repr

/-- The characters that are brackets. -/
def bracketChars : List Char := ['(', ')', '\x7b', '\x7d']

/-- What is open without its innermost bracket, if that is of this sort. -/
def close? (b : Bracket) : List Bracket → Option (List Bracket)
  | [] => none
  | c :: outer => if c = b then some outer else none

/-- What is open behind a code point, innermost first; a closing bracket without its opening one is
not allowed. -/
def openBehind? (pending : List Bracket) : CodePoint → Option (List Bracket)
  | .char '(' => some (.paren :: pending)
  | .char '\x7b' => some (.brace :: pending)
  | .char ')' => close? .paren pending
  | .char '\x7d' => close? .brace pending
  | _ => some pending

/-- A text in which every closing bracket matches the innermost open one and none stays open. -/
def IsNested (t : Text) : Prop := t.foldlM openBehind? [] = some []

instance (t : Text) : Decidable (IsNested t) := inferInstanceAs (Decidable (_ = _))

/-- Brackets of two sorts may not cross. -/
example : ¬ IsNested "( \x7b ) \x7d" := by decide

/-! ### Parts of a text -/

/-- A text behind which the same brackets are open as in front of it. -/
def KeepsBrackets (t : Text) : Prop := ∀ pending, t.foldlM openBehind? pending = some pending

variable {t u : Text}

theorem KeepsBrackets.isNested (h : KeepsBrackets t) : IsNested t := h []

theorem KeepsBrackets.append (ht : KeepsBrackets t) (hu : KeepsBrackets u) :
    KeepsBrackets (t ++ u) := by
  intro pending
  rw [List.foldlM_append, ht pending]
  exact hu pending

theorem KeepsBrackets.parens (h : KeepsBrackets t) : KeepsBrackets ("(" ++ t ++ ")") := by
  intro pending
  rw [List.foldlM_append, List.foldlM_append]
  show ((t.foldlM openBehind? (.paren :: pending)).bind fun q ↦ close? .paren q >>= pure) = _
  rw [h, Option.bind_some]
  rfl

theorem KeepsBrackets.braces (h : KeepsBrackets t) : KeepsBrackets ("\x7b" ++ t ++ "\x7d") := by
  intro pending
  rw [List.foldlM_append, List.foldlM_append]
  show ((t.foldlM openBehind? (.brace :: pending)).bind fun q ↦ close? .brace q >>= pure) = _
  rw [h, Option.bind_some]
  rfl

/-- A code point that is no bracket leaves open what is open. -/
theorem openBehind?_of_ne {p : CodePoint} (h : ∀ c ∈ bracketChars, p ≠ .char c)
    (pending : List Bracket) : openBehind? pending p = some pending := by
  rw [openBehind?.eq_def]
  split
  case h_5 => rfl
  all_goals exact absurd rfl (h _ (by decide))

theorem keepsBrackets_of_avoids (h : t.Avoids bracketChars) : KeepsBrackets t := by
  intro pending
  induction t with
  | nil => rfl
  | cons p rest ih =>
    have hp : ∀ c ∈ bracketChars, p ≠ .char c := by
      rintro c hc rfl
      exact h c hc (List.mem_cons_self ..)
    have hrest : Avoids bracketChars rest := fun c hc hmem ↦ h c hc (List.mem_cons_of_mem p hmem)
    rw [List.foldlM_cons, openBehind?_of_ne hp]
    exact ih hrest

end Text

namespace C

open Text

/-! ### Generated texts -/

/-- **A layout without brackets in its names** leaves open what is open. -/
theorem Laid.keepsBrackets {t : Text} {ds : List Text} (h : Laid bracketChars t ds) :
    KeepsBrackets t := by
  induction h with
  | word h => exact keepsBrackets_of_avoids fun c hc ↦ h c (List.mem_cons_of_mem _ hc)
  | name h => exact keepsBrackets_of_avoids h
  | append _ _ iht ihu => exact iht.append ihu
  | parens _ ih => exact ih.parens
  | braces _ ih => exact ih.braces
  | diagnostic _ ih =>
    have hmarker : KeepsBrackets (Text.ofString Unsupported.marker) :=
      keepsBrackets_of_avoids (by decide)
    exact hmarker.append ih

/-- **Diagnostics do not break the brackets.** If no name in a function has a bracket, best effort
gives a text for it, and that is nested, whatever of the function is not supported. -/
theorem isNested_generate {f : Function} (hordinary : f.IsOrdinary)
    (hnames : f.NamesAvoid bracketChars) :
    ∃ text, (generate .bestEffort f).outcome = .ok text ∧ text.IsNested := by
  obtain ⟨text, ds, hwarns, hlaid⟩ := isLaidOut_generate hordinary (List.subset_cons_self ..) hnames
  exact ⟨text, hwarns.outcome, hlaid.keepsBrackets.isNested⟩

/-- A function with diagnostics in a declaration, in a condition, in an arm, in the place of a block
and in that of a leave, which shows the brackets of its value. -/
def brokenEverywhere : Function :=
  let x : Variable := ⟨"x", .r4, some 0⟩
  let outer : ContainerHead := ⟨0, .switch, .string "outer"⟩
  let loop : ContainerHead := ⟨1, .loop, .string "loop"⟩
  let body : BlockHead := ⟨2, .controlFlow, .string "body"⟩
  let initializer : BlockHead := ⟨3, .arrayInitializer, .string "initializer"⟩
  ⟨"Main", [x], .container loop [
    ⟨body, [.cond (.binary .mul (.load x) (.constant 2)) (.call [] (.string "read"))
      (.leave outer (.store x (.compare .inequality (.load x) (.bare .call))))]⟩,
    ⟨initializer, [.branch body]⟩]⟩

theorem isNested_of_brokenEverywhere : ∃ text,
    (generate .bestEffort brokenEverywhere).outcome = .ok text ∧ text.IsNested := by
  have hordinary : brokenEverywhere.IsOrdinary := by
    simp [Function.IsOrdinary, brokenEverywhere, Node.nodes, Node.nodesOfBlock, Node.nodesOfBlocks,
      Node.nodesOfAll, Node.IsOrdinary, Build.minInt32, Build.maxInt32]
  have hnames : brokenEverywhere.NamesAvoid bracketChars := by
    refine ⟨by decide, by decide, ?_⟩
    have hname : ∀ s ∈ ["x", "outer", "loop", "body", "initializer", "read"],
        Avoids bracketChars (ofString s) := by decide
    simp [brokenEverywhere, Node.nodes, Node.nodesOfBlock, Node.nodesOfBlocks, Node.nodesOfAll,
      Node.NamesAvoid, Value.text, hname]
  exact isNested_generate hordinary hnames

end C

end StructuredIL
