import StructuredIL.C.Code
import StructuredIL.Proofs.Tree.Path

/-!
# Where jumps go in the text

The text of a file is read from the front, so a point in it is given by what is left of the text
from there on. A `Site` is a statement of the file together with what is left behind it and, if
there is a loop around it, the two points that the jumps of C speak of: where the next round of the
innermost loop begins, and where that loop is over. `Site.parts` goes to the statements inside, and
`Site.landing` is the point at which C goes on after a jump.

That these points are points of the text is `SourceFile.here_suffix_text`: what is left at
a statement inside another is what remains of what is left at the other.
-/

namespace StructuredIL

theorem Text.joined_cons (between t : Text) (rest : List Text) :
    Text.joined between (t :: rest) = t ++ rest.flatMap (between ++ ·) := by
  induction rest generalizing t with
  | nil => simp [joined]
  | cons u rest ih =>
    rw [joined, List.intercalate_cons_cons, ← joined, ih, List.flatMap_cons]
    simp

namespace C

/-! ### Texts on lines -/

namespace Stmt

theorem texts_eq_map (parts : List Stmt) : texts parts = parts.map text := by
  induction parts with
  | nil => rfl
  | cons s rest ih => rw [texts, ih, List.map_cons]

/-- What is left behind a statement, if these statements follow on lines of their own and then this
text. -/
def following (rest : List Stmt) (after : Text) : Text :=
  rest.flatMap (fun s ↦ Text.ofString "\n" ++ s.text) ++ after

theorem onLines_texts_cons (s : Stmt) (rest : List Stmt) (after : Text) :
    onLines (texts (s :: rest)) ++ after = s.text ++ following rest after := by
  rw [onLines, texts, Text.joined_cons, texts_eq_map, List.flatMap_map, following,
    List.append_assoc]

theorem length_following_eq_iff {rest : List Stmt} {after : Text} :
    (following rest after).length = after.length ↔ rest = [] := by
  cases rest with
  | nil => simp [following]
  | cons s rest =>
    have hline : (Text.ofString "\n").length = 1 := rfl
    simp only [following, List.flatMap_cons, List.length_append, hline]
    simp

/-- The lines from a statement on are what remains of all the lines; if it is not the first of them,
something comes before it. -/
theorem exists_front_of_line {parts : List Stmt} {i : Nat} {s : Stmt} (h : parts[i]? = some s)
    (after : Text) :
    ∃ front, front ++ (s.text ++ following (parts.drop (i + 1)) after) =
      onLines (texts parts) ++ after ∧ (front = [] ↔ i = 0) := by
  obtain ⟨hi, rfl⟩ := List.getElem?_eq_some_iff.1 h
  cases parts with
  | nil => cases h
  | cons t rest =>
    rw [onLines_texts_cons]
    cases i with
    | zero => exact ⟨[], rfl, by simp⟩
    | succ i =>
      -- the lines in front are the first one, those up to the one before, and a line end
      have hi : i < rest.length := Nat.lt_of_succ_lt_succ hi
      let f : Stmt → Text := fun s ↦ Text.ofString "\n" ++ s.text
      have hrest : rest.flatMap f =
          (rest.take i).flatMap f ++ (f rest[i] ++ (rest.drop (i + 1)).flatMap f) := by
        rw [← List.flatMap_cons, List.getElem_cons_drop, ← List.flatMap_append,
          List.take_append_drop]
      refine ⟨t.text ++ (rest.take i).flatMap f ++ Text.ofString "\n", ?_, ?_⟩
      · rw [following, following]
        show _ = t.text ++ (rest.flatMap f ++ after)
        rw [hrest]
        simp [f]
      · have hline : Text.ofString "\n" ≠ [] := nofun
        simp [hline]

theorem line_suffix {parts : List Stmt} {i : Nat} {s : Stmt} (h : parts[i]? = some s)
    (after : Text) :
    s.text ++ following (parts.drop (i + 1)) after <:+ onLines (texts parts) ++ after := by
  obtain ⟨front, hfront, -⟩ := exists_front_of_line h after
  exact ⟨front, hfront⟩

/-- Some statements on lines of their own, each with what is left behind it. -/
def spread (parts : List Stmt) (after : Text) : List (Stmt × Text) :=
  parts.mapIdx fun i s ↦ (s, following (parts.drop (i + 1)) after)

theorem spread_getElem?_eq_some {parts : List Stmt} {i : Nat} {after : Text} {x : Stmt × Text} :
    (spread parts after)[i]? = some x ↔
      ∃ s, parts[i]? = some s ∧ (s, following (parts.drop (i + 1)) after) = x := by
  rw [spread, List.getElem?_mapIdx, Option.map_eq_some_iff]

theorem map_fst_spread (parts : List Stmt) (after : Text) :
    (spread parts after).map Prod.fst = parts := by
  refine List.ext_getElem? fun i ↦ ?_
  rw [spread, List.getElem?_map, List.getElem?_mapIdx, Option.map_map]
  exact congrFun Option.map_id _

/-- The statements inside a statement, each with what is left behind it. -/
def inside (after : Text) : Stmt → List (Stmt × Text)
  | ifThen _ yes => [(yes, " \x7d" ++ after)]
  | ifElse _ yes no =>
    [(yes, " \x7d else \x7b " ++ no.text ++ " \x7d" ++ after), (no, " \x7d" ++ after)]
  | scope parts => spread parts (" \x7d" ++ after)
  | loop parts => spread parts (" \x7d" ++ after)
  | sequence parts => spread parts after
  | _ => []

variable {s t : Stmt} {after rest : Text} {i : Nat}

/-- What is left at a statement inside another is what remains of what is left at the other. -/
theorem suffix_of_inside (h : (s.inside after)[i]? = some (t, rest)) :
    t.text ++ rest <:+ s.text ++ after := by
  cases s with
  | scope parts =>
    obtain ⟨_, ht, ⟨⟩⟩ := spread_getElem?_eq_some.1 h
    refine (line_suffix ht _).trans ⟨"\x7b ", ?_⟩
    simp [text]
  | loop parts =>
    obtain ⟨_, ht, ⟨⟩⟩ := spread_getElem?_eq_some.1 h
    refine (line_suffix ht _).trans ⟨"while (1) \x7b ", ?_⟩
    simp [text]
  | sequence parts =>
    obtain ⟨_, ht, ⟨⟩⟩ := spread_getElem?_eq_some.1 h
    have hne : parts.isEmpty = false := by
      cases parts with
      | nil => cases ht
      | cons t rest => rfl
    simpa [text, hne] using line_suffix ht after
  | ifThen c yes =>
    obtain ⟨rfl, ⟨⟩⟩ : i = 0 ∧ (yes, _) = (t, rest) := by
      simpa [inside, List.getElem?_singleton] using h
    refine ⟨"if (" ++ c.text ++ ") \x7b ", ?_⟩
    simp [text]
  | ifElse c yes no =>
    match i, h with
    | 0, h =>
      cases h
      refine ⟨"if (" ++ c.text ++ ") \x7b ", ?_⟩
      simp [text]
    | 1, h =>
      cases h
      refine ⟨"if (" ++ c.text ++ ") \x7b " ++ yes.text ++ " \x7d else \x7b ", ?_⟩
      simp [text]
  | _ => cases h

/-- What is left behind a statement is what remains of what is left behind a part of it. Nothing
of the statement comes behind the part only if the part is the last of a sequence. -/
theorem after_suffix_of_inside (h : (s.inside after)[i]? = some (t, rest)) :
    after <:+ rest ∧ (rest.length = after.length ↔
      ∃ parts, s = sequence parts ∧ i + 1 = parts.length) := by
  -- wherever a brace is closed behind the part, there is more left
  have hclosed (hne : ∀ parts, s ≠ sequence parts)
      (hsuffix : Text.ofString " \x7d" ++ after <:+ rest) :
      after <:+ rest ∧ (rest.length = after.length ↔
        ∃ parts, s = sequence parts ∧ i + 1 = parts.length) := by
    have hlength := hsuffix.length_le
    rw [List.length_append, show (Text.ofString " \x7d").length = 2 from rfl] at hlength
    refine ⟨(List.suffix_append _ _).trans hsuffix, fun h ↦ absurd h (by omega), ?_⟩
    rintro ⟨parts, hparts, -⟩
    exact absurd hparts (hne parts)
  cases s with
  | scope parts =>
    obtain ⟨_, -, ⟨⟩⟩ := spread_getElem?_eq_some.1 h
    exact hclosed nofun (List.suffix_append _ _)
  | loop parts =>
    obtain ⟨_, -, ⟨⟩⟩ := spread_getElem?_eq_some.1 h
    exact hclosed nofun (List.suffix_append _ _)
  | sequence parts =>
    obtain ⟨_, ht, ⟨⟩⟩ := spread_getElem?_eq_some.1 h
    obtain ⟨hi, -⟩ := List.getElem?_eq_some_iff.1 ht
    refine ⟨List.suffix_append _ _, length_following_eq_iff.trans ?_⟩
    rw [List.drop_eq_nil_iff]
    constructor
    · intro hle
      exact ⟨parts, rfl, Nat.le_antisymm hi hle⟩
    · rintro ⟨_, ⟨⟩, hlast⟩
      exact Nat.le_of_eq hlast.symm
  | ifThen c yes =>
    obtain ⟨rfl, ⟨⟩⟩ : i = 0 ∧ (yes, _) = (t, rest) := by
      simpa [inside, List.getElem?_singleton] using h
    exact hclosed nofun List.suffix_rfl
  | ifElse c yes no =>
    match i, h with
    | 0, h =>
      cases h
      exact hclosed nofun ⟨" \x7d else \x7b " ++ no.text, by simp⟩
    | 1, h =>
      cases h
      exact hclosed nofun List.suffix_rfl
  | _ => cases h

end Stmt

/-! ### Places -/

/-- What is left of a file where its function ends. -/
def SourceFile.closing : Text := "\n\x7d"

/-- A statement of a file, and what jumps have to know of what is around it. -/
structure Site where
  /-- The statement. -/
  stmt : Stmt
  /-- What is left of the file behind it. -/
  after : Text
  /-- What is left where a round of the innermost loop begins, if there is one. -/
  round : Option Text
  /-- What is left where the innermost loop is over, if there is one. -/
  exit : Option Text

namespace Site

/-- What is left of the file where the statement begins. -/
def here (p : Site) : Text := p.stmt.text ++ p.after

/-- The innermost loop for what is inside the statement: its round and its end. -/
def loopInside (p : Site) : Option Text × Option Text :=
  match p.stmt with
  | .loop parts =>
    (some (Stmt.onLines (Stmt.texts parts) ++ (Text.ofString " \x7d" ++ p.after)), some p.after)
  | _ => (p.round, p.exit)

/-- The statements inside a statement. -/
def parts (p : Site) : List Site :=
  (p.stmt.inside p.after).map fun x ↦ ⟨x.1, x.2, p.loopInside.1, p.loopInside.2⟩

/-- The place that a path leads to. -/
abbrev at? (path : List Nat) (p : Site) : Option Site := follow parts path p

/-- **The point at which C goes on after a jump**: `continue` goes to the next round of the
innermost loop, `break` to the end of it, `return` to the end of the function. -/
def landing (p : Site) : Option Text :=
  match p.stmt with
  | .nextRound => p.round
  | .exitLoop => p.exit
  | .exitFunction => some SourceFile.closing
  | _ => none

variable {p p' : Site} {i : Nat}

theorem parts_getElem? (h : p.parts[i]? = some p') :
    (p.stmt.inside p.after)[i]? = some (p'.stmt, p'.after) ∧
      p'.round = p.loopInside.1 ∧ p'.exit = p.loopInside.2 := by
  rw [parts, List.getElem?_map, Option.map_eq_some_iff] at h
  obtain ⟨x, hx, rfl⟩ := h
  exact ⟨hx, rfl, rfl⟩

theorem here_suffix_of_parts (h : p.parts[i]? = some p') : p'.here <:+ p.here :=
  Stmt.suffix_of_inside (parts_getElem? h).1

theorem here_suffix_of_at? {path : List Nat} (h : p.at? path = some p') : p'.here <:+ p.here :=
  follow_invariant (P := fun q ↦ q.here <:+ p.here)
    (fun hq hpart ↦ (here_suffix_of_parts hpart).trans hq) List.suffix_rfl h

theorem after_suffix_of_at? {path : List Nat} (h : p.at? path = some p') : p.after <:+ p'.after :=
  follow_invariant (P := fun q ↦ p.after <:+ q.after)
    (fun hq hpart ↦ hq.trans (Stmt.after_suffix_of_inside (parts_getElem? hpart).1).1)
    List.suffix_rfl h

/-- The rounds of the innermost loop begin in front of what is in the loop. -/
def IsBehindRound (p : Site) : Prop := ∀ t ∈ p.round, p.here <:+ t

theorem IsBehindRound.of_parts (hp : p.IsBehindRound) (h : p.parts[i]? = some p') :
    p'.IsBehindRound := by
  obtain ⟨hinside, hround, -⟩ := parts_getElem? h
  intro t ht
  rw [hround] at ht
  obtain ⟨stmt, after, round, exit⟩ := p
  cases stmt with
  | loop parts =>
    -- the round is new here, and begins with the first line of the loop
    obtain ⟨s, hs, heq⟩ := Stmt.spread_getElem?_eq_some.1 hinside
    cases ht
    obtain ⟨rfl, hafter⟩ := Prod.mk.inj heq
    rw [here, ← hafter]
    exact Stmt.line_suffix hs _
  | _ => exact (here_suffix_of_parts h).trans (hp t ht)

end Site

/-! ### Files -/

namespace SourceFile

/-- The text in front of the name of the function. -/
def prologue : Text :=
  Text.ofString "#include <stdint.h>\n" ++ Text.ofString "#include <stdbool.h>\n" ++
    Text.ofString "#include <stdio.h>\n" ++ Text.ofString "\nvoid "

/-- The parts of a file in the order of its text. -/
theorem text_eq (file : SourceFile) : file.text =
    prologue ++ file.name ++ Text.ofString "() \x7b" ++
      file.declarations.flatMap (fun d ↦ Text.ofString "\n" ++ d.text) ++
      (Text.ofString "\n" ++ file.body.text ++ Text.ofString "\n\x7d") := by
  have hfront : prologue =
      Text.ofString "#include <stdint.h>" ++ (Text.ofString "\n" ++
        Text.ofString "#include <stdbool.h>") ++ (Text.ofString "\n" ++
        Text.ofString "#include <stdio.h>") ++ (Text.ofString "\n" ++ Text.ofString "") ++
        (Text.ofString "\n" ++ Text.ofString "void ") := rfl
  have hclosing : Text.ofString "\n\x7d" = Text.ofString "\n" ++ Text.ofString "\x7d" := rfl
  have hlines : file.lines = Text.ofString "#include <stdint.h>" ::
      Text.ofString "#include <stdbool.h>" :: Text.ofString "#include <stdio.h>" ::
      Text.ofString "" :: (Text.ofString "void " ++ file.name ++ Text.ofString "() \x7b") ::
      (file.declarations.map Declaration.text ++ [file.body.text, Text.ofString "\x7d"]) := rfl
  rw [text, hlines, Text.joined_cons, hfront, hclosing]
  simp only [List.flatMap_cons, List.flatMap_append, List.flatMap_map, List.flatMap_nil,
    List.append_assoc, List.append_nil]

end SourceFile

/-- The body of a file, in its place. -/
def SourceFile.top (file : SourceFile) : Site := ⟨file.body, closing, none, none⟩

/-- The places of a file are in its text. -/
theorem SourceFile.here_suffix_text {file : SourceFile} {path : List Nat} {p : Site}
    (h : file.top.at? path = some p) : p.here <:+ file.text := by
  refine (Site.here_suffix_of_at? h).trans ?_
  obtain ⟨first, rest, hfront⟩ : ∃ first rest,
      file.opening ++ file.declarations.map Declaration.text = first :: rest := ⟨_, _, rfl⟩
  have hclosing : closing = Text.ofString "\n" ++ Text.ofString "\x7d" := rfl
  rw [text, lines, hfront, List.cons_append, Text.joined_cons, List.flatMap_append]
  refine ⟨first ++ rest.flatMap (Text.ofString "\n" ++ ·) ++ Text.ofString "\n", ?_⟩
  simp [Site.here, top, hclosing]

end C

end StructuredIL
