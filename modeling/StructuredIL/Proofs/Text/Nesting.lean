import StructuredIL.Proofs.C.Control
import StructuredIL.Proofs.Text.Avoidance

/-!
# Texts with matched brackets

Where a part of a text ends can be told from the text if the part is whole and what follows it
stops. A whole text (`Text.Whole`) has all its brackets matched, and outside of them no comma and no
character of a comparison; it has no line end and no brace at all. A text stops (`Text.Stops`) if it
is empty or begins with what a whole text cannot go on with. So a text is a whole one followed by
one that stops in one way only (`Text.Whole.append_inj`), and a list of whole texts that are not
empty can be read off the texts joined by commas (`Text.eq_of_joined_commas`).

The depth of brackets is followed from the front. A text inside of brackets (`Text.Inside`) may have
commas and comparisons, so that a whole text in brackets is one part of a longer whole text.
-/

namespace StructuredIL.Text

/-! ### Parts of a list -/

/-- A list is cut in one place only if what is cut off in front cannot go on with what is left. -/
theorem append_inj_of_ends {α : Type} {P : List α → Prop} {a b u v : List α} (ha : P a) (hb : P b)
    (hu : ∀ x c, u = x :: c → ∀ d e, P d → ¬P (d ++ x :: e))
    (hv : ∀ x c, v = x :: c → ∀ d e, P d → ¬P (d ++ x :: e)) (h : a ++ u = b ++ v) :
    a = b ∧ u = v := by
  rcases List.append_eq_append_iff.1 h with ⟨c, rfl, rfl⟩ | ⟨c, rfl, rfl⟩
  · cases c with
    | nil => exact ⟨(List.append_nil a).symm, rfl⟩
    | cons x c => exact absurd hb (hu x (c ++ v) rfl a c ha)
  · cases c with
    | nil => exact ⟨List.append_nil b, rfl⟩
    | cons x c => exact absurd ha (hv x (c ++ u) rfl b c hb)

/-- Items of a sort in front of an item that is not of it can be told from the list. -/
theorem append_inj_of_forall {α : Type} {P : α → Prop} {a b u v : List α} (ha : ∀ x ∈ a, P x)
    (hb : ∀ x ∈ b, P x) (hu : ∀ x ∈ u.head?, ¬P x) (hv : ∀ x ∈ v.head?, ¬P x)
    (h : a ++ u = b ++ v) : a = b ∧ u = v := by
  refine append_inj_of_ends (P := fun l ↦ ∀ x ∈ l, P x) ha hb ?_ ?_ h
  · rintro x c rfl d e - hall
    exact hu x rfl (hall x (List.mem_append_right d (List.mem_cons_self ..)))
  · rintro x c rfl d e - hall
    exact hv x rfl (hall x (List.mem_append_right d (List.mem_cons_self ..)))

/-! ### Brackets -/

/-- The brackets. -/
def brackets : List Char := ['(', ')']

/-- What ends a text at any depth. -/
def breaks : List Char := ['\n', '\x7b', '\x7d']

/-- What ends a text outside of all brackets. -/
def separators : List Char := [',', '=', '!', '<', '>']

/-- The characters that the structure of a text is told by. -/
def marks : List Char := brackets ++ breaks ++ separators

/-- The depth of brackets behind a code point, if the text may go on with it. -/
def depthAfter (depth : Nat) (p : CodePoint) : Option Nat :=
  if p = .char '(' then some (depth + 1)
  else if p = .char ')' then if depth = 0 then none else some (depth - 1)
  else if p ∈ breaks.map .char then none
  else if depth = 0 ∧ p ∈ separators.map .char then none
  else some depth

/-- The depth of brackets behind a text, if the text may go on with it. -/
def depthBehind (depth : Nat) (t : Text) : Option Nat := t.foldlM depthAfter depth

/-- A text that may stand anywhere and comes back to the depth that it begins at. -/
def Whole (t : Text) : Prop := ∀ depth, depthBehind depth t = some depth

/-- A text that may stand in brackets and comes back to the depth that it begins at. -/
def Inside (t : Text) : Prop := ∀ depth, depthBehind (depth + 1) t = some (depth + 1)

/-- A text that a whole text cannot go on with. -/
def Stops (t : Text) : Prop := ∀ p ∈ t.head?, depthAfter 0 p = none

variable {t u v : Text}

theorem depthBehind_append (depth : Nat) (t u : Text) :
    depthBehind depth (t ++ u) = (depthBehind depth t).bind (depthBehind · u) :=
  List.foldlM_append ..

theorem Whole.inside (h : Whole t) : Inside t := fun depth ↦ h (depth + 1)

theorem Whole.append (ht : Whole t) (hu : Whole u) : Whole (t ++ u) := fun depth ↦ by
  rw [depthBehind_append, ht, Option.bind_some, hu]

theorem Inside.append (ht : Inside t) (hu : Inside u) : Inside (t ++ u) := fun depth ↦ by
  rw [depthBehind_append, ht, Option.bind_some, hu]

theorem Inside.whole (h : Inside t) : Whole ("(" ++ t ++ ")") := fun depth ↦ by
  have hopen : depthBehind depth ("(" : Text) = some (depth + 1) := rfl
  have hclose : depthBehind (depth + 1) (")" : Text) = some depth := rfl
  rw [depthBehind_append, depthBehind_append, hopen, Option.bind_some, h, Option.bind_some, hclose]

/-- Texts are one if they are in brackets. -/
theorem eq_of_brackets (h : ("(" : Text) ++ t ++ ")" = "(" ++ u ++ ")") : t = u :=
  List.append_cancel_left (List.append_cancel_right h)

theorem depthBehind_of_forall {depth : Nat} (h : ∀ p ∈ t, depthAfter depth p = some depth) :
    depthBehind depth t = some depth := by
  induction t with
  | nil => rfl
  | cons p t ih =>
    rw [depthBehind, List.foldlM_cons, h p (List.mem_cons_self ..)]
    exact ih fun q hq ↦ h q (List.mem_cons_of_mem p hq)

theorem whole_of_avoids (h : Avoids marks t) : Whole t := fun depth ↦ by
  refine depthBehind_of_forall fun p hp ↦ ?_
  have hmarks : ∀ c ∈ marks, p ≠ .char c := fun c hc heq ↦ h c hc (heq ▸ hp)
  simp only [marks, brackets, breaks, separators, List.cons_append, List.nil_append,
    List.forall_mem_cons] at hmarks
  simp [depthAfter, breaks, separators, hmarks]

section

variable {cs : List Char}

theorem whole_literal (h : marks.any cs.contains = false) : Whole (String.ofList cs) :=
  whole_of_avoids (avoids_ofList h)

/-- What has none of the characters may stand in front of a whole text. -/
theorem Whole.behind_word (ht : Whole t) (h : marks.any cs.contains = false) :
    Whole (String.ofList cs ++ t) :=
  (whole_literal h).append ht

end

theorem inside_of_avoids (h : Avoids (brackets ++ breaks) t) : Inside t := fun depth ↦ by
  refine depthBehind_of_forall fun p hp ↦ ?_
  have hmarks : ∀ c ∈ brackets ++ breaks, p ≠ .char c := fun c hc heq ↦ h c hc (heq ▸ hp)
  simp only [brackets, breaks, List.cons_append, List.nil_append, List.forall_mem_cons] at hmarks
  simp [depthAfter, breaks, hmarks]

/-- A whole text keeps to its line and has no braces. -/
theorem Whole.avoids (h : Whole t) : Avoids breaks t := by
  intro c hc hmem
  obtain ⟨before, after, rfl⟩ := List.append_of_mem hmem
  have hend (depth : Nat) : depthBehind depth (.char c :: after) = none := by
    have hnone : ∀ c ∈ breaks, ∀ depth, depthAfter depth (.char c) = none := by
      simp [breaks, depthAfter]
    rw [depthBehind, List.foldlM_cons, hnone c hc]
    rfl
  have hwhole := h 0
  rw [depthBehind_append] at hwhole
  cases hbefore : depthBehind 0 before with
  | none =>
    rw [hbefore] at hwhole
    cases hwhole
  | some depth =>
    rw [hbefore, Option.bind_some, hend] at hwhole
    cases hwhole

/-- **A whole text followed by one that stops** can be told from the two together. -/
theorem Whole.append_inj (ht : Whole t) (hu : Whole u) {v w : Text} (hv : Stops v) (hw : Stops w)
    (h : t ++ v = u ++ w) : t = u ∧ v = w := by
  refine append_inj_of_ends (P := fun t ↦ depthBehind 0 t = some 0) (ht 0) (hu 0) ?_ ?_ h
  · rintro p c rfl d e hd hde
    rw [depthBehind_append, hd, Option.bind_some, depthBehind, List.foldlM_cons, hv p rfl] at hde
    cases hde
  · rintro p c rfl d e hd hde
    rw [depthBehind_append, hd, Option.bind_some, depthBehind, List.foldlM_cons, hw p rfl] at hde
    cases hde

/-! ### Commas -/

theorem stops_of_commas (ts : List Text) : Stops (ts.flatMap ((", " : Text) ++ ·)) := by
  cases ts with
  | nil => exact nofun
  | cons t ts =>
    rintro p hp
    cases hp
    rfl

theorem inside_of_commas {ts : List Text} (h : ∀ t ∈ ts, Whole t) :
    Inside (ts.flatMap ((", " : Text) ++ ·)) := by
  have hcomma : Inside (", " : Text) := inside_of_avoids (by decide)
  induction ts with
  | nil => exact fun _ ↦ rfl
  | cons t ts ih =>
    obtain ⟨ht, hts⟩ := List.forall_mem_cons.1 h
    rw [List.flatMap_cons]
    exact (hcomma.append ht.inside).append (ih hts)

theorem inside_joined {ts : List Text} (h : ∀ t ∈ ts, Whole t) : Inside (joined ", " ts) := by
  cases ts with
  | nil => exact fun _ ↦ rfl
  | cons t ts =>
    obtain ⟨ht, hts⟩ := List.forall_mem_cons.1 h
    rw [joined_cons]
    exact ht.inside.append (inside_of_commas hts)

/-- Whole texts that each stand behind a comma can be told from all of them together. -/
theorem eq_of_commas {ts us : List Text} (ht : ∀ t ∈ ts, Whole t) (hu : ∀ u ∈ us, Whole u)
    (h : ts.flatMap ((", " : Text) ++ ·) = us.flatMap ((", " : Text) ++ ·)) : ts = us := by
  induction ts generalizing us with
  | nil =>
    cases us with
    | nil => rfl
    | cons u us => cases h
  | cons t ts ih =>
    cases us with
    | nil => cases h
    | cons u us =>
      obtain ⟨ht, hts⟩ := List.forall_mem_cons.1 ht
      obtain ⟨hu, hus⟩ := List.forall_mem_cons.1 hu
      rw [List.flatMap_cons, List.flatMap_cons, List.append_assoc, List.append_assoc] at h
      obtain ⟨rfl, hrest⟩ := ht.append_inj hu (stops_of_commas ts) (stops_of_commas us)
        (List.append_cancel_left h)
      rw [ih hts hus hrest]

/-- **Whole texts joined by commas** can be told from the joined text, if none of them is empty. -/
theorem eq_of_joined_commas {ts us : List Text} (ht : ∀ t ∈ ts, Whole t ∧ t ≠ [])
    (hu : ∀ u ∈ us, Whole u ∧ u ≠ []) (h : joined ", " ts = joined ", " us) : ts = us := by
  have hne : ∀ {t : Text} {ts : List Text}, Whole t ∧ t ≠ [] → joined ", " (t :: ts) ≠ [] := by
    intro t ts ht hnil
    rw [joined_cons, List.append_eq_nil_iff] at hnil
    exact ht.2 hnil.1
  cases ts with
  | nil =>
    cases us with
    | nil => rfl
    | cons u us => exact absurd h.symm (hne (hu u (List.mem_cons_self ..)))
  | cons t ts =>
    cases us with
    | nil => exact absurd h (hne (ht t (List.mem_cons_self ..)))
    | cons u us =>
      obtain ⟨ht, hts⟩ := List.forall_mem_cons.1 ht
      obtain ⟨hu, hus⟩ := List.forall_mem_cons.1 hu
      rw [joined_cons, joined_cons] at h
      obtain ⟨rfl, hrest⟩ := ht.1.append_inj hu.1 (stops_of_commas ts) (stops_of_commas us) h
      rw [eq_of_commas (fun t ht ↦ (hts t ht).1) (fun u hu ↦ (hus u hu).1) hrest]

end StructuredIL.Text
