import StructuredIL.Proofs.Lowering.Layout

/-!
# The diagnostics in a text

The marker of the diagnostics has a colon, and nothing else in a generated text has one unless
a name of the document does. So if no name has a colon the markers in the text are those of the
diagnostics: there are as many as there are warnings, and each begins the diagnostic that was warned
of in its turn (`C.occurrences_generate`).

`C.Shows` reads a text from the front, one code point or one diagnostic at a time. It is what is
left of a layout when only the colons count (`C.shows_of_laid`), and the markers can be counted on
it: a marker that begins before a diagnostic would need a colon from the text in front of it.
-/

namespace StructuredIL

/-! ### Occurrences -/

/-- What is left of a text from each place on at which another begins. -/
def Text.occurrences (part t : Text) : List Text := t.tails.filter part.isPrefixOf

namespace C

/-- A text that shows diagnostics in order, read from the front. Outside the markers there is no
colon. -/
inductive Shows : Text → List Text → Prop
  | nil : Shows [] []
  | point {p : CodePoint} {t : Text} {ds : List Text} : p ≠ .char ':' → Shows t ds →
      Shows (p :: t) ds
  | diagnostic {w t : Text} {ds : List Text} : .char ':' ∉ w → Shows t ds →
      Shows (Unsupported.marker ++ w ++ t) ((Unsupported.marker ++ w) :: ds)

variable {t u w : Text} {ds es : List Text}

theorem shows_append_of_avoids (hw : .char ':' ∉ w) (ht : Shows t ds) : Shows (w ++ t) ds := by
  induction w with
  | nil => exact ht
  | cons p w ih =>
    obtain ⟨hp, hw⟩ := not_or.1 (mt List.mem_cons.2 hw)
    exact .point (Ne.symm hp) (ih hw)

theorem Shows.append (ht : Shows t ds) (hu : Shows u es) : Shows (t ++ u) (ds ++ es) := by
  induction ht with
  | nil => exact hu
  | point hp _ ih => exact .point hp ih
  | diagnostic hw _ ih =>
    rw [List.append_assoc]
    exact .diagnostic hw ih

theorem Shows.not_mem (h : Shows t []) : .char ':' ∉ t := by
  generalize hds : ([] : List Text) = ds at h
  induction h with
  | nil => exact List.not_mem_nil
  | point hp _ ih => exact fun hmem ↦ (List.mem_cons.1 hmem).elim (Ne.symm hp) (ih hds)
  | diagnostic => cases hds

/-- **A layout without colons in its names** shows its diagnostics. -/
theorem shows_of_laid (h : Laid [':'] t ds) : Shows t ds := by
  have hwithout {w : Text} (hw : .char ':' ∉ w) : Shows w [] := by
    have h := shows_append_of_avoids hw .nil
    rwa [List.append_nil] at h
  have hbetween {v w t : Text} {ds : List Text} (hv : .char ':' ∉ v) (hw : .char ':' ∉ w)
      (ht : Shows t ds) : Shows (v ++ t ++ w) ds := by
    have h := (shows_append_of_avoids hv ht).append (hwithout hw)
    rwa [List.append_nil] at h
  induction h with
  | word ht => exact hwithout (ht ':' (by decide))
  | name ht => exact hwithout (ht ':' (by decide))
  | append _ _ iht ihu => exact iht.append ihu
  | parens _ ih => exact hbetween (by decide) (by decide) ih
  | braces _ ih => exact hbetween (by decide) (by decide) ih
  | @diagnostic w _ ih =>
    have h : Shows (Text.ofString Unsupported.marker ++ w ++ []) [Unsupported.marker ++ w] :=
      .diagnostic ih.not_mem .nil
    rwa [List.append_nil] at h

/-! ### Markers -/

theorem eq_of_append_colon {v w x y : Text} (hv : .char ':' ∉ v) (hw : .char ':' ∉ w)
    (h : v ++ .char ':' :: x = w ++ .char ':' :: y) : v = w := by
  have hfront {v x : Text} (hv : .char ':' ∉ v) :
      (v ++ .char ':' :: x).takeWhile (· != .char ':') = v := by
    have hall : ∀ p ∈ v, (p != .char ':') = true := fun p hp ↦
      bne_iff_ne.2 fun heq ↦ hv (heq ▸ hp)
    rw [List.takeWhile_append_of_pos hall, List.takeWhile_cons_of_neg (by simp), List.append_nil]
  rw [← hfront (x := x) hv, h, hfront hw]

/-- The first colon stands in a marker. -/
theorem Shows.suffix_of_colon (h : Shows t ds) {front rest : Text}
    (ht : front ++ .char ':' :: rest = t) (hfront : .char ':' ∉ front) :
    Text.ofString "Error" <:+ front := by
  induction h generalizing front with
  | nil => cases List.append_eq_nil_iff.1 ht |>.2
  | point hp _ ih =>
    cases front with
    | nil => exact absurd (List.cons.inj ht).1.symm hp
    | cons q front =>
      have hsuffix := ih (List.cons.inj ht).2 fun hmem ↦ hfront (List.mem_cons_of_mem q hmem)
      exact hsuffix.trans (List.suffix_cons q front)
  | @diagnostic w t ds hw _ ih =>
    have hmarker : Text.ofString Unsupported.marker ++ w ++ t =
        Text.ofString "Error" ++ .char ':' :: (Text.ofString " " ++ w ++ t) := rfl
    obtain rfl : front = Text.ofString "Error" :=
      eq_of_append_colon hfront (by decide) (ht.trans hmarker)
    exact List.suffix_rfl

/-- No marker begins with the code point in front of a text that shows diagnostics. -/
theorem Shows.occurrences_cons (h : Shows t ds) (p : CodePoint) :
    Text.occurrences Unsupported.marker (p :: t) = Text.occurrences Unsupported.marker t := by
  have hnot : ¬Text.ofString Unsupported.marker <+: p :: t := by
    rintro ⟨rest, hrest⟩
    have hsuffix : Text.ofString "Error" <:+ Text.ofString "rror" :=
      h.suffix_of_colon (List.cons.inj hrest).2 (by decide)
    exact absurd hsuffix (by decide)
  rw [← List.isPrefixOf_iff_prefix] at hnot
  exact List.filter_cons_of_neg hnot

theorem occurrences_append (hw : .char ':' ∉ w) (ht : Shows t ds) :
    Text.occurrences Unsupported.marker (w ++ t) = Text.occurrences Unsupported.marker t := by
  induction w with
  | nil => rfl
  | cons p w ih =>
    have hw' : .char ':' ∉ w := fun hmem ↦ hw (List.mem_cons_of_mem p hmem)
    exact ((shows_append_of_avoids hw' ht).occurrences_cons p).trans (ih hw')

/-- **The markers in a text** begin the diagnostics that it shows. -/
theorem Shows.occurrences (h : Shows t ds) :
    List.Forall₂ (· <+: ·) ds (Text.occurrences Unsupported.marker t) := by
  induction h with
  | nil => exact .nil
  | point _ ht ih =>
    rw [ht.occurrences_cons]
    exact ih
  | @diagnostic w t ds hw ht ih =>
    have hfirst : Text.occurrences Unsupported.marker (Unsupported.marker ++ w ++ t) =
        (Unsupported.marker ++ w ++ t) :: Text.occurrences Unsupported.marker (w ++ t) := rfl
    rw [hfirst, occurrences_append hw ht]
    exact .cons (List.prefix_append _ t) ih

/-- **No diagnostic is lost, repeated or moved.** Best effort gives a text, and its markers are
those of the warnings that are logged: there are as many, and each is where the diagnostic that is
warned of in its turn begins. -/
theorem occurrences_generate {f : Function} (hordinary : f.IsOrdinary)
    (hnames : f.NamesAvoid [':']) :
    ∃ text, (generate .bestEffort f).outcome = .ok text ∧
      (Text.occurrences Unsupported.marker text).length =
        (warnings (generate .bestEffort f).log).length ∧
      List.Forall₂ (· <+: ·) (warnings (generate .bestEffort f).log)
        (Text.occurrences Unsupported.marker text) := by
  obtain ⟨text, ds, hwarns, hlaid⟩ := isLaidOut_generate hordinary (by decide) hnames
  have hmarkers := (shows_of_laid hlaid).occurrences
  rw [hwarns.log]
  exact ⟨text, hwarns.outcome, hmarkers.length_eq.symm, hmarkers⟩

/-- A function with diagnostics in a declaration, in an arm, and in the place of a leave, which
shows the notation of its value. -/
def threeWarnings : Function :=
  let half : Variable := ⟨"half", .r8, some 0⟩
  let top : ContainerHead := ⟨0, .switch, .string "top"⟩
  ⟨"Main", [half], .block ⟨⟨1, .controlFlow, .string "body"⟩,
    [.cond (.load half) (.store half (.binary .div (.load half) (.load half))) .nop,
      .leave top (.compare .lessThan (.load half) (.load half))]⟩⟩

theorem occurrences_of_threeWarnings : ∃ text,
    (generate .bestEffort threeWarnings).outcome = .ok text ∧
      (Text.occurrences Unsupported.marker text).length = 3 ∧
      List.Forall₂ (· <+: ·)
        [("Error: variable type R8 half" : Text), "Error: binary operator DIV",
          "Error: leave SWITCH comp(ldloc half < ldloc half)"]
        (Text.occurrences Unsupported.marker text) := by
  have hordinary : threeWarnings.IsOrdinary := by
    simp [Function.IsOrdinary, threeWarnings, Node.nodes, Node.nodesOfBlock, Node.nodesOfAll,
      Node.IsOrdinary, Build.minInt32, Build.maxInt32]
  have hnames : threeWarnings.NamesAvoid [':'] := by
    refine ⟨by decide, by decide, ?_⟩
    have hname : Text.Avoids [':'] (Text.ofString "half") := by decide
    have hlabel : Text.Avoids [':'] (Text.ofString "body") := by decide
    have hlabel' : Text.Avoids [':'] (Text.ofString "top") := by decide
    simp [threeWarnings, Node.nodes, Node.nodesOfBlock, Node.nodesOfAll, Node.NamesAvoid, hname,
      hlabel, hlabel']
  obtain ⟨text, htext, hlength, hmarkers⟩ := occurrences_generate hordinary hnames
  exact ⟨text, htext, hlength, hmarkers⟩

end C

end StructuredIL
