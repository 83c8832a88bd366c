import StructuredIL.Proofs.C.Control
import StructuredIL.Proofs.C.Token
import StructuredIL.Proofs.Loading.Evaluation
import StructuredIL.Proofs.Loading.Legibility
import StructuredIL.Proofs.Lowering.Modes
import StructuredIL.Proofs.Tree.Path
import StructuredIL.Tree.Query

/-!
# When best effort gives a text

In best-effort mode every node has a place as an expression and a place as a statement, whatever its
kind, and what has no counterpart has a diagnostic. So a lowering in this mode should always give
a text, and one that is not empty. In a function that is loaded there are two exceptions
(`C.givesText_iff`).

* The text of a load is the name of the variable, and a variable may have the empty text for its
  name. All other expressions, and all statements, blocks and declarations, have something in their
  texts besides names.
* A diagnostic may show what a call names, or the value of a leave, and in these an integer may be
  too long to be written.

That a lowering succeeds is told from its parts by one rule for each way of putting lowerings
together (`C.succeeds_bind`, `C.succeeds_mapM`), and what it gives is not empty by looking at the
text alone, once it succeeds.
-/

namespace StructuredIL

open C

/-! ### Succeeding -/

namespace C

variable {α β : Type} {mode : Mode}

/-- A lowering that does not end early. -/
def Succeeds (x : Lower α) : Prop := ∃ a, x.outcome = .ok a

/-- A lowering that gives a text, and not the empty one. -/
def GivesText (text : α → Text) (x : Lower α) : Prop := ∃ a, x.outcome = .ok a ∧ text a ≠ []

theorem succeeds_pure (a : α) : Succeeds (pure a : Lower α) := ⟨a, rfl⟩

/-- One lowering after the other, if it does not depend on the first whether the second succeeds. -/
theorem succeeds_bind {x : Lower α} {f : α → Lower β} {Q : Prop} (hf : ∀ a, Succeeds (f a) ↔ Q) :
    Succeeds (x >>= f) ↔ Succeeds x ∧ Q := by
  constructor
  · rintro ⟨b, hb⟩
    obtain ⟨a, ha, hb⟩ := Logged.outcome_bind_eq_ok.1 hb
    exact ⟨⟨a, ha⟩, (hf a).1 ⟨b, hb⟩⟩
  · rintro ⟨⟨a, ha⟩, hQ⟩
    obtain ⟨b, hb⟩ := (hf a).2 hQ
    exact ⟨b, Logged.outcome_bind_eq_ok.2 ⟨a, ha, hb⟩⟩

theorem succeeds_map {x : Lower α} (f : α → β) : Succeeds (f <$> x) ↔ Succeeds x := by
  rw [map_eq_pure_bind, succeeds_bind fun a ↦ iff_true_intro (succeeds_pure (f a)), and_true]

theorem succeeds_mapM {f : α → Lower β} {as : List α} :
    Succeeds (as.mapM f) ↔ ∀ a ∈ as, Succeeds (f a) := by
  induction as with
  | nil => exact iff_of_true (succeeds_pure []) nofun
  | cons a as ih =>
    rw [List.mapM_cons, List.forall_mem_cons]
    exact succeeds_bind fun b ↦ (succeeds_map (b :: ·)).trans ih

/-- What is not supported is gone on from, if its diagnostic can be written. -/
theorem succeeds_recover (u : Unsupported) :
    Succeeds (recover .bestEffort u) ↔ u.isWritable = true := by
  rw [recover]
  split
  · exact iff_of_true ⟨_, rfl⟩ ‹_›
  · refine iff_of_false ?_ ‹_›
    rintro ⟨t, ht⟩
    cases ht

/-- What does not succeed in best-effort mode ends at an integer that is too long. -/
theorem GoesOn.outcome_eq {x : Lower α} (hx : GoesOn x) (h : ¬Succeeds x) :
    x.outcome = .error .integerTooLong := by
  cases houtcome : x.outcome with
  | ok a => exact absurd ⟨a, houtcome⟩ h
  | error e =>
    cases e with
    | unsupported u => exact absurd houtcome (hx u)
    | integerTooLong => rfl

theorem givesText_iff_succeeds {text : α → Text} {x : Lower α}
    (h : ∀ a, x.outcome = .ok a → text a ≠ []) : GivesText text x ↔ Succeeds x :=
  exists_congr fun a ↦ and_iff_left_of_imp (h a)

/-! ### Texts that are not empty -/

theorem diagnostic_ne_nil {u : Unsupported} {t : Text}
    (h : (recover mode u).outcome = .ok t) : t ≠ [] := by
  obtain rfl : t = u.diagnostic := by
    rw [recover.eq_def] at h
    split at h
    · cases mode with
      | bestEffort => exact (Except.ok.inj h).symm
      | strict => cases h
    · cases h
  simp [Unsupported.diagnostic, Unsupported.marker, Text.ofString, Text.ofChars]

theorem diagnostic_of_map_recover {u : Unsupported} {f : Text → α} {a : α}
    (h : (f <$> recover mode u).outcome = .ok a) : ∃ t, t ≠ [] ∧ f t = a := by
  obtain ⟨t, ht, rfl⟩ := Logged.outcome_map_eq_ok.1 h
  exact ⟨t, diagnostic_ne_nil ht, rfl⟩

theorem integer_ne_nil (value : Int) : Text.ofString (toString value) ≠ [] := by
  cases value with
  | ofNat n =>
    intro h
    have hdigits := isDigits_repr n
    rw [show Text.ofString n.repr = [] from h] at hdigits
    cases hdigits
  | negSucc n =>
    rw [ofString_negSucc]
    exact List.cons_ne_nil _ _

/-- An expression has something in its text besides names and diagnostics, if it is neither. -/
theorem Expr.text_eq_nil_iff {e : Expr} :
    e.text = [] ↔ e = .variableName [] ∨ e = .diagnostic [] := by
  cases e with
  | constant value => simpa [text] using integer_ne_nil value
  | variableName t => simp [text]
  | sum l r => simp [text, Text.ofString, Text.ofChars]
  | relation rel l r => simp [text, Text.ofString, Text.ofChars]
  | diagnostic t => simp [text]

/-- **The text of a node in the place of an expression** is empty only if the node is a load of
a variable without a name. -/
theorem text_lowerExpr_eq_nil_iff {n : Node} {e : Expr} (h : (lowerExpr mode n).outcome = .ok e) :
    e.text = [] ↔ ∃ v, n.loadSource? = some v ∧ v.name = [] := by
  have hdiagnostic {u : Unsupported} {e : Expr}
      (h : (Expr.diagnostic <$> recover mode u).outcome = .ok e) : e.text ≠ [] := by
    obtain ⟨t, ht, rfl⟩ := diagnostic_of_map_recover h
    exact ht
  refine lowerExpr_induction (motive := fun n x ↦ ∀ e, (x mode).outcome = .ok e →
    (e.text = [] ↔ ∃ v, n.loadSource? = some v ∧ v.name = []))
    ?constant ?tooLong ?load ?relation ?sum ?comparison ?operator ?other n e h
  case constant =>
    rintro value _ _ ⟨⟩
    exact iff_of_false (integer_ne_nil value) (by simp [Node.loadSource?])
  case tooLong => rintro value _ _ ⟨⟩
  case load =>
    rintro v _ ⟨⟩
    simp [Node.loadSource?, Expr.text]
  -- what the operands are does not matter: between them there is always an operator
  case relation =>
    intro kind rel l r _ _ _ e h
    obtain ⟨a, -, h⟩ := Logged.outcome_bind_eq_ok.1 h
    obtain ⟨b, -, rfl⟩ := Logged.outcome_map_eq_ok.1 h
    exact iff_of_false (by simp [Expr.text_eq_nil_iff]) (by simp [Node.loadSource?])
  case sum =>
    intro l r _ _ e h
    obtain ⟨a, -, h⟩ := Logged.outcome_bind_eq_ok.1 h
    obtain ⟨b, -, rfl⟩ := Logged.outcome_map_eq_ok.1 h
    exact iff_of_false (by simp [Expr.text_eq_nil_iff]) (by simp [Node.loadSource?])
  case comparison | operator =>
    intros
    exact iff_of_false (hdiagnostic ‹_›) (by simp [Node.loadSource?])
  case other =>
    intro n hn e h
    have hload : n.loadSource? = none := by cases n <;> first | rfl | cases hn
    exact iff_of_false (hdiagnostic h) (by simp [hload])

theorem text_lowerDeclaration_ne_nil {v : Variable} {d : Declaration}
    (h : (lowerDeclaration mode v).outcome = .ok d) : d.text ≠ [] := by
  rw [lowerDeclaration] at h
  split at h
  · cases h
    simp [Declaration.text, Text.ofString, Text.ofChars]
  · obtain ⟨t, ht, rfl⟩ := diagnostic_of_map_recover h
    exact ht

/-- The text of a block is put together from those of its instructions, and a block without
instructions is written as the empty statement. -/
theorem text_sequence_ne_nil {ns : List Node} {parts : List Stmt}
    (ih : ∀ n ∈ ns, ∀ s, (lowerStmt mode n).outcome = .ok s → s.text ≠ [])
    (h : (lowerAll mode ns).outcome = .ok parts) : (Stmt.sequence parts).text ≠ [] := by
  cases ns with
  | nil =>
    cases h
    exact List.cons_ne_nil _ _
  | cons n rest =>
    rw [lowerAll] at h
    obtain ⟨t, ht, h⟩ := Logged.outcome_bind_eq_ok.1 h
    obtain ⟨ts, -, h⟩ := Logged.outcome_bind_eq_ok.1 h
    cases h
    have hlines := Stmt.onLines_texts_cons t ts []
    rw [List.append_nil] at hlines
    show Stmt.onLines (Stmt.texts (t :: ts)) ≠ []
    rw [hlines]
    exact List.append_ne_nil_of_left_ne_nil (ih n (List.mem_cons_self ..) t ht) _

/-- **The text of a node in the place of a statement** is not empty, whatever the names in it. -/
theorem text_lowerStmt_ne_nil {n : Node} {s : Stmt} (h : (lowerStmt mode n).outcome = .ok s) :
    s.text ≠ [] := by
  refine lowerStmt_induction (motive := fun _ x ↦ ∀ s, (x mode).outcome = .ok s → s.text ≠ [])
    ?store ?branch ?ifThen ?ifElse ?print ?exitLoop ?exitFunction ?sequence ?loop ?scope
    ?call ?leave ?block ?container ?other n s h
  case store =>
    intro v value s h
    obtain ⟨e, -, rfl⟩ := Logged.outcome_map_eq_ok.1 h
    simp [Stmt.text, Text.ofString, Text.ofChars]
  case branch =>
    rintro target _ ⟨⟩
    exact List.cons_ne_nil _ _
  case ifThen =>
    intro c yes no _ _ s h
    obtain ⟨e, -, h⟩ := Logged.outcome_bind_eq_ok.1 h
    obtain ⟨t, -, rfl⟩ := Logged.outcome_map_eq_ok.1 h
    exact List.cons_ne_nil _ _
  case ifElse =>
    intro c yes no _ _ _ s h
    obtain ⟨e, -, h⟩ := Logged.outcome_bind_eq_ok.1 h
    obtain ⟨t, -, h⟩ := Logged.outcome_bind_eq_ok.1 h
    obtain ⟨u, -, rfl⟩ := Logged.outcome_map_eq_ok.1 h
    exact List.cons_ne_nil _ _
  case print =>
    intro argument method s h
    obtain ⟨e, -, rfl⟩ := Logged.outcome_map_eq_ok.1 h
    exact List.cons_ne_nil _ _
  case exitLoop | exitFunction =>
    rintro target value _ _ ⟨⟩
    exact List.cons_ne_nil _ _
  case sequence =>
    -- the one statement with nothing of its own in its text
    intro head instructions _ ih s h
    obtain ⟨parts, hparts, rfl⟩ := Logged.outcome_map_eq_ok.1 h
    exact text_sequence_ne_nil ih hparts
  case loop | scope =>
    intro head blocks _ _ s h
    obtain ⟨parts, -, rfl⟩ := Logged.outcome_map_eq_ok.1 h
    exact List.cons_ne_nil _ _
  case call | leave | block | container | other =>
    intros
    obtain ⟨t, ht, rfl⟩ := diagnostic_of_map_recover ‹_›
    exact ht

end C

/-! ### When a lowering succeeds -/

namespace Node

/-- The parts of a node that are lowered with it: a block or a container is lowered itself only if
its kind has a counterpart. -/
def loweredParts : Node → List Node
  | block b => if b.head.kind = .controlFlow then (block b).parts else []
  | container head blocks =>
    if head.kind = .loop ∨ head.kind = .normal then (container head blocks).parts else []
  | n => n.parts

/-- The diagnostic of a node in the place of a statement can be written, if it has one: what it
calls, with other than one argument, and the value of a leave that is neither of a loop nor of
a scope. -/
def HasDiagnostic : Node → Prop
  | call arguments method => arguments.length = 1 ∨ method.isShowable = true
  | leave target value => target.kind = .loop ∨ target.kind = .normal ∨ value.isWritable = true
  | _ => True

/-- All that is lowered with a node has a diagnostic that can be written. -/
def HasDiagnostics (n : Node) : Prop := ∀ p m, follow loweredParts p n = some m → m.HasDiagnostic

theorem hasDiagnostics_iff {n : Node} :
    n.HasDiagnostics ↔ n.HasDiagnostic ∧ ∀ c ∈ n.loweredParts, c.HasDiagnostics := by
  constructor
  · intro h
    refine ⟨h [] n rfl, fun c hc p m hm ↦ ?_⟩
    obtain ⟨i, hi⟩ := List.mem_iff_getElem?.1 hc
    exact h (i :: p) m (follow_cons_eq_some.2 ⟨c, hi, hm⟩)
  · rintro ⟨hn, hparts⟩ p m hm
    cases p with
    | nil =>
      obtain rfl := Option.some.inj hm
      exact hn
    | cons i p =>
      obtain ⟨c, hc, hm⟩ := follow_cons_eq_some.1 hm
      exact hparts c (List.mem_of_getElem? hc) p m hm

theorem hasDiagnostics_iff_parts {n : Node} (h : n.HasDiagnostic) :
    n.HasDiagnostics ↔ ∀ c ∈ n.loweredParts, c.HasDiagnostics :=
  hasDiagnostics_iff.trans (and_iff_right h)

/-- Of a node with which nothing else is lowered only its own diagnostic is asked. -/
theorem hasDiagnostics_iff_of_leaf {n : Node} (h : n.loweredParts = []) :
    n.HasDiagnostics ↔ n.HasDiagnostic := by
  rw [hasDiagnostics_iff, h]
  exact and_iff_left (List.forall_mem_nil _)

end Node

namespace C

variable {locals : List Variable} {around : List OpenContainer} {n : Node}

/-- Every node is lowered in the place of an expression. -/
theorem succeeds_lowerExpr (h : n.Resolved locals around) :
    Succeeds (lowerExpr .bestEffort n) := by
  refine lowerExpr_induction (motive := fun n x ↦ ∀ around, n.Resolved locals around →
    Succeeds (x .bestEffort))
    ?constant ?tooLong ?load ?relation ?sum ?comparison ?operator ?other n around h
  case constant => exact fun _ _ _ _ ↦ succeeds_pure _
  case tooLong =>
    intro value hlong around h
    cases hlong.symm.trans (Node.isWritable_of_int32 h)
  case load => exact fun _ _ _ ↦ succeeds_pure _
  case relation =>
    intro kind rel l r _ ihl ihr around h
    exact (succeeds_bind fun a ↦ succeeds_map _).2 ⟨ihl around h.1, ihr around h.2⟩
  case sum =>
    intro l r ihl ihr around h
    exact (succeeds_bind fun a ↦ succeeds_map _).2 ⟨ihl around h.1, ihr around h.2⟩
  case comparison | operator | other =>
    intros
    exact (succeeds_map _).2 ((succeeds_recover _).2 rfl)

theorem succeeds_map_lowerAll_iff {f : List Stmt → Stmt} {parts : List Node}
    (hn : n.HasDiagnostic) (hparts : n.loweredParts = parts)
    (ih : ∀ m ∈ parts, Succeeds (lowerStmt .bestEffort m) ↔ m.HasDiagnostics) :
    Succeeds (f <$> lowerAll .bestEffort parts) ↔ n.HasDiagnostics := by
  rw [succeeds_map, lowerAll_eq_mapM, succeeds_mapM, Node.hasDiagnostics_iff_parts hn, hparts]
  exact forall₂_congr ih

/-- **When a node is lowered in the place of a statement**: the diagnostics can be written. -/
theorem succeeds_lowerStmt_iff (h : n.Resolved locals around) :
    Succeeds (lowerStmt .bestEffort n) ↔ n.HasDiagnostics := by
  have hdiagnostic (u : Unsupported) :
      Succeeds (Stmt.diagnostic <$> recover .bestEffort u) ↔ u.isWritable = true :=
    (succeeds_map _).trans (succeeds_recover u)
  refine lowerStmt_induction (motive := fun n x ↦ ∀ around, n.Resolved locals around →
    (Succeeds (x .bestEffort) ↔ n.HasDiagnostics))
    ?store ?branch ?ifThen ?ifElse ?print ?exitLoop ?exitFunction ?sequence ?loop ?scope
    ?call ?leave ?block ?container ?other n around h
  case store =>
    intro v value around h
    rw [Node.hasDiagnostics_iff_of_leaf rfl]
    exact iff_of_true ((succeeds_map _).2 (succeeds_lowerExpr h.2)) trivial
  case branch =>
    intro target around _
    rw [Node.hasDiagnostics_iff_of_leaf rfl]
    exact iff_of_true (succeeds_pure _) trivial
  case ifThen =>
    intro c yes no hempty ihyes around h
    have hown : (Node.cond c yes no).HasDiagnostic := trivial
    have hparts : (Node.cond c yes no).loweredParts = [yes] := if_pos hempty
    rw [Node.hasDiagnostics_iff_parts hown, hparts, List.forall_mem_singleton,
      ← ihyes around h.2.1, succeeds_bind fun e ↦ succeeds_map _]
    exact and_iff_right (succeeds_lowerExpr h.1)
  case ifElse =>
    intro c yes no hempty ihyes ihno around h
    have hown : (Node.cond c yes no).HasDiagnostic := trivial
    have hparts : (Node.cond c yes no).loweredParts = [yes, no] := if_neg (by simp [hempty])
    rw [Node.hasDiagnostics_iff_parts hown, hparts, List.forall_mem_cons,
      List.forall_mem_singleton, ← ihyes around h.2.1, ← ihno around h.2.2,
      succeeds_bind fun e ↦ succeeds_bind fun s ↦ succeeds_map _]
    exact and_iff_right (succeeds_lowerExpr h.1)
  case print =>
    intro argument method around h
    rw [Node.hasDiagnostics_iff_of_leaf rfl]
    exact iff_of_true ((succeeds_map _).2 (succeeds_lowerExpr h.1)) (.inl rfl)
  case exitLoop =>
    intro target value hkind around _
    rw [Node.hasDiagnostics_iff_of_leaf rfl]
    exact iff_of_true (succeeds_pure _) (.inl hkind)
  case exitFunction =>
    intro target value hkind around _
    rw [Node.hasDiagnostics_iff_of_leaf rfl]
    exact iff_of_true (succeeds_pure _) (.inr (.inl hkind))
  case sequence =>
    intro head instructions hkind ih around h
    exact succeeds_map_lowerAll_iff trivial (if_pos hkind) fun m hm ↦
      ih m hm around (h.of_mem_parts hm)
  case loop =>
    intro head blocks hkind ih around h
    exact succeeds_map_lowerAll_iff trivial (if_pos (.inl hkind)) fun m hm ↦
      ih m hm _ (h.of_mem_parts hm)
  case scope =>
    intro head blocks hkind ih around h
    exact succeeds_map_lowerAll_iff trivial (if_pos (.inr hkind)) fun m hm ↦
      ih m hm _ (h.of_mem_parts hm)
  case call =>
    intro arguments method hlength around _
    rw [Node.hasDiagnostics_iff_of_leaf rfl]
    exact (hdiagnostic _).trans (or_iff_right hlength).symm
  case leave =>
    intro target value hloop hnormal around _
    rw [Node.hasDiagnostics_iff_of_leaf rfl]
    exact (hdiagnostic _).trans ((or_iff_right hloop).trans (or_iff_right hnormal)).symm
  -- these diagnostics show nothing of the document but words
  case block =>
    intro head instructions hkind around _
    have hparts : (Node.block ⟨head, instructions⟩).loweredParts = [] := if_neg hkind
    rw [Node.hasDiagnostics_iff_of_leaf hparts]
    exact iff_of_true ((hdiagnostic _).2 rfl) trivial
  case container =>
    intro head blocks hloop hnormal around _
    have hparts : (Node.container head blocks).loweredParts = [] :=
      if_neg (not_or.2 ⟨hloop, hnormal⟩)
    rw [Node.hasDiagnostics_iff_of_leaf hparts]
    exact iff_of_true ((hdiagnostic _).2 rfl) trivial
  case other =>
    intro n hn around _
    obtain ⟨hown, hparts⟩ : n.HasDiagnostic ∧ n.loweredParts = [] := by
      cases n <;> first | exact ⟨trivial, rfl⟩ | cases hn
    rw [Node.hasDiagnostics_iff_of_leaf hparts]
    exact iff_of_true ((hdiagnostic _).2 rfl) hown

theorem succeeds_lowerDeclaration (v : Variable) :
    Succeeds (lowerDeclaration .bestEffort v) := by
  rw [lowerDeclaration]
  split
  · exact succeeds_pure _
  · exact (succeeds_map _).2 ((succeeds_recover _).2 rfl)

/-! ### Functions -/

/-- **Where best effort gives a text.** In a function that is loaded every declaration gives one.
A node in the place of an expression is lowered in any case, and its text is empty only if it is
a load of a variable without a name. In the place of a statement, a block among them, it gives
a text if all diagnostics can be written, and otherwise ends at an integer that is too long. -/
theorem givesText_iff {f : Function} (hf : f.IsLoaded) :
    (∀ v ∈ f.locals, GivesText Declaration.text (lowerDeclaration .bestEffort v)) ∧
      ∀ n ∈ f.body.nodes, Succeeds (lowerExpr .bestEffort n) ∧
        (GivesText Expr.text (lowerExpr .bestEffort n) ↔
          ∀ v, n.loadSource? = some v → v.name ≠ []) ∧
        (GivesText Stmt.text (lowerStmt .bestEffort n) ↔ n.HasDiagnostics) ∧
        (∀ b, n = .block b →
          (GivesText Stmt.text (lowerBlock .bestEffort b) ↔ n.HasDiagnostics)) ∧
        (¬n.HasDiagnostics → (lowerStmt .bestEffort n).outcome = .error .integerTooLong) := by
  refine ⟨fun v _ ↦ ?_, fun n hn ↦ ?_⟩
  · exact (givesText_iff_succeeds fun d ↦ text_lowerDeclaration_ne_nil).2
      (succeeds_lowerDeclaration v)
  obtain ⟨around, hresolved⟩ := hf.resolved.body.exists_of_mem_nodes hn
  have hstmt : Succeeds (lowerStmt .bestEffort n) ↔ n.HasDiagnostics :=
    succeeds_lowerStmt_iff hresolved
  have htext : GivesText Stmt.text (lowerStmt .bestEffort n) ↔ n.HasDiagnostics :=
    (givesText_iff_succeeds fun s ↦ text_lowerStmt_ne_nil).trans hstmt
  obtain ⟨e, he⟩ := succeeds_lowerExpr hresolved
  refine ⟨⟨e, he⟩, ⟨?_, fun hnames ↦ ⟨e, he, ?_⟩⟩, htext, ?_, fun hnot ↦ ?_⟩
  · rintro ⟨a, ha, hne⟩ v hv hname
    exact hne ((text_lowerExpr_eq_nil_iff ha).2 ⟨v, hv, hname⟩)
  · rw [Ne, text_lowerExpr_eq_nil_iff he]
    rintro ⟨v, hv, hname⟩
    exact hnames v hv hname
  · rintro b rfl
    rwa [lowerStmt] at htext
  · exact (goesOn_lowerStmt n).outcome_eq (mt hstmt.1 hnot)

namespace UnnamedVariable

/-- A function that prints a variable without a name, and calls something with no argument. -/
def document (method : Value) : List (Text × Value) :=
  [("name", .string "f"),
    ("variables", .list [.ofFields [("name", .string ""), ("type", .string "I4")]]),
    ("body", .ofContainer "Normal" "body" [("only",
      [.ofOperation "call" [("args", .list [.ofOperation "ldloc" [("var", .string "")]])],
        .ofOperation "call" [("args", .list []), ("method", method)]])])]

/-- The variable. -/
def unnamed : Variable := ⟨[], .i4, some 0⟩

/-- The function that is loaded. -/
def function (method : Value) : Function :=
  ⟨"f", [unnamed], .container ⟨0, .normal, .string "body"⟩ [⟨⟨1, .controlFlow, .string "only"⟩,
    [.call [.load unnamed] (.string "print"), .call [] method]⟩]⟩

/-- An integer with one digit more than can be written. -/
def long : Value := .int (Int.ofNat (Nat.pow 10 maxDigits))

theorem isLoaded_print : (function (.string "print")).IsLoaded := by
  obtain ⟨w, h⟩ : ∃ w, Build.buildFunction .standard (.object (document (.string "print")))
      .empty = .ok (function (.string "print")) w :=
    Build.buildFunction_eq_ok 10 (by decide) rfl rfl rfl rfl rfl rfl
  exact .byItself h

theorem isLoaded_long : (function long).IsLoaded := by
  obtain ⟨w, h⟩ : ∃ w, Build.buildFunction .standard (.object (document long)) .empty =
      .ok (function long) w :=
    Build.buildFunction_eq_ok 10 (by decide) rfl rfl rfl rfl rfl rfl
  exact .byItself h

end UnnamedVariable

open UnnamedVariable in
/-- A load of a variable without a name gives the empty text, and the call that prints it and all
around it give a text all the same. -/
theorem givesText_of_unnamed :
    (function (.string "print")).IsLoaded ∧
      Node.load unnamed ∈ (function (.string "print")).body.nodes ∧
      ¬GivesText Expr.text (lowerExpr .bestEffort (.load unnamed)) ∧
      GivesText Stmt.text (lowerStmt .bestEffort (function (.string "print")).body) := by
  obtain ⟨-, hnodes⟩ := givesText_iff isLoaded_print
  have hload : Node.load unnamed ∈ (function (.string "print")).body.nodes := by
    simp [function, Node.nodes, Node.nodesOfBlocks, Node.nodesOfBlock, Node.nodesOfAll]
  have hbody : (function (.string "print")).body ∈ (function (.string "print")).body.nodes := by
    simp [function, Node.nodes]
  obtain ⟨-, hempty, -⟩ := hnodes _ hload
  obtain ⟨-, -, htext, -⟩ := hnodes _ hbody
  refine ⟨isLoaded_print, hload, fun h ↦ hempty.1 h unnamed rfl rfl, htext.2 ?_⟩
  refine Node.hasDiagnostics_iff.2 ⟨trivial, List.forall_mem_singleton.2 ?_⟩
  refine Node.hasDiagnostics_iff.2 ⟨trivial, List.forall_mem_cons.2 ⟨?_,
    List.forall_mem_singleton.2 ?_⟩⟩
  · exact Node.hasDiagnostics_iff.2 ⟨.inl rfl, List.forall_mem_nil _⟩
  · exact Node.hasDiagnostics_iff.2 ⟨.inr rfl, List.forall_mem_nil _⟩

open UnnamedVariable in
/-- **Nodes that best effort gives no text for.** The text of a load of a variable without a name is
empty. A call with no argument and an integer for what it calls is not gone on from, if the integer
is too long. -/
theorem no_text_of_unnamed : (function long).IsLoaded ∧
    Node.load unnamed ∈ (function long).body.nodes ∧
    (∃ e, (lowerExpr .bestEffort (.load unnamed)).outcome = .ok e ∧ e.text = []) ∧
    Node.call [] long ∈ (function long).body.nodes ∧
    (lowerStmt .bestEffort (.call [] long)).outcome = .error .integerTooLong := by
  have hint (n : Nat) : (Value.int (Int.ofNat n)).isShowable = decide (n < Nat.pow 10 maxDigits) :=
    rfl
  have hlong : long.isShowable = false := (hint _).trans (decide_eq_false (Nat.lt_irrefl _))
  have hcall : ¬(Unsupported.call long 0).isWritable = true := by
    simp [Unsupported.isWritable, hlong]
  refine ⟨isLoaded_long, ?_, ⟨_, rfl, rfl⟩, ?_, ?_⟩
  · simp [function, Node.nodes, Node.nodesOfBlocks, Node.nodesOfBlock, Node.nodesOfAll]
  · simp [function, Node.nodes, Node.nodesOfBlocks, Node.nodesOfBlock, Node.nodesOfAll]
  · show (Stmt.diagnostic <$> recover .bestEffort (.call long 0)).outcome = _
    rw [recover, if_neg hcall]
    rfl

end C

end StructuredIL
