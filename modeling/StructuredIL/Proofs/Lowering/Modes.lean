import StructuredIL.Proofs.Lowering.Rules
import StructuredIL.Proofs.Tree.Nodes

/-!
# The two modes of a lowering

Strict mode ends at the first thing that is not supported, and best-effort mode warns of it and goes
on. So strict mode gives a text exactly where the other mode is silent, and then the same text; and
where the other mode warns, strict mode ends with the diagnostic that the first warning shows
(`C.generate_strict_iff`).

`C.Accord` says this of a lowering in both modes, whatever it makes. It is kept by doing one
lowering after the other (`C.Accord.bind`): if the first one warns, its first warning is the first
of both, and strict mode does not come to the second. So it is enough to look at `C.recover`, the
one place where the modes differ, and the rest follows the tree.

What is asked of a function is only that its diagnostics can be written, which an integer of
thousands of digits would prevent: its constants have 32 bits, and its labels and methods are texts
(`Function.IsOrdinary`). That best effort does not end for what is not supported is so for every
function (`C.goesOn_written`).
-/

namespace StructuredIL

/-- A function whose constants have 32 bits and whose labels and methods are texts. -/
def Function.IsOrdinary (f : Function) : Prop := ∀ n ∈ f.body.nodes, n.IsOrdinary

namespace C

variable {α β : Type}

/-! ### Agreement -/

/-- The first warning of a log. -/
def firstWarning? (log : List Record) : Option Record := log.find? fun r ↦ r.level == .warning

/-- A lowering whose modes agree. Best effort succeeds; if it is silent, strict mode gives the same,
and if it warns, strict mode ends with the diagnostic that the first warning shows. -/
inductive Accord (x : Mode → Lower α) : Prop
  | silent (a : α) (best : (x .bestEffort).outcome = .ok a)
      (log : firstWarning? (x .bestEffort).log = none) (strict : (x .strict).outcome = .ok a)
  | warned (a : α) (r : Record) (u : Unsupported) (best : (x .bestEffort).outcome = .ok a)
      (log : firstWarning? (x .bestEffort).log = some r)
      (strict : (x .strict).outcome = .error (.unsupported u)) (text : u.diagnostic = r.text)

theorem accord_pure (a : α) : Accord fun _ ↦ (pure a : Lower α) := .silent a rfl rfl rfl

theorem accord_say {level : Level} {component : Component} {text : Text} (h : level ≠ .warning) :
    Accord fun _ ↦ (Logged.say level component text : Lower Unit) := by
  refine .silent () rfl ?_ rfl
  simp [Logged.say, firstWarning?, h]

/-- What is not supported is warned of in one mode and ends the other. -/
theorem accord_recover (u : Unsupported) (h : u.isWritable) : Accord (recover · u) := by
  have hbest : recover .bestEffort u =
      ⟨.ok u.diagnostic, [⟨.warning, .generator, u.diagnostic⟩]⟩ := by
    rw [recover, if_pos h]
    rfl
  have hstrict : recover .strict u = .fail (.unsupported u) := by rw [recover, if_pos h]
  exact .warned u.diagnostic ⟨.warning, .generator, u.diagnostic⟩ u (by rw [hbest])
    (by rw [hbest]; rfl) (by rw [hstrict]; rfl) rfl

/-- **One lowering after the other.** A warning of the first one comes before all of the second. -/
theorem Accord.bind {x : Mode → Lower α} {f : Mode → α → Lower β} (hx : Accord x)
    (hf : ∀ a, Accord (f · a)) : Accord fun mode ↦ x mode >>= f mode := by
  have hlog : ∀ a, (x .bestEffort).outcome = .ok a →
      firstWarning? (x .bestEffort >>= f .bestEffort).log =
        (firstWarning? (x .bestEffort).log).or (firstWarning? (f .bestEffort a).log) := by
    intro a ha
    rw [Logged.log_bind_ok ha, firstWarning?, List.find?_append]
    rfl
  have hok : ∀ mode a, (x mode).outcome = .ok a →
      (x mode >>= f mode).outcome = (f mode a).outcome := by
    intro mode a ha
    rw [Logged.bind_of_ok ha]
  cases hx with
  | silent a hbest hnone hstrict =>
    have hnext : firstWarning? (x .bestEffort >>= f .bestEffort).log =
        firstWarning? (f .bestEffort a).log := by rw [hlog a hbest, hnone, Option.none_or]
    cases hf a with
    | silent b hbest' hnone' hstrict' =>
      exact .silent b ((hok _ a hbest).trans hbest') (hnext.trans hnone')
        ((hok _ a hstrict).trans hstrict')
    | warned b r u hbest' hsome' hstrict' htext =>
      exact .warned b r u ((hok _ a hbest).trans hbest') (hnext.trans hsome')
        ((hok _ a hstrict).trans hstrict') htext
  | warned a r u hbest hsome hstrict htext =>
    -- strict mode has ended before the second lowering, whatever comes of that in the other mode
    obtain ⟨b, hb⟩ : ∃ b, (f .bestEffort a).outcome = .ok b := by
      cases hf a with
      | silent b hb => exact ⟨b, hb⟩
      | warned b _ _ hb => exact ⟨b, hb⟩
    refine .warned b r u ((hok _ a hbest).trans hb) ?_ ?_ htext
    · rw [hlog a hbest, hsome, Option.some_or]
    · rw [Logged.bind_of_error hstrict]

theorem Accord.map {x : Mode → Lower α} (hx : Accord x) (f : α → β) :
    Accord fun mode ↦ f <$> x mode := by
  have hmap : (fun mode ↦ f <$> x mode) = fun mode ↦ x mode >>= fun a ↦ pure (f a) :=
    funext fun mode ↦ map_eq_pure_bind f (x mode)
  rw [hmap]
  exact hx.bind fun a ↦ accord_pure (f a)

theorem Accord.mapM {f : Mode → α → Lower β} {as : List α} (h : ∀ a ∈ as, Accord (f · a)) :
    Accord fun mode ↦ as.mapM (f mode) := by
  induction as with
  | nil => exact accord_pure []
  | cons a as ih =>
    simp only [List.mapM_cons]
    refine (h a (List.mem_cons_self ..)).bind fun b ↦ ?_
    refine (ih fun c hc ↦ h c (List.mem_cons_of_mem a hc)).bind fun bs ↦ accord_pure (b :: bs)

/-! ### Expressions -/

theorem accord_lowerExpr {n : Node} (h : ∀ m ∈ n.nodes, m.IsOrdinary) : Accord (lowerExpr · n) := by
  refine lowerExpr_induction (motive := fun n x ↦ (∀ m ∈ n.nodes, m.IsOrdinary) → Accord x)
    ?constant ?tooLong ?load ?relation ?sum ?comparison ?operator ?other n h
  case constant => exact fun _ _ _ ↦ accord_pure _
  case tooLong =>
    intro value hlong h
    have hordinary := Node.isWritable_of_int32 (Node.forall_nodes_iff.1 h).1
    cases hlong.symm.trans hordinary
  case load => exact fun _ _ ↦ accord_pure _
  case relation =>
    intro kind rel l r _ ihl ihr h
    obtain ⟨-, hbelow⟩ := Node.forall_nodes_iff.1 h
    refine (ihl (hbelow l (by simp [Node.children]))).bind fun a ↦ ?_
    exact (ihr (hbelow r (by simp [Node.children]))).map _
  case sum =>
    intro l r ihl ihr h
    obtain ⟨-, hbelow⟩ := Node.forall_nodes_iff.1 h
    refine (ihl (hbelow l (by simp [Node.children]))).bind fun a ↦ ?_
    exact (ihr (hbelow r (by simp [Node.children]))).map _
  case comparison | operator | other =>
    intros
    exact (accord_recover _ rfl).map _

/-! ### Statements -/

theorem accord_lowerAll {ns : List Node} (h : ∀ n ∈ ns, Accord (lowerStmt · n)) :
    Accord (lowerAll · ns) := by
  simp only [lowerAll_eq_mapM]
  exact Accord.mapM h

theorem accord_lowerStmt {n : Node} (h : ∀ m ∈ n.nodes, m.IsOrdinary) : Accord (lowerStmt · n) := by
  refine lowerStmt_induction (motive := fun n x ↦ (∀ m ∈ n.nodes, m.IsOrdinary) → Accord x)
    ?store ?branch ?ifThen ?ifElse ?print ?exitLoop ?exitFunction ?sequence ?loop ?scope
    ?call ?leave ?block ?container ?other n h
  case store =>
    intro v value h
    obtain ⟨-, hbelow⟩ := Node.forall_nodes_iff.1 h
    exact (accord_lowerExpr (hbelow value (by simp [Node.children]))).map _
  case branch => exact fun _ _ ↦ accord_pure _
  case ifThen =>
    intro c yes no _ ihyes h
    obtain ⟨-, hbelow⟩ := Node.forall_nodes_iff.1 h
    refine (accord_lowerExpr (hbelow c (by simp [Node.children]))).bind fun e ↦ ?_
    exact (ihyes (hbelow yes (by simp [Node.children]))).map _
  case ifElse =>
    intro c yes no _ ihyes ihno h
    obtain ⟨-, hbelow⟩ := Node.forall_nodes_iff.1 h
    refine (accord_lowerExpr (hbelow c (by simp [Node.children]))).bind fun e ↦ ?_
    refine (ihyes (hbelow yes (by simp [Node.children]))).bind fun s ↦ ?_
    exact (ihno (hbelow no (by simp [Node.children]))).map _
  case print =>
    intro argument method h
    obtain ⟨-, hbelow⟩ := Node.forall_nodes_iff.1 h
    exact (accord_lowerExpr (hbelow argument (List.mem_singleton_self _))).map _
  case exitLoop | exitFunction => exact fun _ _ _ _ ↦ accord_pure _
  case sequence | loop | scope =>
    intro head parts _ ih h
    obtain ⟨-, hbelow⟩ := Node.forall_nodes_iff.1 h
    exact (accord_lowerAll fun c hc ↦ ih c hc (hbelow c hc)).map _
  case call =>
    intro arguments method _ h
    obtain ⟨t, rfl⟩ := (Node.forall_nodes_iff.1 h).1
    exact (accord_recover (.call (.string t) _) (Value.isShowable_string t)).map _
  case leave =>
    intro target value _ _ h
    have hvalue : value.isWritable :=
      Node.isWritable_of_isOrdinary
        ((Node.forall_nodes_iff.1 h).2 value (List.mem_singleton_self _))
    exact (accord_recover (.leave target.kind value) hvalue).map _
  case block | container | other =>
    intros
    exact (accord_recover _ rfl).map _

/-! ### Functions -/

theorem accord_lowerDeclaration (v : Variable) : Accord (lowerDeclaration · v) := by
  simp only [lowerDeclaration]
  cases typeOf? v.type with
  | some type => exact accord_pure _
  | none => exact (accord_recover _ rfl).map _

theorem accord_generate {f : Function} (h : f.IsOrdinary) : Accord (generate · f) := by
  have hfile : Accord (lowerFunction · f) := by
    simp only [lowerFunction]
    refine (accord_say (by decide)).bind fun _ ↦ ?_
    refine (Accord.mapM fun v _ ↦ accord_lowerDeclaration v).bind fun declarations ↦ ?_
    exact (accord_lowerStmt h).bind fun body ↦ accord_pure _
  exact hfile.bind fun file ↦ accord_pure _

/-- **The modes agree.** Best effort always gives a text. Strict mode gives a text exactly if the
other mode warns of nothing, and it is the same one. If the other mode warns, strict mode ends, and
the diagnostic that it ends with is the text of the first warning. -/
theorem generate_strict_iff {f : Function} (h : f.IsOrdinary) :
    ∃ text, (generate .bestEffort f).outcome = .ok text ∧
      ((∃ t, (generate .strict f).outcome = .ok t) ↔
        ∀ r ∈ (generate .bestEffort f).log, r.level ≠ .warning) ∧
      (∀ t, (generate .strict f).outcome = .ok t → t = text) ∧
      ((∀ t, (generate .strict f).outcome ≠ .ok t) →
        ∃ u r, (generate .strict f).outcome = .error (.unsupported u) ∧
          (generate .bestEffort f).log.find? (fun r ↦ r.level == .warning) = some r ∧
          u.diagnostic = r.text) := by
  have hsilent : firstWarning? (generate .bestEffort f).log = none ↔
      ∀ r ∈ (generate .bestEffort f).log, r.level ≠ .warning := by
    simp [firstWarning?]
  cases accord_generate h with
  | silent text hbest hnone hstrict =>
    refine ⟨text, hbest, iff_of_true ⟨text, hstrict⟩ (hsilent.1 hnone), fun t ht ↦ ?_, fun hno ↦ ?_⟩
    · exact Except.ok.inj (ht.symm.trans hstrict)
    · exact absurd hstrict (hno text)
  | warned text r u hbest hsome hstrict htext =>
    refine ⟨text, hbest, iff_of_false ?_ ?_, fun t ht ↦ ?_, fun _ ↦ ⟨u, r, hstrict, hsome, htext⟩⟩
    · rintro ⟨t, ht⟩
      cases hstrict.symm.trans ht
    · intro hall
      cases hsome.symm.trans (hsilent.2 hall)
    · cases hstrict.symm.trans ht

namespace TwoWarnings

/-- The variable of the function, of a type that has no counterpart. -/
def half : Variable := ⟨"half", .r8, some 0⟩

/-- A loop in which the variable is halved, so that there are two things to warn of. -/
def function : Function :=
  ⟨"Main", [half], .container ⟨0, .loop, .string "loop"⟩
    [⟨⟨1, .controlFlow, .string "head"⟩,
      [.store half (.binary .div (.load half) (.constant 2)),
        .leave ⟨0, .loop, .string "loop"⟩ .nop]⟩]⟩

end TwoWarnings

open TwoWarnings in
/-- Of two warnings, strict mode ends with the first. -/
theorem generate_strict_of_two_warnings : ∃ u,
    (generate .strict function).outcome = .error (.unsupported u) ∧
      u.diagnostic = "Error: variable type R8 half" ∧
      ((generate .bestEffort function).log.filter (·.level == .warning)).map Record.text =
        ["Error: variable type R8 half", "Error: binary operator DIV"] := by
  have hordinary : function.IsOrdinary := by
    simp [Function.IsOrdinary, function, Node.nodes, Node.nodesOfBlocks, Node.nodesOfBlock,
      Node.nodesOfAll, Node.IsOrdinary, Build.minInt32, Build.maxInt32]
  obtain ⟨text, -, -, -, hwarned⟩ := generate_strict_iff hordinary
  obtain ⟨u, r, hstrict, hfirst, htext⟩ := hwarned (by rintro _ ⟨⟩)
  cases hfirst
  exact ⟨u, hstrict, htext, rfl⟩

/-! ### Going on -/

/-- A lowering that does not end for what is not supported. -/
def GoesOn (x : Lower α) : Prop := ∀ u, x.outcome ≠ .error (.unsupported u)

theorem goesOn_pure (a : α) : GoesOn (pure a : Lower α) := nofun

theorem goesOn_recover (u : Unsupported) : GoesOn (recover .bestEffort u) := by
  rw [recover]
  split
  · exact nofun
  · exact nofun

theorem GoesOn.bind {x : Lower α} {f : α → Lower β} (hx : GoesOn x) (hf : ∀ a, GoesOn (f a)) :
    GoesOn (x >>= f) := by
  intro u hu
  cases ha : x.outcome with
  | ok a =>
    rw [Logged.bind_of_ok ha] at hu
    exact hf a u hu
  | error e =>
    rw [Logged.bind_of_error ha] at hu
    cases hu
    exact hx u ha

theorem GoesOn.map {x : Lower α} (hx : GoesOn x) (f : α → β) : GoesOn (f <$> x) := by
  rw [map_eq_pure_bind]
  exact hx.bind fun a ↦ goesOn_pure (f a)

theorem goesOn_mapM {f : α → Lower β} {as : List α} (h : ∀ a ∈ as, GoesOn (f a)) :
    GoesOn (as.mapM f) := by
  induction as with
  | nil => exact goesOn_pure []
  | cons a as ih =>
    rw [List.mapM_cons]
    refine (h a (List.mem_cons_self ..)).bind fun b ↦ ?_
    exact (ih fun c hc ↦ h c (List.mem_cons_of_mem a hc)).bind fun bs ↦ goesOn_pure (b :: bs)

theorem goesOn_lowerExpr (n : Node) : GoesOn (lowerExpr .bestEffort n) := by
  refine lowerExpr_induction (motive := fun _ x ↦ GoesOn (x .bestEffort))
    ?constant ?tooLong ?load ?relation ?sum ?comparison ?operator ?other n
  case constant => exact fun _ _ ↦ goesOn_pure _
  case tooLong =>
    rintro _ _ _ ⟨⟩
  case load => exact fun _ ↦ goesOn_pure _
  case relation => exact fun _ _ _ _ _ ihl ihr ↦ ihl.bind fun a ↦ ihr.map _
  case sum => exact fun _ _ ihl ihr ↦ ihl.bind fun a ↦ ihr.map _
  case comparison | operator | other =>
    intros
    exact (goesOn_recover _).map _

theorem goesOn_lowerAll {ns : List Node} (h : ∀ n ∈ ns, GoesOn (lowerStmt .bestEffort n)) :
    GoesOn (lowerAll .bestEffort ns) := by
  rw [lowerAll_eq_mapM]
  exact goesOn_mapM h

theorem goesOn_lowerStmt (n : Node) : GoesOn (lowerStmt .bestEffort n) := by
  refine lowerStmt_induction (motive := fun _ x ↦ GoesOn (x .bestEffort))
    ?store ?branch ?ifThen ?ifElse ?print ?exitLoop ?exitFunction ?sequence ?loop ?scope
    ?call ?leave ?block ?container ?other n
  case store => exact fun _ value ↦ (goesOn_lowerExpr value).map _
  case branch => exact fun _ ↦ goesOn_pure _
  case ifThen => exact fun c _ _ _ ihyes ↦ (goesOn_lowerExpr c).bind fun e ↦ ihyes.map _
  case ifElse =>
    exact fun c _ _ _ ihyes ihno ↦
      (goesOn_lowerExpr c).bind fun e ↦ ihyes.bind fun s ↦ ihno.map _
  case print => exact fun argument _ ↦ (goesOn_lowerExpr argument).map _
  case exitLoop | exitFunction => exact fun _ _ _ ↦ goesOn_pure _
  case sequence | loop | scope => exact fun _ _ _ ih ↦ (goesOn_lowerAll ih).map _
  case call | leave | block | container | other =>
    intros
    exact (goesOn_recover _).map _

/-- **Best effort never gives up** on what is not supported. -/
theorem goesOn_written (f : Function) : GoesOn (written .bestEffort f) := by
  have hdeclaration (v : Variable) : GoesOn (lowerDeclaration .bestEffort v) := by
    rw [lowerDeclaration]
    split
    · exact goesOn_pure _
    · exact (goesOn_recover _).map _
  have hfile : GoesOn (lowerFunction .bestEffort f) := by
    have hsay : GoesOn (.say .debug .generator ("Generating C for " ++ f.name)) := by
      rintro _ ⟨⟩
    refine hsay.bind fun _ ↦ (goesOn_mapM fun v _ ↦ hdeclaration v).bind fun ds ↦ ?_
    exact (goesOn_lowerStmt f.body).bind fun body ↦ goesOn_pure _
  exact (hfile.bind fun file ↦ goesOn_pure _).bind fun text ↦ goesOn_pure _

end C

end StructuredIL
