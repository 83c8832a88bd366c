import StructuredIL.Proofs.Lowering.Recursion

/-!
# Lowering as a relation

A lowering is clean if it succeeds and nothing in its result is a diagnostic. In strict mode every
lowering that succeeds is clean, since what is not supported ends it; the other mode puts
a diagnostic in its place, and a warning into the log (`C.IsClean`).

A tree is lowered cleanly if every node of it that is lowered has a counterpart in C. So what comes
of it can be told by rules, one for each kind of node that has a counterpart: `Node.IsExpr` relates
a node to the expression, and `Node.IsStmt` to the statement, that it is lowered to. There is no
rule for a diagnostic, and there is none for a node without a counterpart. What is said of cleanly
lowered code is proved by induction over these rules.
-/

namespace StructuredIL

open C

/-! ### The rules -/

/-- A node in the place of an expression, and what it is lowered to. -/
inductive Node.IsExpr : Node → Expr → Prop
  | constant {value : Int} : StructuredIL.isWritable value →
      IsExpr (.constant value) (.constant value)
  | load {v : Variable} : IsExpr (.load v) (.variableName v.name)
  | compare {kind : ComparisonKind} {rel : Relation} {l r : Node} {a b : Expr} :
      relationOf? kind = some rel → IsExpr l a → IsExpr r b →
      IsExpr (.compare kind l r) (.relation rel a b)
  | add {l r : Node} {a b : Expr} : IsExpr l a → IsExpr r b →
      IsExpr (.binary .add l r) (.sum a b)

/-- A node in the place of a statement, and what it is lowered to. -/
inductive Node.IsStmt : Node → Stmt → Prop
  | store {v : Variable} {value : Node} {e : Expr} : value.IsExpr e →
      IsStmt (.store v value) (.assign v.name e)
  | branch {target : BlockHead} : IsStmt (.branch target) .nextRound
  | ifThen {c yes no : Node} {e : Expr} {s : Stmt} : c.IsExpr e → IsStmt yes s →
      no.isEmptyStatement = true → IsStmt (.cond c yes no) (.ifThen e s)
  | ifElse {c yes no : Node} {e : Expr} {s t : Stmt} : c.IsExpr e → IsStmt yes s → IsStmt no t →
      no.isEmptyStatement = false → IsStmt (.cond c yes no) (.ifElse e s t)
  | print {argument : Node} {method : Value} {e : Expr} : argument.IsExpr e →
      IsStmt (.call [argument] method) (.print e)
  | exitLoop {target : ContainerHead} {value : Node} : target.kind = .loop →
      IsStmt (.leave target value) .exitLoop
  | exitFunction {target : ContainerHead} {value : Node} : target.kind = .normal →
      IsStmt (.leave target value) .exitFunction
  | block {head : BlockHead} {instructions : List Node} {parts : List Stmt} :
      head.kind = .controlFlow → List.Forall₂ IsStmt instructions parts →
      IsStmt (.block ⟨head, instructions⟩) (.sequence parts)
  | loop {head : ContainerHead} {blocks : List Block} {parts : List Stmt} :
      head.kind = .loop → List.Forall₂ IsStmt (blocks.map .block) parts →
      IsStmt (.container head blocks) (.loop parts)
  | scope {head : ContainerHead} {blocks : List Block} {parts : List Stmt} :
      head.kind = .normal → List.Forall₂ IsStmt (blocks.map .block) parts →
      IsStmt (.container head blocks) (.scope parts)

/-- Induction over the rules for statements: what is shown of the parts of a block or a container is
given part by part. -/
theorem Node.IsStmt.induction {motive : Node → Stmt → Prop}
    (store : ∀ v value e, value.IsExpr e → motive (.store v value) (.assign v.name e))
    (branch : ∀ target, motive (.branch target) .nextRound)
    (ifThen : ∀ c yes no e s, c.IsExpr e → no.isEmptyStatement = true → motive yes s →
      motive (.cond c yes no) (.ifThen e s))
    (ifElse : ∀ c yes no e s t, c.IsExpr e → no.isEmptyStatement = false → motive yes s →
      motive no t → motive (.cond c yes no) (.ifElse e s t))
    (print : ∀ argument method e, argument.IsExpr e → motive (.call [argument] method) (.print e))
    (exitLoop : ∀ target value, target.kind = .loop → motive (.leave target value) .exitLoop)
    (exitFunction : ∀ target value, target.kind = .normal →
      motive (.leave target value) .exitFunction)
    (block : ∀ head instructions parts, List.Forall₂ motive instructions parts →
      motive (.block ⟨head, instructions⟩) (.sequence parts))
    (loop : ∀ head blocks parts, head.kind = .loop →
      List.Forall₂ motive (blocks.map .block) parts → motive (.container head blocks) (.loop parts))
    (scope : ∀ head blocks parts, head.kind = .normal →
      List.Forall₂ motive (blocks.map .block) parts →
      motive (.container head blocks) (.scope parts))
    {n : Node} {s : Stmt} (h : n.IsStmt s) : motive n s := by
  refine @Node.IsStmt.rec (fun n s _ ↦ motive n s) (fun ns ss _ ↦ List.Forall₂ motive ns ss)
    (fun he ↦ store _ _ _ he) (branch _) (fun he _ hno ih ↦ ifThen _ _ _ _ _ he hno ih)
    (fun he _ _ hno ihs iht ↦ ifElse _ _ _ _ _ _ he hno ihs iht)
    (fun he ↦ print _ _ _ he) (fun hk ↦ exitLoop _ _ hk) (fun hk ↦ exitFunction _ _ hk)
    (fun _ _ ih ↦ block _ _ _ ih) (fun hk _ ih ↦ loop _ _ _ hk ih)
    (fun hk _ ih ↦ scope _ _ _ hk ih) .nil (fun _ _ ihn ih ↦ .cons ihn ih) n s h

namespace C

/-! ### Clean lowerings -/

/-- A lowering that succeeds without a diagnostic: in strict mode any that succeeds, in the other
one that warns of nothing. -/
structure IsClean {α : Type} (mode : Mode) (x : Lower α) (a : α) : Prop where
  /-- It succeeds. -/
  outcome : x.outcome = .ok a
  /-- It warns of nothing, where it could. -/
  silent : mode = .bestEffort → ∀ r ∈ x.log, r.level ≠ .warning

section Clean

variable {α β : Type} {mode : Mode} {x : Lower α} {a a' : α} {b : β}

theorem isClean_strict : IsClean .strict x a ↔ x.outcome = .ok a :=
  ⟨IsClean.outcome, fun h ↦ ⟨h, nofun⟩⟩

theorem isClean_pure : IsClean mode (pure a : Lower α) a' ↔ a = a' := by
  constructor
  · intro h
    exact Except.ok.inj h.outcome
  · rintro rfl
    exact ⟨rfl, fun _ r hr ↦ absurd hr List.not_mem_nil⟩

/-- The log of two lowerings is that of the first and then that of the second, so neither may warn
of anything. -/
theorem isClean_bind {f : α → Lower β} :
    IsClean mode (x >>= f) b ↔ ∃ a, IsClean mode x a ∧ IsClean mode (f a) b := by
  cases hx : x.outcome with
  | ok a =>
    rw [Logged.bind_of_ok hx]
    constructor
    · rintro ⟨houtcome, hsilent⟩
      refine ⟨a, ⟨hx, fun hmode r hr ↦ ?_⟩, ⟨houtcome, fun hmode r hr ↦ ?_⟩⟩
      · exact hsilent hmode r (List.mem_append_left _ hr)
      · exact hsilent hmode r (List.mem_append_right _ hr)
    · rintro ⟨a', hclean, hnext⟩
      obtain rfl : a = a' := Except.ok.inj (hx.symm.trans hclean.outcome)
      refine ⟨hnext.outcome, fun hmode r hr ↦ ?_⟩
      rcases List.mem_append.1 hr with hr | hr
      · exact hclean.silent hmode r hr
      · exact hnext.silent hmode r hr
  | error e =>
    rw [Logged.bind_of_error hx]
    constructor
    · intro h
      cases h.outcome
    · rintro ⟨a, hclean, -⟩
      cases hx.symm.trans hclean.outcome

theorem isClean_map {f : α → β} :
    IsClean mode (f <$> x) b ↔ ∃ a, IsClean mode x a ∧ f a = b := by
  rw [map_eq_pure_bind, isClean_bind]
  exact exists_congr fun a ↦ and_congr_right' isClean_pure

/-- A list is lowered cleanly if each of its parts is. -/
theorem isClean_mapM {f : α → Lower β} {as : List α} {bs : List β} :
    IsClean mode (as.mapM f) bs ↔ List.Forall₂ (fun a b ↦ IsClean mode (f a) b) as bs := by
  induction as generalizing bs with
  | nil => rw [List.mapM_nil, isClean_pure, List.forall₂_nil_left_iff, eq_comm]
  | cons a as ih =>
    rw [List.mapM_cons, List.forall₂_cons_left_iff]
    constructor
    · intro h
      obtain ⟨b, hb, h⟩ := isClean_bind.1 h
      obtain ⟨rest, hrest, h⟩ := isClean_bind.1 h
      obtain rfl := isClean_pure.1 h
      exact ⟨b, rest, hb, ih.1 hrest, rfl⟩
    · rintro ⟨b, rest, hb, hrest, rfl⟩
      exact isClean_bind.2 ⟨b, hb, isClean_bind.2 ⟨rest, ih.2 hrest, isClean_pure.2 rfl⟩⟩

/-- What is not supported is not lowered cleanly: strict mode fails, the other one warns. -/
theorem not_isClean_recover {u : Unsupported} {t : Text} : ¬ IsClean mode (recover mode u) t := by
  intro h
  obtain ⟨houtcome, hsilent⟩ := h
  rw [recover.eq_def] at houtcome hsilent
  split at houtcome
  · rw [if_pos ‹_›] at hsilent
    cases mode with
    | strict => cases houtcome
    | bestEffort => exact hsilent rfl _ (List.mem_singleton_self _) rfl
  · cases houtcome

theorem not_isClean_map_recover {u : Unsupported} {f : Text → α} :
    ¬ IsClean mode (f <$> recover mode u) a := by
  intro h
  obtain ⟨t, ht, -⟩ := isClean_map.1 h
  exact not_isClean_recover ht

end Clean

/-! ### Clean lowering follows the rules -/

variable {mode : Mode}

theorem isExpr_of_lowerExpr {n : Node} {e : Expr} (h : IsClean mode (lowerExpr mode n) e) :
    n.IsExpr e := by
  refine lowerExpr_induction (motive := fun n x ↦ ∀ e, IsClean mode (x mode) e → n.IsExpr e)
    ?constant ?tooLong ?load ?relation ?sum ?comparison ?operator ?other n e h
  case constant =>
    intro value hvalue e h
    obtain rfl := isClean_pure.1 h
    exact .constant hvalue
  case tooLong =>
    intro value _ e h
    cases h.outcome
  case load =>
    intro v e h
    obtain rfl := isClean_pure.1 h
    exact .load
  case relation =>
    intro kind rel l r hrel ihl ihr e h
    obtain ⟨a, ha, h⟩ := isClean_bind.1 h
    obtain ⟨b, hb, rfl⟩ := isClean_map.1 h
    exact .compare hrel (ihl a ha) (ihr b hb)
  case sum =>
    intro l r ihl ihr e h
    obtain ⟨a, ha, h⟩ := isClean_bind.1 h
    obtain ⟨b, hb, rfl⟩ := isClean_map.1 h
    exact .add (ihl a ha) (ihr b hb)
  -- there is no rule without a counterpart in C, and no result either
  case comparison | operator | other =>
    intros
    exact absurd ‹_› not_isClean_map_recover

theorem forall₂_isStmt_of_lowerAll {ns : List Node} {ss : List Stmt}
    (ih : ∀ n ∈ ns, ∀ s, IsClean mode (lowerStmt mode n) s → n.IsStmt s)
    (h : IsClean mode (lowerAll mode ns) ss) : List.Forall₂ Node.IsStmt ns ss := by
  rw [lowerAll_eq_mapM] at h
  have hall := (List.forall₂_and_left ns ss).2 ⟨ih, isClean_mapM.1 h⟩
  exact hall.imp fun _ s hn ↦ hn.1 s hn.2

theorem isStmt_of_lowerStmt {n : Node} {s : Stmt} (h : IsClean mode (lowerStmt mode n) s) :
    n.IsStmt s := by
  refine lowerStmt_induction (motive := fun n x ↦ ∀ s, IsClean mode (x mode) s → n.IsStmt s)
    ?store ?branch ?ifThen ?ifElse ?print ?exitLoop ?exitFunction ?sequence ?loop ?scope
    ?call ?leave ?block ?container ?other n s h
  case store =>
    intro v value s h
    obtain ⟨e, he, rfl⟩ := isClean_map.1 h
    exact .store (isExpr_of_lowerExpr he)
  case branch =>
    intro target s h
    obtain rfl := isClean_pure.1 h
    exact .branch
  case ifThen =>
    intro c yes no hempty ihyes s h
    obtain ⟨e, he, h⟩ := isClean_bind.1 h
    obtain ⟨t, ht, rfl⟩ := isClean_map.1 h
    exact .ifThen (isExpr_of_lowerExpr he) (ihyes t ht) hempty
  case ifElse =>
    intro c yes no hempty ihyes ihno s h
    obtain ⟨e, he, h⟩ := isClean_bind.1 h
    obtain ⟨t, ht, h⟩ := isClean_bind.1 h
    obtain ⟨u, hu, rfl⟩ := isClean_map.1 h
    exact .ifElse (isExpr_of_lowerExpr he) (ihyes t ht) (ihno u hu) hempty
  case print =>
    intro argument method s h
    obtain ⟨e, he, rfl⟩ := isClean_map.1 h
    exact .print (isExpr_of_lowerExpr he)
  case exitLoop =>
    intro target value hkind s h
    obtain rfl := isClean_pure.1 h
    exact .exitLoop hkind
  case exitFunction =>
    intro target value hkind s h
    obtain rfl := isClean_pure.1 h
    exact .exitFunction hkind
  case sequence =>
    intro head instructions hkind ih s h
    obtain ⟨parts, hparts, rfl⟩ := isClean_map.1 h
    exact .block hkind (forall₂_isStmt_of_lowerAll ih hparts)
  case loop =>
    intro head blocks hkind ih s h
    obtain ⟨parts, hparts, rfl⟩ := isClean_map.1 h
    exact .loop hkind (forall₂_isStmt_of_lowerAll ih hparts)
  case scope =>
    intro head blocks hkind ih s h
    obtain ⟨parts, hparts, rfl⟩ := isClean_map.1 h
    exact .scope hkind (forall₂_isStmt_of_lowerAll ih hparts)
  case call | leave | block | container | other =>
    intros
    exact absurd ‹_› not_isClean_map_recover

/-! ### Functions -/

theorem eq_declares_of_lowerDeclaration {v : Variable} {d : Declaration}
    (h : IsClean mode (lowerDeclaration mode v) d) :
    ∃ t, typeOf? v.type = some t ∧ d = .declares t v.name := by
  rw [lowerDeclaration] at h
  split at h
  · obtain rfl := isClean_pure.1 h
    exact ⟨_, ‹_›, rfl⟩
  · exact absurd h not_isClean_map_recover

/-- What a function is lowered to cleanly. -/
structure IsFile (f : Function) (file : SourceFile) : Prop where
  /-- The name is in small letters. -/
  name : file.name = Text.lower f.name
  /-- Each variable is declared with its type. -/
  declarations : List.Forall₂ (fun v d ↦ ∃ t, typeOf? v.type = some t ∧ d = .declares t v.name)
    f.locals file.declarations
  /-- The body is lowered by the rules. -/
  body : f.body.IsStmt file.body

theorem isFile_of_lowerFunction {f : Function} {file : SourceFile}
    (h : IsClean mode (lowerFunction mode f) file) : IsFile f file := by
  rw [lowerFunction] at h
  obtain ⟨_, _, h⟩ := isClean_bind.1 h
  obtain ⟨declarations, hdeclarations, h⟩ := isClean_bind.1 h
  obtain ⟨body, hbody, h⟩ := isClean_bind.1 h
  obtain rfl := isClean_pure.1 h
  refine ⟨rfl, (isClean_mapM.1 hdeclarations).imp fun _ _ hd ↦ ?_, isStmt_of_lowerStmt hbody⟩
  exact eq_declares_of_lowerDeclaration hd

end C

end StructuredIL
