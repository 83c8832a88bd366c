import StructuredIL.Proofs.C.Meaning
import StructuredIL.Proofs.Loading.Functions
import StructuredIL.Proofs.Lowering.Numbers

/-!
# The generated program does what the tree does

The text of a structured function is read back as a C program, and the two are run side by side
(`generate_preserves_runs`). Both print the same values, one is over if and when the other is, and
what the variables hold at the end is the same.

The two runs go through the same statements in the same order; what has to be watched is how control
leaves them. A tree names where it goes and C does not, so `Matches` says which ways of leaving are
the same for a statement among given containers. `continue` is a branch to the front of the
innermost loop, `break` a leave of it, and `return` a leave of the body, in a function whose body is
a scope. Containers take up the jumps that name them, and pass the others on; since no two
containers around a place have one number, none takes up a jump that is meant for another.

All values of a tree have 32 bits. In C the least constant is written with a type that has more, and
sums with it are of that type; they only lose what is in front when they are stored. So it is asked
that no such sum is compared or decides, and that none is printed (`Function.IsNarrow`), and without
that it fails (`sum_with_least_is_not_preserved`).
-/

namespace StructuredIL

open C

variable {locals : List Variable} {around : List OpenContainer} {n : Node} {e : Expr} {s : Stmt}
  {σ : Store} {τ : Memory}

/-! ### Stores and memories -/

/-- A store and a memory that hold the same in the variables of a function. -/
def Agree (locals : List Variable) (σ : Store) (τ : Memory) : Prop := ∀ v ∈ locals, σ v = τ v.name

/-- The variables of a function, as C declares them. -/
def declaredAs (locals : List Variable) : List (CType × Text) :=
  locals.map fun v ↦ ((typeOf? v.type).getD .int32, v.name)

theorem typeOf_declaredAs (hnodup : (locals.map Variable.name).Nodup) {v : Variable}
    (hv : v ∈ locals) : typeOf (declaredAs locals) v.name = (typeOf? v.type).getD .int32 := by
  have hfind : (declaredAs locals).find? (fun d ↦ d.2 == v.name) =
      some ((typeOf? v.type).getD .int32, v.name) := by
    rw [declaredAs, List.find?_map, Option.map_eq_some_iff]
    refine ⟨v, ?_, rfl⟩
    obtain ⟨w, hw⟩ : ∃ w, locals.find? ((fun d ↦ d.2 == v.name) ∘
        fun v ↦ ((typeOf? v.type).getD .int32, v.name)) = some w := by
      rw [← Option.isSome_iff_exists, List.find?_isSome]
      exact ⟨v, hv, beq_self_eq_true _⟩
    have hname : w.name = v.name := by simpa using List.find?_some hw
    obtain rfl : w = v := List.inj_on_of_nodup_map hnodup (List.mem_of_find?_eq_some hw) hv hname
    exact hw
  rw [typeOf, hfind]

/-- An assignment keeps the two in agreement: no other variable has the name. -/
theorem Agree.update (hnodup : (locals.map Variable.name).Nodup) (h : Agree locals σ τ)
    {v : Variable} (hv : v ∈ locals) (a : Int32) :
    Agree locals (Function.update σ v a) (Function.update τ v.name a) := by
  intro w hw
  by_cases hwv : w = v
  · subst hwv
    rw [Function.update_self, Function.update_self]
  · have hname : w.name ≠ v.name := fun heq ↦ hwv (List.inj_on_of_nodup_map hnodup hw hv heq)
    rw [Function.update_of_ne hwv, Function.update_of_ne hname]
    exact h w hw

/-! ### Expressions -/

/-- What a flat expression is read as represents its value. -/
theorem Node.IsExpr.exists_represents_of_agree (h : n.IsExpr e) (hflat : n.IsFlat)
    (hn : n.Resolved locals around) (hnarrow : ∀ m ∈ n.nodes, m.UsesNarrow)
    (hστ : Agree locals σ τ) :
    ∃ a b, n.value? σ = some a ∧ e.regrouped.number? τ = some b ∧ n.Represents a b := by
  have hcongr : n.value? σ = n.value? (τ ∘ Variable.name) := hn.value?_congr hστ
  rw [hcongr]
  exact h.exists_represents hflat hn hnarrow τ

/-- A condition is met if its value is not zero. -/
theorem Node.IsExpr.isTrue?_eq (h : n.IsExpr e) (hflat : n.IsFlat)
    (hn : n.Resolved locals around) (hnarrow : ∀ m ∈ n.nodes, m.UsesNarrow)
    (hστ : Agree locals σ τ) (hdecides : n.IsNarrow) :
    ∃ a, n.value? σ = some a ∧ e.regrouped.isTrue? τ = some (a != 0) := by
  obtain ⟨a, b, ha, hb, hrepresents⟩ := h.exists_represents_of_agree hflat hn hnarrow hστ
  refine ⟨a, ha, ?_⟩
  rw [Term.isTrue?, hb, Option.map_some, hrepresents.isTrue_eq hdecides]

/-- What is stored is what is assigned: only a comparison goes into a truth value. -/
theorem convert_eq {v : Variable} {value : Node} {a : Int32} {b : Number}
    (hvalue : value.value? σ = some a) (hb : value.Represents a b)
    (htype : v.type = .bool → value.isCompare = true) :
    ((typeOf? v.type).getD .int32).convert b = a := by
  by_cases hbool : v.type = .bool
  · cases value with
    | compare kind l r =>
      rw [hbool]
      show (if b.isTrue then 1 else 0) = a
      rw [hb.isTrue_eq trivial]
      rcases Node.value?_compare_eq_some hvalue with rfl | rfl <;> rfl
    | _ => cases htype hbool
  · cases htype : v.type with
    | bool => exact absurd htype hbool
    | _ => exact hb.stored

/-! ### The text is a program -/

theorem forall_of_forall₂ {α β : Type} {R : α → β → Prop} {P : β → Prop} {as : List α} {bs : List β}
    (h : List.Forall₂ R as bs) (hP : ∀ a ∈ as, ∀ b, R a b → P b) : ∀ b ∈ bs, P b := by
  induction h with
  | nil => exact nofun
  | cons hab _ ih =>
    obtain ⟨ha, has⟩ := List.forall_mem_cons.1 hP
    exact List.forall_mem_cons.2 ⟨ha _ hab, ih has⟩

/-- Whether there is a loop around. -/
def inLoop (around : List OpenContainer) : Bool := around.any fun c ↦ c.head.kind = .loop

theorem inLoop_of_mem {c : OpenContainer} (hc : c ∈ around) (hkind : c.head.kind = .loop) :
    inLoop around = true :=
  List.any_eq_true.2 ⟨c, hc, decide_eq_true hkind⟩

theorem inLoop_cons (head : ContainerHead) (blocks : List Block) :
    inLoop (.ofBlocks head blocks :: around) = (decide (head.kind = .loop) || inLoop around) := rfl

/-- What a resolved tree is lowered to has no other names than those of the variables. Its jumps
are in loops if the tree is structured; with `anywhere` neither is asked. -/
theorem Node.IsStmt.isReadable_of_imp {scope? : Option Nat} (anywhere : Bool) (h : n.IsStmt s)
    (hn : n.Resolved locals around)
    (hstructured : anywhere = false → n.IsStructured scope? around) :
    s.IsReadable (locals.map Variable.name) (anywhere || inLoop around) := by
  refine Node.IsStmt.induction (motive := fun n s ↦ ∀ around, n.Resolved locals around →
    (anywhere = false → n.IsStructured scope? around) →
    s.IsReadable (locals.map Variable.name) (anywhere || inLoop around))
    ?store ?branch ?ifThen ?ifElse ?print ?exitLoop ?exitFunction ?block ?loop ?scope h around hn
    hstructured
  case store =>
    intro v value e he around hn _
    exact .assign (List.mem_map_of_mem hn.1) (he.isOver hn.2)
  case branch =>
    intro target around _ hstructured
    have hloop : (anywhere || inLoop around) = true := by
      cases hany : anywhere with
      | true => rfl
      | false =>
        obtain ⟨c, hc, hloop, -⟩ := hstructured hany
        exact inLoop_of_mem (List.mem_of_mem_head? hc) hloop
    rw [hloop]
    exact .nextRound
  case ifThen =>
    intro c yes no e s he _ ih around hn hstructured
    exact .ifThen (he.isOver hn.1) (ih around hn.2.1 fun hany ↦ (hstructured hany).2.1)
  case ifElse =>
    intro c yes no e s t he _ ihyes ihno around hn hstructured
    exact .ifElse (he.isOver hn.1) (ihyes around hn.2.1 fun hany ↦ (hstructured hany).2.1)
      (ihno around hn.2.2 fun hany ↦ (hstructured hany).2.2)
  case print =>
    intro argument method e he around hn _
    exact .print (he.isOver hn.1)
  case exitLoop =>
    intro target value hkind around hn _
    obtain ⟨⟨c, hc, rfl⟩, -⟩ := hn
    rw [inLoop_of_mem hc hkind, Bool.or_true]
    exact .exitLoop
  case exitFunction =>
    intro target value _ around _ _
    exact .exitFunction
  case block =>
    intro head instructions parts hparts around hn hstructured
    refine .sequence (forall_of_forall₂ hparts fun m hm p ih ↦ ih around (hn.of_mem_parts hm) ?_)
    exact fun hany ↦ isStructured_block.1 (hstructured hany) m hm
  case loop =>
    intro head blocks parts hkind hparts around hn hstructured
    refine .loop (forall_of_forall₂ hparts fun m hm p ih ↦ ?_)
    have hread := ih (.ofBlocks head blocks :: around) (hn.of_mem_parts hm)
      fun hany ↦ isStructured_container.1 (hstructured hany) m hm
    rwa [inLoop_cons, decide_eq_true hkind, Bool.true_or, Bool.or_true] at hread
  case scope =>
    intro head blocks parts hkind hparts around hn hstructured
    refine .scope (forall_of_forall₂ hparts fun m hm p ih ↦ ?_)
    have hread := ih (.ofBlocks head blocks :: around) (hn.of_mem_parts hm)
      fun hany ↦ isStructured_container.1 (hstructured hany) m hm
    have hloop : head.kind ≠ .loop := by simp [hkind]
    rwa [inLoop_cons, decide_eq_false hloop, Bool.false_or] at hread

theorem Node.IsStmt.isReadable {scope? : Option Nat} (h : n.IsStmt s)
    (hn : n.Resolved locals around) (hstructured : n.IsStructured scope? around) :
    s.IsReadable (locals.map Variable.name) (inLoop around) :=
  h.isReadable_of_imp false hn fun _ ↦ hstructured

/-- Without asking where the jumps are. -/
theorem Node.IsStmt.isReadable_of_resolved (h : n.IsStmt s) (hn : n.Resolved locals around) :
    s.IsReadable (locals.map Variable.name) true :=
  have hstructured : true = false → n.IsStructured none around := nofun
  h.isReadable_of_imp true hn hstructured

/-! ### Ways to leave a statement -/

/-- The ways to leave a node and a command that are the same among these containers. `scope?` is the
number of the body, if it is a scope. -/
inductive Matches (scope? : Option Nat) (around : List OpenContainer) :
    Node.Exit → Command.Exit → Prop
  | next : Matches scope? around .next .next
  | again {t : Nat} : Restarts around t → Matches scope? around (.branch t) .again
  | broken {t : Nat} : EndsLoop around t → Matches scope? around (.leave t) .broken
  | returned {t : Nat} : scope? = some t → Matches scope? around (.leave t) .returned

/-- What two runs of a statement have in common where they leave it. -/
def Leaves (scope? : Option Nat) (around : List OpenContainer) (locals : List Variable)
    (e : Node.Exit) (σ : Store) (e' : Command.Exit) (τ : Memory) : Prop :=
  Matches scope? around e e' ∧ Agree locals σ τ

/-- A node and commands that do the same from wherever they begin. -/
def DoesAs (limit : Nat) (scope? : Option Nat) (around : List OpenContainer)
    (locals : List Variable) (n : Node) (cs : List Command) : Prop :=
  ∀ σ τ, Agree locals σ τ → Trace.Related (Leaves scope? around locals) (n.run limit σ)
    (Command.runAll (declaredAs locals) limit cs τ)

variable {scope? : Option Nat} {limit : Nat} {head : ContainerHead} {blocks : List Block}
  {parts : List Stmt}

theorem runAll_single (locals : List (CType × Text)) (limit : Nat) (c : Command) (τ : Memory) :
    Command.runAll locals limit [c] τ = c.run locals limit τ := by
  rw [Command.runAll]
  refine Eq.trans (congrArg _ (funext fun e ↦ funext fun τ ↦ ?_)) (Trace.andThen_done _)
  cases e <;> rfl

/-- What does the same one by one does the same in order. -/
theorem related_inOrder {ns : List Node} {ss : List Stmt}
    (h : List.Forall₂ (fun n s ↦ DoesAs limit scope? around locals n s.commands) ns ss)
    (hστ : Agree locals σ τ) :
    Trace.Related (Leaves scope? around locals) (Step.inOrder (ns.map (Node.run limit)) σ)
      (Command.runAll (declaredAs locals) limit (Stmt.commandsOfAll ss) τ) := by
  induction h generalizing σ τ with
  | nil => exact .done ⟨.next, hστ⟩
  | cons hs _ ih =>
    rw [Stmt.commandsOfAll, Command.runAll_append]
    refine (hs σ τ hστ).andThen fun e σ e' τ hleaves ↦ ?_
    obtain ⟨hmatches, hστ⟩ := hleaves
    cases hmatches with
    | next => exact ih hστ
    | again ht => exact .done ⟨.again ht, hστ⟩
    | broken ht => exact .done ⟨.broken ht, hστ⟩
    | returned ht => exact .done ⟨.returned ht, hστ⟩

/-! ### Containers -/

/-- The blocks of a container, in order, do the same as these commands. -/
def BlocksDoAs (limit : Nat) (scope? : Option Nat) (around : List OpenContainer)
    (locals : List Variable) (head : ContainerHead) (blocks : List Block) (cs : List Command) :
    Prop :=
  ∀ σ τ, Agree locals σ τ →
    Trace.Related (Leaves scope? (.ofBlocks head blocks :: around) locals)
      (Step.inOrder ((blocks.map .block).map (Node.run limit)) σ)
      (Command.runAll (declaredAs locals) limit cs τ)

/-- The body is one of these containers, if it is a scope. -/
def IsAround (scope? : Option Nat) (around : List OpenContainer) : Prop :=
  ∀ t, scope? = some t → ∃ c ∈ around, c.head.kind = .normal ∧ c.head.serial = t

theorem IsAround.cons (h : IsAround scope? around) (c : OpenContainer) :
    IsAround scope? (c :: around) := fun t ht ↦
  (h t ht).imp fun _ hd ↦ ⟨List.mem_cons_of_mem _ hd.1, hd.2⟩

variable {cs : List Command} {t : Nat}

/-- A container around another is not the other. -/
theorem serial_ne_of_mem (hnew : ∀ c ∈ around, c.head.serial ≠ head.serial)
    {kind : ContainerKind} (ht : ∃ c ∈ around, c.head.kind = kind ∧ c.head.serial = t) :
    t ≠ head.serial := by
  obtain ⟨c, hc, -, rfl⟩ := ht
  exact hnew c hc

/-- **A loop**: a branch to its first block is `continue`, and a leave of it is `break`. -/
theorem BlocksDoAs.loop (hkind : head.kind = .loop)
    (hnew : ∀ c ∈ around, c.head.serial ≠ head.serial) (hscope : IsAround scope? around)
    (h : BlocksDoAs limit scope? around locals head blocks cs) :
    DoesAs limit scope? around locals (.container head blocks)
      [.whileLoop (.literal 1) (.compound cs)] := by
  intro σ τ hστ
  rw [Node.run_container, ContainerHead.run, if_pos (.inl hkind), runAll_single, Command.run]
  refine Trace.Related.rounds (S := fun i σ _ τ ↦ i = 0 ∧ Agree locals σ τ) ?_ limit ⟨rfl, hστ⟩
  rintro i σ - τ ⟨rfl, hστ⟩
  have hone : (Term.literal 1).isTrue? τ = some true := rfl
  rw [List.drop_zero, hone, Command.run]
  refine (h σ τ hστ).andThen fun e σ e' τ hleaves ↦ .done ?_
  obtain ⟨hmatches, hστ⟩ := hleaves
  cases hmatches with
  | next =>
    rw [ContainerHead.proceed, if_pos hkind]
    exact .inl ⟨rfl, hστ⟩
  | @again t ht =>
    obtain ⟨c, hc, -, hfirst⟩ := ht
    obtain rfl := Option.some.inj hc
    have hserials : (blocks.map (·.head.serial)).head? = some t := by
      simpa [OpenContainer.ofBlocks] using hfirst
    obtain ⟨rest, hrest⟩ : ∃ rest, blocks.map (·.head.serial) = t :: rest :=
      List.head?_eq_some_iff.1 hserials
    rw [ContainerHead.proceed, hrest, if_pos (List.mem_cons_self ..), List.idxOf_cons_self]
    exact .inl ⟨rfl, hστ⟩
  | broken ht =>
    have hself : head.serial = _ := (endsLoop_cons_of_loop hkind).1 ht
    rw [ContainerHead.proceed, if_pos hself.symm]
    exact .inr ⟨.next, hστ⟩
  | returned ht =>
    rw [ContainerHead.proceed, if_neg (serial_ne_of_mem hnew (hscope _ ht))]
    exact .inr ⟨.returned ht, hστ⟩

/-- A scope has one round, which is the last: no branch is passed on to it, since the container
around a branch is a loop. -/
theorem BlocksDoAs.related_scope {R : Node.Exit → Store → Command.Exit → Memory → Prop}
    (hkind : head.kind = .normal)
    (h : BlocksDoAs limit scope? around locals head blocks cs)
    (hnext : ∀ σ τ, Agree locals σ τ → R .next σ .next τ)
    (hbroken : ∀ t σ τ, EndsLoop around t → Agree locals σ τ →
      R (if t = head.serial then .next else .leave t) σ .broken τ)
    (hreturned : ∀ t σ τ, scope? = some t → Agree locals σ τ →
      R (if t = head.serial then .next else .leave t) σ .returned τ)
    (hστ : Agree locals σ τ) :
    Trace.Related R ((Node.container head blocks).run limit σ)
      (Command.runAll (declaredAs locals) limit [.compound cs] τ) := by
  have hloop : head.kind ≠ .loop := by simp [hkind]
  rw [Node.run_container, ContainerHead.run, if_pos (.inr hkind), runAll_single, Command.run]
  refine Trace.Related.rounds_of_last ?_ limit
  rw [List.drop_zero, ← Trace.andThen_done (Command.runAll _ _ _ _)]
  refine (h σ τ hστ).andThen fun e σ e' τ hleaves ↦ .done ?_
  obtain ⟨hmatches, hστ⟩ := hleaves
  cases hmatches with
  | next =>
    rw [ContainerHead.proceed, if_neg hloop]
    exact ⟨_, rfl, hnext σ τ hστ⟩
  | again ht =>
    obtain ⟨c, hc, hc', -⟩ := ht
    obtain rfl := Option.some.inj hc
    exact absurd hc' hloop
  | broken ht => exact ⟨_, rfl, hbroken _ σ τ ((endsLoop_cons_of_ne hloop).1 ht) hστ⟩
  | returned ht => exact ⟨_, rfl, hreturned _ σ τ ht hστ⟩

/-- **A scope** that is not the body: no jump speaks of it. -/
theorem BlocksDoAs.scope (hkind : head.kind = .normal)
    (hnew : ∀ c ∈ around, c.head.serial ≠ head.serial) (hscope : IsAround scope? around)
    (h : BlocksDoAs limit scope? around locals head blocks cs) :
    DoesAs limit scope? around locals (.container head blocks) [.compound cs] := by
  intro σ τ hστ
  refine h.related_scope hkind ?next ?broken ?returned hστ
  case next =>
    intro σ τ hστ
    exact ⟨.next, hστ⟩
  case broken =>
    intro t σ τ ht hστ
    rw [if_neg (serial_ne_of_mem hnew ht.exists_mem)]
    exact ⟨.broken ht, hστ⟩
  case returned =>
    intro t σ τ ht hστ
    rw [if_neg (serial_ne_of_mem hnew (hscope t ht))]
    exact ⟨.returned ht, hστ⟩

/-- **The body**, if it is a scope: a leave of it is `return`. -/
theorem BlocksDoAs.body (hkind : head.kind = .normal)
    (h : BlocksDoAs limit (some head.serial) [] locals head blocks cs) (hστ : Agree locals σ τ) :
    Trace.Related (fun e σ e' τ ↦ e = .next ∧ (e' = .next ∨ e' = .returned) ∧ Agree locals σ τ)
      ((Node.container head blocks).run limit σ)
      (Command.runAll (declaredAs locals) limit [.compound cs] τ) := by
  refine h.related_scope hkind ?next ?broken ?returned hστ
  case next =>
    intro σ τ hστ
    exact ⟨rfl, .inl rfl, hστ⟩
  case broken =>
    -- there is no loop around the body
    intro t σ τ ht _
    obtain ⟨c, hc, -⟩ := ht.exists_mem
    exact absurd hc List.not_mem_nil
  case returned =>
    intro t σ τ ht hστ
    have hself : t = head.serial := (Option.some.inj ht).symm
    rw [if_pos hself]
    exact ⟨rfl, .inr rfl, hστ⟩

/-! ### Statements -/

/-- Of containers with different numbers, one at most has a given number. -/
theorem kind_eq_of_serial (hserials : (around.map (·.head.serial)).Nodup) {c d : OpenContainer}
    (hc : c ∈ around) (hd : d ∈ around) (h : c.head.serial = d.head.serial) :
    c.head.kind = d.head.kind := by
  rw [List.inj_on_of_nodup_map hserials hc hd h]

/-- A statement does what its node does wherever the node may stand: among containers with different
numbers, with the body one of them if it is a scope. What the node uses is narrow. -/
def Simulates (limit : Nat) (scope? : Option Nat) (locals : List Variable) (n : Node) (s : Stmt) :
    Prop :=
  ∀ around, n.Resolved locals around → (around.map (·.head.serial)).Nodup →
    IsAround scope? around → n.IsStructured scope? around → (∀ m ∈ n.nodes, m.UsesNarrow) →
    DoesAs limit scope? around locals n s.commands

/-- What does the same block by block does the same inside their container. -/
theorem blocksDoAs_of_simulates
    (h : List.Forall₂ (Simulates limit scope? locals) (blocks.map .block) parts)
    (hn : (Node.container head blocks).Resolved locals around)
    (hserials : (around.map (·.head.serial)).Nodup)
    (hscope : IsAround scope? (.ofBlocks head blocks :: around))
    (hstructured : (Node.container head blocks).IsStructured scope? around)
    (hnarrow : ∀ m ∈ (Node.container head blocks).nodes, m.UsesNarrow) :
    BlocksDoAs limit scope? around locals head blocks (Stmt.commandsOfAll parts) := by
  have hinner : ((OpenContainer.ofBlocks head blocks :: around).map (·.head.serial)).Nodup := by
    refine List.nodup_cons.2 ⟨fun hmem ↦ ?_, hserials⟩
    obtain ⟨c, hc, hserial⟩ := List.mem_map.1 hmem
    exact hn.1 c hc hserial
  intro σ τ hστ
  refine related_inOrder ?_ hστ
  refine ((List.forall₂_and_left _ _).2 ⟨fun m hm ↦ hm, h⟩).imp fun m p hmp ↦ ?_
  exact hmp.2 _ (hn.of_mem_parts hmp.1) hinner hscope
    (Node.isStructured_container.1 hstructured m hmp.1)
    ((Node.forall_nodes_iff.1 hnarrow).2 m hmp.1)

/-- An `if` does as its arms do, since the condition decides the same for both. -/
theorem related_cond {R : Node.Exit → Store → Command.Exit → Memory → Prop} {c yes no : Node}
    {ifMet ifNot : Trace Memory Command.Exit} (he : c.IsExpr e)
    (hn : (Node.cond c yes no).Resolved locals around)
    (hstructured : (Node.cond c yes no).IsStructured scope? around)
    (hnarrow : ∀ m ∈ (Node.cond c yes no).nodes, m.UsesNarrow) (hστ : Agree locals σ τ)
    (hyes : Trace.Related R (yes.run limit σ) ifMet)
    (hno : Trace.Related R (no.run limit σ) ifNot) :
    Trace.Related R ((Node.cond c yes no).run limit σ)
      (match e.regrouped.isTrue? τ with
      | some true => ifMet
      | some false => ifNot
      | none => .stuck) := by
  obtain ⟨hdecides, hnarrow⟩ := Node.forall_nodes_iff.1 hnarrow
  have hcondition := hnarrow c (by simp [Node.children])
  obtain ⟨a, ha, htrue⟩ := he.isTrue?_eq hstructured.1 hn.1 hcondition hστ hdecides
  rw [Node.run, ha, htrue]
  by_cases hzero : a = 0
  · subst hzero
    exact hno
  · rw [bne_iff_ne.2 hzero]
    dsimp only
    rw [if_pos hzero]
    exact hyes

/-- **A statement does what its node does.** -/
theorem Node.IsStmt.simulates (hnodup : (locals.map Variable.name).Nodup) (h : n.IsStmt s) :
    Simulates limit scope? locals n s := by
  refine Node.IsStmt.induction (motive := Simulates limit scope? locals) ?store ?branch ?ifThen
    ?ifElse ?print ?exitLoop ?exitFunction ?block ?loop ?scope h
  case store =>
    intro v value e he around hn _ _ hstructured hnarrow σ τ hστ
    obtain ⟨-, hnarrow⟩ := forall_nodes_iff.1 hnarrow
    obtain ⟨a, b, ha, hb, hrepresents⟩ := he.exists_represents_of_agree hstructured.1 hn.2
      (hnarrow value (List.mem_singleton_self _)) hστ
    rw [run, ha, Stmt.commands, runAll_single, Command.run, hb, typeOf_declaredAs hnodup hn.1]
    dsimp only
    rw [convert_eq ha hrepresents hstructured.2]
    exact .done ⟨.next, hστ.update hnodup hn.1 _⟩
  case branch =>
    intro target around _ _ _ hstructured _ σ τ hστ
    rw [run, Stmt.commands, runAll_single, Command.run]
    exact .done ⟨.again hstructured, hστ⟩
  case ifThen =>
    intro c yes no e s he hno ih around hn hserials hscope hstructured hnarrow σ τ hστ
    have hyes := (forall_nodes_iff.1 hnarrow).2 yes (by simp [children])
    rw [Stmt.commands, runAll_single, Command.run]
    refine related_cond he hn hstructured hnarrow hστ
      (ih around hn.2.1 hserials hscope hstructured.2.1 hyes σ τ hστ) ?_
    rw [run_of_isEmptyStatement hno]
    exact .done ⟨.next, hστ⟩
  case ifElse =>
    intro c yes no e s t he _ ihyes ihno around hn hserials hscope hstructured hnarrow σ τ hστ
    have hyes := (forall_nodes_iff.1 hnarrow).2 yes (by simp [children])
    have hno := (forall_nodes_iff.1 hnarrow).2 no (by simp [children])
    rw [Stmt.commands, runAll_single, Command.run]
    exact related_cond he hn hstructured hnarrow hστ
      (ihyes around hn.2.1 hserials hscope hstructured.2.1 hyes σ τ hστ)
      (ihno around hn.2.2 hserials hscope hstructured.2.2 hno σ τ hστ)
  case print =>
    intro argument method e he around hn _ _ hstructured hnarrow σ τ hστ
    have hargument := List.mem_singleton_self argument
    obtain ⟨huses, hnarrow⟩ := forall_nodes_iff.1 hnarrow
    obtain ⟨a, b, ha, hb, hrepresents⟩ := he.exists_represents_of_agree
      (hstructured argument hargument) hn.1 (hnarrow argument hargument) hστ
    have hprinted : e.regrouped.printed? τ = some a := by
      rw [Term.printed?, hb, Option.bind_some, hrepresents.printed (huses argument hargument)]
    rw [run, ha, Stmt.commands, runAll_single, Command.run, hprinted]
    exact ⟨rfl, .next, hστ⟩
  case exitLoop =>
    intro target value hkind around hn hserials hscope hstructured _ σ τ hστ
    obtain ⟨⟨c, hc, rfl⟩, -⟩ := hn
    obtain ⟨hvalue, hends | hends⟩ := hstructured
    · rw [run, if_pos hvalue, Stmt.commands, runAll_single, Command.run]
      exact .done ⟨.broken hends, hστ⟩
    · -- a loop is not the body, if the body is a scope
      obtain ⟨d, hd, hnormal, hserial⟩ := hscope _ hends
      rw [← kind_eq_of_serial hserials hd hc hserial, hnormal] at hkind
      cases hkind
  case exitFunction =>
    intro target value hkind around hn hserials hscope hstructured _ σ τ hστ
    obtain ⟨⟨c, hc, rfl⟩, -⟩ := hn
    obtain ⟨hvalue, hends | hends⟩ := hstructured
    · -- a scope is not the innermost loop
      obtain ⟨d, hd, hloop, hserial⟩ := hends.exists_mem
      rw [← kind_eq_of_serial hserials hd hc hserial, hloop] at hkind
      cases hkind
    · rw [run, if_pos hvalue, Stmt.commands, runAll_single, Command.run]
      exact .done ⟨.returned hends, hστ⟩
  case block =>
    intro head instructions parts hparts around hn hserials hscope hstructured hnarrow σ τ hστ
    have hall := ((List.forall₂_and_left instructions parts).2 ⟨fun m hm ↦ hm, hparts⟩).imp
      fun m p hmp ↦ hmp.2 around (hn.of_mem_parts hmp.1) hserials hscope
        (isStructured_block.1 hstructured m hmp.1) ((forall_nodes_iff.1 hnarrow).2 m hmp.1)
    rw [run_block, Stmt.commands]
    split
    · -- an empty block is written as an empty statement
      obtain rfl : parts = [] := List.isEmpty_iff.1 ‹_›
      cases hparts
      exact .done ⟨.next, hστ⟩
    · exact related_inOrder hall hστ
  case loop =>
    intro head blocks parts hkind hparts around hn hserials hscope hstructured hnarrow
    have hblocks := blocksDoAs_of_simulates hparts hn hserials (hscope.cons _) hstructured hnarrow
    exact hblocks.loop hkind hn.1 hscope
  case scope =>
    intro head blocks parts hkind hparts around hn hserials hscope hstructured hnarrow
    have hblocks := blocksDoAs_of_simulates hparts hn hserials (hscope.cons _) hstructured hnarrow
    exact hblocks.scope hkind hn.1 hscope

/-! ### Functions -/

theorem map_snd_declaredAs (locals : List Variable) :
    (declaredAs locals).map Prod.snd = locals.map Variable.name := by
  rw [declaredAs, List.map_map]
  rfl

theorem declarations_eq {ds : List Declaration}
    (h : List.Forall₂ (fun v d ↦ ∃ t, typeOf? v.type = some t ∧ d = .declares t v.name) locals ds) :
    ds = (declaredAs locals).map fun d ↦ .declares d.1 d.2 := by
  induction h with
  | nil => rfl
  | cons hd _ ih =>
    obtain ⟨t, ht, rfl⟩ := hd
    rw [ih, declaredAs, declaredAs, List.map_cons, List.map_cons, ht]
    rfl

/-- The body of a structured function, which is left at its end only. -/
theorem C.IsFile.related_body {f : Function} {file : SourceFile} (hfile : IsFile f file)
    (hf : f.Resolved) (hstructured : f.IsStructured) (hnarrow : f.IsNarrow) (limit : Nat)
    (hστ : Agree f.locals σ τ) :
    Trace.Related
      (fun e σ e' τ ↦ e = .next ∧ (e' = .next ∨ e' = .returned) ∧ Agree f.locals σ τ)
      (f.body.run limit σ)
      (Command.runAll (declaredAs f.locals) limit file.body.commands τ) := by
  cases hscope : f.scope? with
  | none =>
    -- no container is around the body, so no jump leaves it
    rw [Function.IsStructured, hscope] at hstructured
    have hsimulates : Simulates limit none f.locals f.body file.body :=
      hfile.body.simulates hf.nodup_names
    refine (hsimulates [] hf.body List.nodup_nil (fun t ht ↦ nomatch ht) hstructured hnarrow σ τ
      hστ).mono fun e σ e' τ hleaves ↦ ?_
    obtain ⟨hmatches, hστ⟩ := hleaves
    cases hmatches with
    | next => exact ⟨rfl, .inl rfl, hστ⟩
    | again ht =>
      obtain ⟨c, hc, -⟩ := ht
      cases hc
    | broken ht =>
      obtain ⟨c, hc, -⟩ := ht.exists_mem
      exact absurd hc List.not_mem_nil
    | returned ht => cases ht
  | some t =>
    rw [Function.IsStructured, hscope] at hstructured
    obtain ⟨head, blocks, hbody, hkind, rfl⟩ := Function.exists_of_scope? hscope
    have hstmt := hfile.body
    have hresolved := hf.body
    rw [Function.IsNarrow, hbody] at hnarrow
    rw [hbody] at hstmt hresolved hstructured ⊢
    generalize file.body = s at hstmt ⊢
    cases hstmt with
    | loop hloop => rw [hkind] at hloop; cases hloop
    | @scope _ _ parts _ hparts =>
      have hinner : IsAround (some head.serial) [.ofBlocks head blocks] := fun t ht ↦
        ⟨_, List.mem_singleton_self _, hkind, Option.some.inj ht⟩
      exact (blocksDoAs_of_simulates (hparts.imp fun m p hp ↦ hp.simulates hf.nodup_names)
        hresolved List.nodup_nil hinner hstructured hnarrow).body hkind hστ

/-- What is generated is the text of the file that a function is lowered to. -/
theorem outcome_generate {f : Function} {file : SourceFile}
    (h : (lowerFunction .strict f).outcome = .ok file) :
    (generate .strict f).outcome = .ok file.text :=
  isClean_strict.1 (isClean_bind.2 ⟨file, isClean_strict.2 h, isClean_pure.2 rfl⟩)

/-- The program that the file of a structured function with free names is read as. -/
theorem C.IsFile.read?_text {f : Function} {file : SourceFile} (hfile : IsFile f file)
    (hf : f.Resolved) (hname : IsFree (Text.lower f.name)) (hlocals : ∀ v ∈ f.locals, IsFree v.name)
    (hstructured : f.IsStructured) :
    Program.read? file.text =
      some ⟨SourceFile.includes, Text.lower f.name, declaredAs f.locals, file.body.commands⟩ := by
  have hnodup : ((declaredAs f.locals).map Prod.snd).Nodup := by
    rw [map_snd_declaredAs]
    exact hf.nodup_names
  have hreadable : file.body.IsReadable ((declaredAs f.locals).map Prod.snd) false := by
    rw [map_snd_declaredAs]
    exact hfile.body.isReadable hf.body hstructured
  have hfree : ∀ d ∈ declaredAs f.locals, IsFree d.2 := List.forall_mem_map.2 hlocals
  rw [← hfile.name] at hname ⊢
  exact SourceFile.read?_text hname (declarations_eq hfile.declarations) hfree hnodup hreadable

/-- **The generated program does what the function does.** The text of a loaded function that is
lowered strictly, has free names and is structured is read as a C program of its name. If no sum
with the least constant is compared or decides, and none is printed, then from variables that hold
the same the two print the same, up to every limit, and one ends if and only if the other does, with
variables that hold the same. -/
theorem generate_preserves_runs {settings : LoadSettings} {data : Value} {w w' : Workspace}
    {f : Function} {text : Text} (hf : Build.buildFunction settings data w = .ok f w')
    (htext : (generate .strict f).outcome = .ok text) (hname : IsFree (Text.lower f.name))
    (hlocals : ∀ v ∈ f.locals, IsFree v.name) (hstructured : f.IsStructured)
    (hnarrow : f.IsNarrow) :
    ∃ p, Program.read? text = some p ∧ p.name = Text.lower f.name ∧
      ∀ limit σ τ, Agree f.locals σ τ →
        Trace.Related (fun _ σ _ τ ↦ Agree f.locals σ τ) (f.run limit σ) (p.run limit τ) := by
  have hresolved := Build.resolved_of_buildFunction hf
  obtain ⟨file, hlower, hfile⟩ := isClean_bind.1 (isClean_strict.2 htext)
  obtain rfl : file.text = text := isClean_pure.1 hfile
  replace hfile : IsFile f file := isFile_of_lowerFunction hlower
  refine ⟨_, hfile.read?_text hresolved hname hlocals hstructured, rfl, fun limit σ τ hστ ↦ ?_⟩
  refine (hfile.related_body hresolved hstructured hnarrow limit hστ).andThen
    fun e σ e' τ hends ↦ ?_
  obtain ⟨rfl, rfl | rfl, hστ⟩ := hends
  · exact .done hστ
  · exact .done hστ

namespace CountingLoop

/-- A loop that adds one variable to another and prints the sum, as long as it is below a third. -/
def document : List (Text × Value) :=
  let declared (name : String) : Value :=
    .ofFields [("name", .string name), ("type", .string "I4")]
  let load (name : String) : Value := .ofOperation "ldloc" [("var", .string name)]
  [("name", .string "Main"), ("variables", .list [declared "i", declared "step", declared "n"]),
    ("body", .ofContainer "Loop" "loop" [("only",
      [.ofOperation "stloc" [("var", .string "i"), ("value", .ofOperation "binary"
          [("operator", .string "Add"), ("left", load "i"), ("right", load "step")])],
        .ofOperation "if" [("condition", .ofOperation "comp" [("kind", .string "LessThan"),
          ("left", load "n"), ("right", load "i")]), ("true", .ofOperation "leave" [])],
        .ofOperation "call" [("args", .list [load "i"])],
        .ofOperation "br" [("target", .string "only")]])])]

/-- The variable that is printed. -/
def counter : Variable := ⟨"i", .i4, some 0⟩

/-- What is added to it. -/
def increment : Variable := ⟨"step", .i4, some 1⟩

/-- The bound of it. -/
def bound : Variable := ⟨"n", .i4, some 2⟩

/-- The loop. -/
def loop : ContainerHead := ⟨0, .loop, .string "loop"⟩

/-- The block in the loop. -/
def only : BlockHead := ⟨1, .controlFlow, .string "only"⟩

/-- The function that is loaded. -/
def function : Function :=
  ⟨"Main", [counter, increment, bound], .container loop [⟨only,
    [.store counter (.binary .add (.load counter) (.load increment)),
      .cond (.compare .lessThan (.load bound) (.load counter)) (.leave loop .nop) .nop,
      .call [.load counter] (.string "print"), .branch only]⟩]⟩

/-- The file that it is lowered to. -/
def file : SourceFile :=
  ⟨"main", [.declares .int32 "i", .declares .int32 "step", .declares .int32 "n"],
    .loop [.sequence [.assign "i" (.sum (.variableName "i") (.variableName "step")),
      .ifThen (.relation .less (.variableName "n") (.variableName "i")) .exitLoop,
      .print (.variableName "i"), .nextRound]]⟩

theorem built : ∃ w', Build.buildFunction .standard (.object document) .empty =
    .ok function w' :=
  Build.buildFunction_eq_ok 10 (by decide) rfl rfl rfl rfl rfl rfl

end CountingLoop

open CountingLoop in
/-- The program of the counting loop does what the loop does. -/
theorem counting_loop_preserves_runs :
    ∃ p, Program.read? file.text = some p ∧ p.name = "main" ∧
      ∀ limit σ τ, Agree function.locals σ τ →
        Trace.Related (fun _ σ _ τ ↦ Agree function.locals σ τ) (function.run limit σ)
          (p.run limit τ) := by
  obtain ⟨w', hbuilt⟩ := built
  have hstructured : function.IsStructured :=
    ⟨⟨⟨⟨rfl, rfl, trivial, trivial⟩, nofun⟩, ⟨⟨rfl, rfl, trivial, trivial⟩,
      ⟨rfl, .inl ⟨_, rfl, rfl⟩⟩, trivial⟩, fun a ha ↦ by cases List.mem_singleton.1 ha; trivial,
      ⟨_, rfl, rfl, rfl⟩, trivial⟩, trivial⟩
  exact generate_preserves_runs hbuilt rfl ⟨rfl, rfl⟩
    (List.forall_mem_cons.2 ⟨⟨rfl, rfl⟩, List.forall_mem_cons.2 ⟨⟨rfl, rfl⟩,
      List.forall_mem_singleton.2 ⟨rfl, rfl⟩⟩⟩)
    hstructured (Function.isNarrow_of_not_mem_constants (by decide))

namespace LeastInComparison

/-- A function that sets a variable to -1, prints 1 if the sum of the variable and the least
constant is less than zero, and prints 7. -/
def document : List (Text × Value) :=
  let constant (value : Int) : Value := .ofOperation "ldc.i4" [("value", .int value)]
  let print (value : Int) : Value := .ofOperation "call" [("args", .list [constant value])]
  let sum : Value := .ofOperation "binary" [("operator", .string "Add"),
    ("left", .ofOperation "ldloc" [("var", .string "x")]), ("right", constant Build.minInt32)]
  [("name", .string "Main"),
    ("variables", .list [.ofFields [("name", .string "x"), ("type", .string "I4")]]),
    ("body", .ofContainer "Normal" "body" [("only",
      [.ofOperation "stloc" [("var", .string "x"), ("value", constant (-1))],
        .ofOperation "if" [("condition", .ofOperation "comp" [("kind", .string "LessThan"),
          ("left", sum), ("right", constant 0)]), ("true", print 1)],
        print 7])])]

/-- The variable. -/
def x : Variable := ⟨"x", .i4, some 0⟩

/-- The condition. -/
def condition : Node :=
  .compare .lessThan (.binary .add (.load x) (.constant Build.minInt32)) (.constant 0)

/-- What is in the body. -/
def instructions : List Node :=
  [.store x (.constant (-1)), .cond condition (.call [.constant 1] (.string "print")) .nop,
    .call [.constant 7] (.string "print")]

/-- The function that is loaded. -/
def function : Function :=
  ⟨"Main", [x], .container ⟨0, .normal, .string "body"⟩
    [⟨⟨1, .controlFlow, .string "only"⟩, instructions⟩]⟩

/-- The file that it is lowered to. -/
def file : SourceFile :=
  ⟨"main", [.declares .int32 "x"], .scope [.sequence [.assign "x" (.constant (-1)),
    .ifThen (.relation .less (.sum (.variableName "x") (.constant Build.minInt32)) (.constant 0))
      (.print (.constant 1)),
    .print (.constant 7)]]⟩

/-- The condition of the program. -/
def test : Term :=
  .operation (.relation .less) (.operation .plus (.name "x") (.literal Build.minInt32)) (.literal 0)

theorem built : ∃ w', Build.buildFunction .standard (.object document) .empty =
    .ok function w' :=
  Build.buildFunction_eq_ok 10 (by decide) rfl rfl rfl rfl rfl rfl

theorem lowered : (lowerFunction .strict function).outcome = .ok file := by
  have hwritable {value : Int} (h : Build.minInt32 ≤ value ∧ value ≤ Build.maxInt32) :
      isWritable value = true := Node.isWritable_of_int32 h
  simp only [lowerFunction, function, instructions, condition, lowerStmt, lowerBlocks, lowerBlock,
    lowerAll, lowerExpr, relationOf?, hwritable (show _ ≤ Build.minInt32 ∧ _ by decide),
    hwritable (show _ ≤ (-1 : Int) ∧ _ by decide), hwritable (show _ ≤ (0 : Int) ∧ _ by decide),
    hwritable (show _ ≤ (1 : Int) ∧ _ by decide), hwritable (show _ ≤ (7 : Int) ∧ _ by decide),
    if_true]
  rfl

/-- The sum wraps around in the tree. -/
theorem value?_condition {σ : Store} (hx : σ x = -1) : condition.value? σ = some 0 := by
  simp only [condition, Node.value?, hx]
  rfl

/-- The sum does not wrap around in C. -/
theorem isTrue?_test {τ : Memory} (hx : τ "x" = -1) : test.isTrue? τ = some true := by
  have htype : IntegerType.ofConstant? Build.minInt32.natAbs = some .long := by decide
  have hless : (((Number.ofInt32 (-1)).add (.ofInt .long Build.minInt32)).compare .less
      (.ofInt .int 0)).isTrue = true := by decide
  simp only [test, Term.isTrue?, Term.number?, Term.evaluate?, hx, htype]
  exact congrArg some hless

/-- The function does not print 1. -/
theorem printed_function (limit : Nat) (σ : Store) : (function.run limit σ).printed = [7] := by
  have hinstructions : Step.inOrder (instructions.map (Node.run limit)) σ =
      ⟨[7], .exit .next (Function.update σ x (-1))⟩ := by
    have hminus : Int32.ofInt (-1) = -1 := by decide
    rw [instructions, List.map_cons, Step.inOrder, Node.run, Node.value?, hminus]
    dsimp only
    rw [Trace.done_andThen]
    dsimp only
    rw [List.map_cons, Step.inOrder, Node.run, value?_condition (Function.update_self ..)]
    rfl
  have hblock : Step.inOrder [(Node.block ⟨⟨1, .controlFlow, .string "only"⟩, instructions⟩).run
      limit] σ = ⟨[7], .exit .next (Function.update σ x (-1))⟩ := by
    rw [Node.run_block, Step.inOrder, hinstructions]
    rfl
  rw [Function.run, function, Node.run_container, ContainerHead.run, if_pos (.inr rfl)]
  cases limit with
  | zero | succ limit =>
    rw [Trace.rounds, List.drop_zero, List.map_singleton, List.map_singleton, hblock]
    rfl

/-- Its program does. -/
theorem runAll_commands (limit : Nat) (τ : Memory) :
    Command.runAll (declaredAs function.locals) limit file.body.commands τ =
      ⟨[1, 7], .exit .next (Function.update τ "x" (-1))⟩ := by
  have hminus : (Term.literal (-1)).number? τ = some (.ofInt32 (-1)) := rfl
  have hconvert : (typeOf (declaredAs function.locals) "x").convert (.ofInt32 (-1)) = -1 := rfl
  have htest : test.isTrue? (Function.update τ "x" (-1)) = some true :=
    isTrue?_test (Function.update_self ..)
  have hcommands : file.body.commands = [.compound [.assign "x" (.literal (-1)),
      .ifThen test (.compound [.print (.literal 1)]), .print (.literal 7)]] := rfl
  rw [hcommands, runAll_single, Command.run, Command.runAll, Command.run, hminus]
  dsimp only
  rw [hconvert, Trace.done_andThen]
  dsimp only
  rw [Command.runAll, Command.run, htest]
  rfl

end LeastInComparison

open LeastInComparison in
/-- **A program that does something else.** In the tree the sum of -1 and the least constant wraps
around, so it is not less than zero and 7 is all that is printed. In C it is a sum of 64 bits, which
is less than zero, so 1 is printed as well. -/
theorem sum_with_least_is_not_preserved : ∃ w' p,
    Build.buildFunction .standard (.object document) .empty = .ok function w' ∧
      (generate .strict function).outcome = .ok file.text ∧
      IsFree (Text.lower function.name) ∧ (∀ v ∈ function.locals, IsFree v.name) ∧
      function.IsStructured ∧ Program.read? file.text = some p ∧
      ∀ limit σ τ, (function.run limit σ).printed = [7] ∧ (p.run limit τ).printed = [1, 7] := by
  obtain ⟨w', hbuilt⟩ := built
  have hstructured : function.IsStructured :=
    ⟨⟨⟨trivial, nofun⟩, ⟨⟨rfl, rfl, ⟨rfl, rfl, trivial, trivial⟩, trivial⟩,
      List.forall_mem_singleton.2 trivial, trivial⟩, List.forall_mem_singleton.2 trivial, trivial⟩,
      trivial⟩
  have hfile : IsFile function file := isFile_of_lowerFunction (isClean_strict.2 lowered)
  have hname : IsFree (Text.lower function.name) := ⟨rfl, rfl⟩
  have hlocals : ∀ v ∈ function.locals, IsFree v.name := List.forall_mem_singleton.2 ⟨rfl, rfl⟩
  refine ⟨w', _, hbuilt, outcome_generate lowered, hname, hlocals, hstructured,
    hfile.read?_text (Build.resolved_of_buildFunction hbuilt) hname hlocals hstructured,
    fun limit σ τ ↦ ⟨printed_function limit σ, ?_⟩⟩
  rw [Program.run, runAll_commands]
  rfl

end StructuredIL
