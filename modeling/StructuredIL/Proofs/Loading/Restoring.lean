import StructuredIL.Proofs.Loading.Builders
import StructuredIL.Proofs.Loading.Growing

/-!
# What building a node leaves behind

A node that is built with blocks that are filled in place is the node that is built otherwise, or
cannot be built for the same reason (`Growing.Copies`). All blocks have inside what they had, but
for those that have been begun since (`Workshop.Grows`).

Both are proved together. A step that fills a block changes that block as well, which has been begun
by somebody else: it owns the block (`Growing.Follows`). For whoever has begun it this is no change
of old blocks, because the block got its number shortly before (`Growing.Follows.bind_begun`). While
the blocks of a container are filled one after the other, those that come later stay empty, since a
number is not given out twice. So a load that has failed somewhere in a tree has changed nothing
that was there before the tree (`Growing.node_restores`).
-/

namespace StructuredIL

/-! ### Before and after -/

/-- The numbers of a workspace are bounds for those that are given out next. -/
def Workspace.scope (w : Workspace) : Scope := ⟨w.locals, w.containers, w.nextSerial⟩

theorem Workspace.isIn_scope (w : Workspace) : w.IsIn w.scope := ⟨rfl, rfl, Nat.le_refl _⟩

theorem Build.numbers_blockHead {data : Value} {unlabelled : String} {w w' : Workspace}
    {b : BlockHead} (h : Build.blockHead data unlabelled w = .ok b w') :
    Numbers w.nextSerial [b.serial] w'.nextSerial :=
  ((Build.yields_blockHead (S := w.scope)).of_ok w.isIn_scope h).1.2.2

theorem Build.numbers_blockHeads {label : Value} {index : Nat} {items : List Value}
    {w w' : Workspace} {heads : List BlockHead}
    (h : Build.blockHeads label index items w = .ok heads w') :
    Numbers w.nextSerial (heads.map BlockHead.serial) w'.nextSerial :=
  ((Build.yields_blockHeads (S := w.scope) items).of_ok w.isIn_scope h).1.2.2

/-- What is kept of some instructions that stand in a block. -/
def LoadSettings.keptNodes (s : LoadSettings) (ns : List Node) : List Node :=
  if s.removeDeadCode then ns.filter fun n ↦ !n.isNop else ns

namespace LoadSettings

variable (s : LoadSettings) (n : Node) (ns : List Node)

theorem keptNodes_nil : s.keptNodes [] = [] := by simp [keptNodes]

theorem keptNodes_singleton :
    s.keptNodes [n] = if s.removeDeadCode && n.isNop then [] else [n] := by
  cases hdead : s.removeDeadCode <;> cases hnop : n.isNop <;> simp [keptNodes, hdead, hnop]

theorem keptNodes_cons : s.keptNodes (n :: ns) = s.keptNodes [n] ++ s.keptNodes ns := by
  simp only [keptNodes]
  split
  · exact List.filter_append [n] ns
  · rfl

end LoadSettings

/-! ### Blocks that are there -/

namespace Workshop

/-- A block that has a number already has this inside. -/
def Holds (t : Workshop) (serial : Nat) (ns : List Node) : Prop :=
  t.inside serial = ns ∧ serial < t.workspace.nextSerial

/-- Some blocks have numbers and nothing inside. -/
def AreEmpty (t : Workshop) (heads : List BlockHead) : Prop := ∀ b ∈ heads, t.Holds b.serial []

/-- What has happened between two points of a load: of the blocks that are there at the first one,
none but certain ones have been changed. -/
structure Grows (own : List Nat) (t t' : Workshop) : Prop where
  /-- Numbers are given out upwards. -/
  le : t.workspace.nextSerial ≤ t'.workspace.nextSerial
  /-- Other blocks are not changed, but for those that have got their numbers since. -/
  inside_eq : ∀ k ∉ own, k < t.workspace.nextSerial ∨ t'.workspace.nextSerial ≤ k →
    t'.inside k = t.inside k

namespace Grows

variable {own : List Nat} {t t' t'' : Workshop}

theorem refl (t : Workshop) : Grows own t t := ⟨Nat.le_refl _, fun _ _ _ ↦ rfl⟩

/-- What has been begun in between has got its number since. -/
theorem trans_begun {begun : List Nat} (h : Grows own t t')
    (hbegun : ∀ k ∈ begun, t.workspace.nextSerial ≤ k ∧ k < t'.workspace.nextSerial)
    (h' : Grows (begun ++ own) t' t'') : Grows own t t'' where
  le := Nat.le_trans h.le h'.le
  inside_eq k hk hrange := by
    have hle := h.le
    have hle' := h'.le
    have hnot : k ∉ begun ++ own := by
      rw [List.mem_append, not_or]
      refine ⟨fun hmem ↦ ?_, hk⟩
      have hnew := hbegun k hmem
      omega
    rw [h'.inside_eq k hnot (by omega), h.inside_eq k hk (by omega)]

theorem mono {own' : List Nat} (h : Grows own t t') (hown : own ⊆ own') : Grows own' t t' :=
  ⟨h.le, fun k hk ↦ h.inside_eq k fun hmem ↦ hk (hown hmem)⟩

/-- A block is not changed by those who own others. -/
theorem holds {serial : Nat} {ns : List Node} (h : Grows own t t') (hown : serial ∉ own)
    (ht : t.Holds serial ns) : t'.Holds serial ns :=
  ⟨(h.inside_eq serial hown (.inl ht.2)).trans ht.1, Nat.lt_of_lt_of_le ht.2 h.le⟩

theorem areEmpty {heads : List BlockHead} (h : Grows own t t')
    (hown : ∀ b ∈ heads, b.serial ∉ own) (ht : t.AreEmpty heads) : t'.AreEmpty heads :=
  fun b hb ↦ h.holds (hown b hb) (ht b hb)

end Grows

end Workshop

namespace Growing

open Workshop

variable {α β : Type}

/-! ### Steps that do the same -/

/-- A step with blocks that are filled in place does what another one does, and changes none of the
blocks that are there but its own. -/
structure Follows (P : Workshop → Prop) (own : List Nat) (g : Growing α) (x : Build α)
    (Q : α → Workshop → Prop) : Prop where
  /-- Both steps end alike. -/
  forget_eq : ∀ {t}, P t → forget (g t) = x t.workspace
  /-- However the step ends, other blocks are not changed. -/
  grows : ∀ {t}, P t → Grows own t (ending (g t))
  /-- What is known if the step succeeds. -/
  of_ok : ∀ {t a t'}, P t → g t = .ok a t' → Q a t'

/-- A step does what another one does and changes none of the blocks that are there. -/
def Copies (g : Growing α) (x : Build α) : Prop :=
  Follows (fun _ ↦ True) [] g x fun _ _ ↦ True

namespace Follows

variable {P P' : Workshop → Prop} {Q Q' : α → Workshop → Prop} {R : β → Workshop → Prop}
  {own own' : List Nat} {g : Growing α} {x : Build α} {f : α → Growing β} {y : α → Build β}

theorem mono (h : Follows P own g x Q) (hP : ∀ t, P' t → P t) (hown : own ⊆ own')
    (hQ : ∀ a t, Q a t → Q' a t) : Follows P' own' g x Q' where
  forget_eq ht := h.forget_eq (hP _ ht)
  grows ht := (h.grows (hP _ ht)).mono hown
  of_ok ht hg := hQ _ _ (h.of_ok (hP _ ht) hg)

theorem own_mono (h : Follows P own g x Q) (hown : own ⊆ own') : Follows P own' g x Q :=
  h.mono (fun _ ht ↦ ht) hown fun _ _ hq ↦ hq

theorem of_eq (h : Follows P own g x Q) {t : Workshop} (ht : P t) : Follows (· = t) own g x Q :=
  h.mono (fun _ heq ↦ heq ▸ ht) (List.Subset.refl _) fun _ _ hq ↦ hq

/-- A step that succeeds leaves the workspace that the other one leaves. -/
theorem eq_ok (h : Follows P own g x Q) {t t' : Workshop} {a : α} (ht : P t) (hg : g t = .ok a t') :
    x t.workspace = .ok a t'.workspace := by
  rw [← h.forget_eq ht, hg]
  rfl

/-- What those who own other blocks cannot change is there afterwards. -/
theorem keep {I : Workshop → Prop} (h : Follows P own g x Q)
    (hI : ∀ t t', Grows own t t' → I t → I t') :
    Follows (fun t ↦ P t ∧ I t) own g x fun a t ↦ Q a t ∧ I t where
  forget_eq ht := h.forget_eq ht.1
  grows ht := h.grows ht.1
  of_ok {t a t'} ht hg := by
    have hgrows := h.grows ht.1
    rw [hg] at hgrows
    exact ⟨h.of_ok ht.1 hg, hI t t' hgrows ht.2⟩

theorem pure {a : α} (h : ∀ t, P t → Q a t) : Follows P own (pure a) (pure a) Q where
  forget_eq _ := rfl
  grows _ := .refl _
  of_ok ht hg := by
    cases hg
    exact h _ ht

theorem throw {e : LoadFault} : Follows P own (throw e) (throw e) Q where
  forget_eq _ := rfl
  grows _ := .refl _
  of_ok _ hg := nomatch hg

/-- **One step after the other.** The second one may own the blocks that the first one has begun. -/
theorem bind_begun (hg : Follows P own g x Q)
    (hf : ∀ t a t', P t → g t = .ok a t' → ∃ begun,
      (∀ k ∈ begun, t.workspace.nextSerial ≤ k ∧ k < t'.workspace.nextSerial) ∧
        Follows (· = t') (begun ++ own) (f a) (y a) R) :
    Follows P own (g >>= f) (x >>= y) R where
  forget_eq {t} ht := by
    have hx := hg.forget_eq ht
    show forget (EStateM.bind g f t) = EStateM.bind x y t.workspace
    rw [EStateM.bind, EStateM.bind, ← hx]
    cases hgt : g t with
    | ok a t' =>
      obtain ⟨_, -, hfollows⟩ := hf t a t' ht hgt
      exact hfollows.forget_eq rfl
    | error e t' => rfl
  grows {t} ht := by
    have hgrows := hg.grows ht
    show Grows own t (ending (EStateM.bind g f t))
    rw [EStateM.bind]
    cases hgt : g t with
    | ok a t' =>
      obtain ⟨begun, hbegun, hfollows⟩ := hf t a t' ht hgt
      rw [hgt] at hgrows
      exact hgrows.trans_begun hbegun (hfollows.grows rfl)
    | error e t' =>
      rw [hgt] at hgrows
      exact hgrows
  of_ok {t b t''} ht h := by
    change EStateM.bind g f t = .ok b t'' at h
    rw [EStateM.bind] at h
    cases hgt : g t with
    | ok a t' =>
      obtain ⟨_, -, hfollows⟩ := hf t a t' ht hgt
      rw [hgt] at h
      exact hfollows.of_ok rfl h
    | error e t' =>
      rw [hgt] at h
      cases h

/-- One step after the other. -/
theorem bind (hg : Follows P own g x Q) (hf : ∀ a, Follows (Q a) own (f a) (y a) R) :
    Follows P own (g >>= f) (x >>= y) R :=
  hg.bind_begun fun _ a _ ht hgt ↦ ⟨[], nofun, (hf a).of_eq (hg.of_ok ht hgt)⟩

/-- What is done to the insides only is nothing to the other step. -/
theorem bind_aside {g : Growing Unit} {f : Unit → Growing β} {y : Build β}
    {Q : Unit → Workshop → Prop} (hg : Follows P own g (Pure.pure ()) Q)
    (hf : Follows (Q ()) own (f ()) y R) : Follows P own (g >>= f) y R := by
  rw [← pure_bind () fun _ ↦ y]
  exact hg.bind fun _ ↦ hf

/-- One step after another that makes something of what the other one gives. -/
theorem bind_map {γ : Type} {m : γ → α} {x : Build γ} (hg : Follows P own g (m <$> x) Q)
    (hf : ∀ a, Follows (Q a) own (f a) (y a) R) :
    Follows P own (g >>= f) (x >>= fun c ↦ y (m c)) R := by
  rw [← bind_map_left m x y]
  exact hg.bind hf

theorem map (hg : Follows P own g x Q) (m : α → β) (hm : ∀ a t, Q a t → R (m a) t) :
    Follows P own (m <$> g) (m <$> x) R := by
  rw [map_eq_pure_bind, map_eq_pure_bind]
  exact hg.bind fun a ↦ .pure fun t ht ↦ hm a t ht

/-- A container is opened and closed alike. -/
theorem within (hg : Follows P own g x Q)
    (hP : ∀ t containers, P' t → P { t with workspace.containers := containers })
    (c : OpenContainer) : Follows P' own (within c g) (Build.within c x) fun _ _ ↦ True where
  forget_eq {t} ht := by
    have hx := hg.forget_eq (hP t (c :: t.workspace.containers) ht)
    rw [Growing.within, Build.within, ← hx]
    cases g { t with workspace.containers := c :: t.workspace.containers } with
    | ok a t' => rfl
    | error e t' => rfl
  grows {t} ht := by
    have hgrows := hg.grows (hP t (c :: t.workspace.containers) ht)
    rw [Growing.within]
    cases hgt : g { t with workspace.containers := c :: t.workspace.containers } with
    | ok a t' =>
      rw [hgt] at hgrows
      exact ⟨hgrows.le, hgrows.inside_eq⟩
    | error e t' =>
      rw [hgt] at hgrows
      exact ⟨hgrows.le, hgrows.inside_eq⟩
  of_ok _ _ := trivial

end Follows

namespace Copies

variable {g : Growing α} {x : Build α} {f : α → Growing β} {y : α → Build β}

theorem pure (a : α) : Copies (pure a) (pure a) := Follows.pure fun _ _ ↦ trivial

theorem throw {e : LoadFault} : Copies (throw e : Growing α) (throw e) := Follows.throw

theorem reject {e : FormatError} :
    Copies (Growing.plain (Build.reject e : Build α)) (Build.reject e) :=
  throw

/-- A step that leaves the insides alone is copied, if it gives numbers out upwards. -/
theorem plain {S : Scope → α → Nat → Prop} {F : Scope → List LoadFault}
    (h : ∀ scope, Build.Yields scope x (S scope) (F scope)) : Copies (plain x) x where
  forget_eq {t} _ := by
    rw [Growing.plain]
    cases x t.workspace <;> rfl
  grows {t} _ := by
    have hin := t.workspace.isIn_scope
    rw [Growing.plain]
    cases hx : x t.workspace with
    | ok a w => exact ⟨((h _).of_ok hin hx).1.1.used_le, fun _ _ _ ↦ rfl⟩
    | error e w => exact ⟨((h _).of_error hin hx).1.used_le, fun _ _ _ ↦ rfl⟩
  of_ok _ _ := trivial

theorem bind (hg : Copies g x) (hf : ∀ a, Copies (f a) (y a)) : Copies (g >>= f) (x >>= y) :=
  Follows.bind hg hf

theorem map (hg : Copies g x) (m : α → β) : Copies (m <$> g) (m <$> x) :=
  Follows.map hg m fun _ _ _ ↦ trivial

/-- What is inside the blocks that are there stays there. -/
theorem keep_holds (hg : Copies g x) {own : List Nat} {serial : Nat} {ns : List Node} :
    Follows (fun t ↦ t.Holds serial ns) own g x fun _ t ↦ t.Holds serial ns :=
  (hg.keep fun _ _ hgrows ht ↦ hgrows.holds List.not_mem_nil ht).mono (fun _ ht ↦ ⟨trivial, ht⟩)
    (List.nil_subset _) fun _ _ h ↦ h.2

end Copies

/-! ### Builders do the same -/

section Builders

variable {s : LoadSettings} {data : Value}

/-- What is below a bound is built alike. -/
def CopiesBelow {bound : Nat} (grow : Below bound) (build : Build.Below bound) : Prop :=
  ∀ v h, Copies (grow v h) (build v h)

theorem copies_get : Copies (plain get) get where
  forget_eq _ := rfl
  grows _ := .refl _
  of_ok _ _ := trivial

theorem copies_fresh : Copies (plain Build.fresh) Build.fresh := .plain fun _ ↦ Build.yields_fresh

theorem copies_require (operation : Operation) (key : String) :
    Copies (plain (Build.require data operation key)) (Build.require data operation key) := by
  rw [Build.require]
  cases data.get? key with
  | some v => exact Copies.pure v
  | none => exact .reject

theorem copies_spelled {α : Type} [Vocabulary α] (what : String) (v : Value) :
    Copies (plain (Build.spelled what v : Build α)) (Build.spelled what v) :=
  .plain fun _ ↦ Build.yields_spelled what v

variable {grow : Below data.height} {build : Build.Below data.height}

/-! ### Members -/

/-- What is there can be taken with the proof that it is there. -/
theorem attach_of_eq_some {α : Type} {a? : Option α} {a : α} (h : a? = some a) :
    a?.attach = some ⟨a, h⟩ :=
  Option.attach_eq_some_iff.2 h

theorem copies_member (h : CopiesBelow grow build) (operation : Operation) (key : String) :
    Copies (member data grow operation key) (Build.buildMember data build operation key) := by
  rw [Build.buildMember]
  -- the other builder looks the member up with a proof, so its cases are the ones that can be split
  split
  · rename_i v hv
    rw [member, attach_of_eq_some hv]
    exact h _ _
  · rename_i hv
    rw [member, Option.attach_eq_none_iff.2 hv]
    exact .reject

theorem copies_member? (h : CopiesBelow grow build) (key : String) :
    Copies (member? data grow key) (Build.buildMember? data build key) := by
  have habsent (hgiven : data.given? key = none) : Copies (member? data grow key) (pure none) := by
    rw [member?, Option.attach_eq_none_iff.2 hgiven]
    exact .pure none
  rw [Build.buildMember?]
  split
  · rename_i hv
    exact habsent (by rw [Value.given?, hv])
  · rename_i hv
    exact habsent (by rw [Value.given?, hv])
  · rename_i v hnull hv
    rw [member?, attach_of_eq_some (Value.given?_eq_some.2 ⟨hv, hnull⟩)]
    exact (h _ _).map some

theorem copies_all {bound : Nat} {grow : Below bound} {build : Build.Below bound}
    (h : CopiesBelow grow build) (items : List Value) (hitems : ∀ v ∈ items, v.height < bound) :
    Copies (all grow items hitems) (Build.buildAll build items hitems) := by
  induction items with
  | nil => exact .pure []
  | cons v rest ih =>
    rw [all, Build.buildAll]
    exact (h v _).bind fun n ↦ (ih _).bind fun ns ↦ .pure (n :: ns)

theorem copies_elementsOf (key : String) :
    Copies (plain (Build.elementsOf data key)) (Build.elementsOf data key) := by
  cases hwalk : data.walkOf? key with
  | none =>
    rw [Build.elementsOf_eq_throw hwalk]
    exact .throw
  | some items =>
    rw [Build.elementsOf_eq_pure hwalk]
    exact .pure _

theorem copies_variableOf (operation : Operation) :
    Copies (plain (Build.variableOf data operation)) (Build.variableOf data operation) :=
  .plain fun _ ↦ Build.yields_variableOf

/-! ### Expressions and statements -/

theorem copies_operands (h : CopiesBelow grow build) (operation : Operation)
    (make : Node → Node → Node) :
    Copies (operands data grow operation make) (do
      let left ← Build.buildMember data build operation "left"
      let right ← Build.buildMember data build operation "right"
      return make left right) := by
  rw [operands]
  exact (copies_member h _ _).bind fun left ↦ (copies_member h _ _).bind fun right ↦ .pure _

theorem copies_compare (h : CopiesBelow grow build) :
    Copies (compare data grow) (Build.buildCompare data build) := by
  rw [compare, Build.buildCompare]
  refine (copies_require _ _).bind fun name ↦ (copies_spelled _ name).bind fun kind ↦ ?_
  exact copies_operands h .compare (.compare kind)

theorem copies_binary (h : CopiesBelow grow build) :
    Copies (binary data grow) (Build.buildBinary data build) := by
  rw [binary, Build.buildBinary]
  refine (copies_require _ _).bind fun name ↦ (copies_spelled _ name).bind fun operator ↦ ?_
  exact copies_operands h .binary (.binary operator)

theorem copies_store (h : CopiesBelow grow build) :
    Copies (store data grow) (Build.buildStore data build) := by
  rw [store, Build.buildStore]
  exact (copies_variableOf _).bind fun target ↦ (copies_member h _ _).bind fun value ↦ .pure _

theorem copies_cond (h : CopiesBelow grow build) :
    Copies (cond data grow) (Build.buildCond data build) := by
  rw [cond, Build.buildCond]
  refine (copies_member h _ _).bind fun condition ↦ (copies_member h _ _).bind fun yes ↦ ?_
  exact (copies_member? h _).bind fun no ↦ .pure _

theorem copies_call (h : CopiesBelow grow build) :
    Copies (call data grow) (Build.buildCall data build) := by
  rw [call, Build.buildCall]
  split
  · rename_i hv
    rw [arguments, Option.attach_eq_none_iff.2 hv]
    exact (Copies.pure []).bind fun arguments ↦ .pure _
  · rename_i items hv
    rw [arguments, attach_of_eq_some hv]
    exact (copies_all h items _).bind fun arguments ↦ .pure _
  · rename_i v hlist hv
    rw [arguments, attach_of_eq_some hv]
    cases v with
    | list items => exact (hlist items rfl).elim
    | _ => exact Copies.reject.bind fun arguments ↦ .pure _

theorem copies_leave (h : CopiesBelow grow build) :
    Copies (leave data grow) (Build.buildLeave data build) := by
  rw [leave, Build.buildLeave]
  refine copies_get.bind fun w ↦ ?_
  cases w.containers with
  | nil => exact .reject
  | cons innermost outer =>
    refine (copies_member? h _).bind fun value ↦ ?_
    cases hgiven : data.given? "target" with
    | none =>
      rw [Value.given?_eq_none.1 hgiven]
      exact (Copies.pure innermost).bind fun c ↦ .pure _
    | some target =>
      obtain ⟨hget, hnull⟩ := Value.given?_eq_some.1 hgiven
      simp only [hget, Option.getD_some]
      cases (innermost :: outer).find? fun c ↦ c.head.label.same target with
      | some c => exact (Copies.pure c).bind fun c ↦ .pure _
      | none => exact Copies.reject.bind fun c ↦ .pure _

/-! ### Blocks -/

/-- A block that is begun has nothing inside, and has got its number by then. -/
theorem follows_blockHead (unlabelled : String) :
    Follows (fun _ ↦ True) [] (blockHead data unlabelled) (Build.blockHead data unlabelled)
      fun b t ↦ t.Holds b.serial [] := by
  have hcopies : Copies (plain (Build.blockHead data unlabelled)) _ :=
    .plain fun _ ↦ Build.yields_blockHead
  rw [← bind_pure (Build.blockHead data unlabelled)]
  refine hcopies.bind_begun fun t b t' _ hb ↦ ?_
  have hnumbers := Build.numbers_blockHead (hcopies.eq_ok trivial hb)
  refine ⟨[b.serial], hnumbers.bounds, fun _ ↦ rfl, fun _ ↦ ⟨Nat.le_refl _, fun k hk _ ↦ ?_⟩, ?_⟩
  · exact Function.update_of_ne (List.ne_of_not_mem_cons hk) _ _
  · rintro _ _ _ rfl hg
    cases hg
    exact ⟨Function.update_self .., (hnumbers.bounds _ (List.mem_singleton_self _)).2⟩

theorem follows_blockHeads (label : Value) (index : Nat) (items : List Value) :
    Follows (fun _ ↦ True) [] (blockHeads label index items) (Build.blockHeads label index items)
      fun heads t ↦ t.AreEmpty heads := by
  induction items generalizing index with
  | nil => exact .pure fun _ _ ↦ nofun
  | cons data rest ih =>
    rw [blockHeads.eq_def, Build.blockHeads.eq_def]
    cases data with
    | object members =>
      refine (follows_blockHead _).bind fun b ↦ ?_
      have hrest := (ih (index + 1)).keep fun t t' hgrows (ht : t.Holds b.serial []) ↦
        hgrows.holds List.not_mem_nil ht
      refine (hrest.mono (fun t ht ↦ ⟨trivial, ht⟩) (List.Subset.refl _) fun _ _ h ↦ h).bind
        fun bs ↦ .pure fun t ht ↦ List.forall_mem_cons.2 ⟨ht.2, ht.1⟩
    | _ => exact .throw

/-- An instruction is added at the end, if it is not left out. -/
theorem follows_add (b : BlockHead) (n : Node) (ns : List Node) :
    Follows (fun t ↦ t.Holds b.serial ns) [b.serial] (add s b n) (pure ())
      fun _ t ↦ t.Holds b.serial (ns ++ s.keptNodes [n]) := by
  rw [add, LoadSettings.keptNodes_singleton]
  split
  · exact .pure fun t ht ↦ by rwa [List.append_nil]
  · refine ⟨fun _ ↦ rfl, fun _ ↦ ⟨Nat.le_refl _, fun k hk _ ↦ ?_⟩, fun {t _ _} ht hg ↦ ?_⟩
    · exact Function.update_of_ne (List.ne_of_not_mem_cons hk) _ _
    · cases hg
      exact ⟨(Function.update_self ..).trans (congrArg (· ++ [n]) ht.1), ht.2⟩

theorem follows_insideOf (b : BlockHead) (ns : List Node) :
    Follows (fun t ↦ t.Holds b.serial ns) [b.serial] (insideOf b) (pure ns) fun _ _ ↦ True where
  forget_eq {t} ht := congrArg (EStateM.Result.ok · t.workspace) ht.1
  grows _ := .refl _
  of_ok _ _ := trivial

/-- Adding instructions one by one leaves inside a block what is kept of all of them. -/
theorem follows_fill (b : BlockHead) {bound : Nat} {grow : Below bound} {build : Build.Below bound}
    (h : CopiesBelow grow build) (items : List Value) (hitems : ∀ v ∈ items, v.height < bound)
    (ns : List Node) :
    Follows (fun t ↦ t.Holds b.serial ns) [b.serial]
      (fill s b grow items hitems >>= fun _ ↦ insideOf b)
      ((fun built ↦ ns ++ s.keptNodes built) <$> Build.buildAll build items hitems)
      fun _ _ ↦ True := by
  -- what is inside already gets longer with every instruction
  induction items generalizing ns with
  | nil =>
    rw [fill, pure_bind, Build.buildAll, map_pure, LoadSettings.keptNodes_nil, List.append_nil]
    exact follows_insideOf b ns
  | cons v rest ih =>
    rw [fill, Build.buildAll, map_bind, bind_assoc]
    refine (h v (Value.height_lt_of_head hitems)).keep_holds.bind fun n ↦ ?_
    rw [bind_assoc]
    refine (follows_add b n ns).bind_aside ?_
    have hkept : (fun built ↦ ns ++ s.keptNodes (n :: built)) =
        fun built ↦ ns ++ s.keptNodes [n] ++ s.keptNodes built := by
      funext built
      rw [LoadSettings.keptNodes_cons, List.append_assoc]
    simp only [← map_eq_pure_bind, Functor.map_map, hkept]
    exact ih _ _

/-- A block that has been begun gets the instructions that the other one is made of. -/
theorem follows_filled (h : CopiesBelow grow build) (b : BlockHead) :
    Follows (fun t ↦ t.Holds b.serial []) [b.serial] (filled s b data grow)
      (Block.mk b <$> Build.buildInstructions s data build) fun _ _ ↦ True := by
  rw [filled, Build.buildInstructions, map_bind]
  refine (copies_elementsOf "instructions").keep_holds.bind fun walked ↦ ?_
  obtain ⟨items, hitems⟩ := walked
  have hfill := (follows_fill (s := s) b h items hitems []).map (R := fun _ _ ↦ True) (Block.mk b)
    fun _ _ _ ↦ trivial
  simp only [map_eq_pure_bind, bind_assoc, pure_bind, List.nil_append] at hfill ⊢
  exact hfill

theorem copies_block (h : CopiesBelow grow build) :
    Copies (block s data grow) (Build.buildBlock s data build) := by
  have hhead : Follows _ [] (blockHead data "Block") _ _ := follows_blockHead "Block"
  rw [block, Build.buildBlock]
  refine hhead.bind_begun fun t b t' ht hb ↦ ⟨[b.serial], ?_, ?_⟩
  · exact (Build.numbers_blockHead (hhead.eq_ok ht hb)).bounds
  · have hfilled := (follows_filled (s := s) h b).of_eq (hhead.of_ok ht hb)
    exact hfilled.bind_map (y := fun b ↦ pure (Node.block b)) fun _ ↦ Follows.pure fun _ _ ↦ trivial

/-- The blocks of a container are filled one after the other, and those that are not filled yet stay
empty. -/
theorem follows_blocks {bound : Nat} {grow : Below bound} {build : Build.Below bound}
    (h : CopiesBelow grow build) {heads : List BlockHead}
    (hnodup : (heads.map BlockHead.serial).Nodup) (items : List Value)
    (hitems : ∀ v ∈ items, v.height < bound) :
    Follows (fun t ↦ t.AreEmpty heads) (heads.map BlockHead.serial)
      (blocks s grow heads items hitems) (Build.buildBlocks s build heads items hitems)
      fun _ _ ↦ True := by
  induction heads generalizing items with
  | nil =>
    rw [blocks.eq_def, Build.buildBlocks.eq_def]
    exact .pure fun _ _ ↦ trivial
  | cons b heads ih =>
    cases items with
    | nil => exact .pure fun _ _ ↦ trivial
    | cons data rest =>
      rw [List.map_cons, List.nodup_cons] at hnodup
      -- the other blocks have numbers of their own
      have hothers : ∀ c ∈ heads, c.serial ∉ [b.serial] := fun c hc hmem ↦
        hnodup.1 (List.mem_singleton.1 hmem ▸ List.mem_map_of_mem hc)
      have hbelow : @CopiesBelow data.height _ _ := fun v hv ↦
        h v (Value.height_lt_of_lt_head hitems hv)
      have hfilled := (follows_filled (s := s) hbelow b).keep fun t t' hgrows ht ↦
        hgrows.areEmpty hothers ht
      have hfirst : Follows (·.AreEmpty (b :: heads)) ((b :: heads).map BlockHead.serial) _ _
          fun _ t ↦ t.AreEmpty heads :=
        hfilled.mono (fun t ht ↦ List.forall_mem_cons.1 ht) (by simp) fun _ _ hq ↦ hq.2
      rw [blocks, Build.buildBlocks]
      refine hfirst.bind_map (y := fun filled ↦ do
        let others ← Build.buildBlocks s build heads rest _
        return filled :: others) fun filled ↦ ?_
      have hrest := (ih hnodup.2 rest (Value.height_lt_of_tail hitems)).own_mono
        (List.subset_cons_self b.serial _)
      exact hrest.bind fun others ↦ .pure fun _ _ ↦ trivial

/-- The blocks of a container are begun before any of them is filled. -/
theorem copies_insideList (h : CopiesBelow grow build) (head : ContainerHead) (items : List Value)
    (hitems : ∀ v ∈ items, v.height < data.height) :
    Copies
      (do
        let heads ← blockHeads head.label 0 items
        within ⟨head, heads⟩ (blocks s grow heads items hitems))
      (do
        let heads ← Build.blockHeads head.label 0 items
        Build.within ⟨head, heads⟩ (Build.buildBlocks s build heads items hitems)) := by
  have hheads := follows_blockHeads head.label 0 items
  refine hheads.bind_begun fun t heads t' ht hgt ↦ ?_
  have hnumbers := Build.numbers_blockHeads (hheads.eq_ok ht hgt)
  have hempty := hheads.of_ok ht hgt
  have hwithin : Follows (· = t') _ _ _ _ :=
    (follows_blocks (s := s) h hnumbers.nodup items hitems).within
      (fun t'' _ (heq : t'' = t') ↦ heq ▸ hempty) ⟨head, heads⟩
  exact ⟨_, hnumbers.bounds, hwithin.own_mono (List.subset_append_left _ _)⟩

theorem copies_container (h : CopiesBelow grow build) :
    Copies (container s data grow) (Build.buildContainer s data build) := by
  rw [container, Build.buildContainer]
  refine (copies_spelled _ _).bind fun kind ↦ copies_get.bind fun w ↦ copies_fresh.bind fun n ↦ ?_
  dsimp only
  split
  · rename_i hv
    rw [insideContainer, Option.attach_eq_none_iff.2 hv]
    exact .pure _
  · rename_i items hv
    rw [insideContainer, attach_of_eq_some hv, ← bind_assoc]
    exact (copies_insideList h _ items _).bind fun blocks ↦ .pure _
  · rename_i v hlist hv
    rw [insideContainer, attach_of_eq_some hv]
    cases v with
    | list items => exact (hlist items rfl).elim
    | _ => exact Copies.reject.bind fun arguments ↦ .pure _

/-! ### Nodes -/

theorem copies_ofOperation (h : CopiesBelow grow build) {operation : Operation}
    (hop : data.operation? = some operation) :
    Copies (ofOperation s data grow operation) (Build.buildOperation s data build operation) := by
  cases operation with
  | nop => exact .pure Node.nop
  | constant => exact .plain fun _ ↦ Build.yields_buildConstant (s := s) hop
  | load => exact .plain fun _ ↦ Build.yields_buildLoad (s := s) hop
  | store => exact copies_store h
  | compare => exact copies_compare h
  | binary => exact copies_binary h
  | cond => exact copies_cond h
  | call => exact copies_call h
  | branch => exact .plain fun _ ↦ Build.yields_buildBranch (s := s) hop
  | leave => exact copies_leave h
  | block => exact copies_block h
  | container => exact copies_container h

theorem copies_nodeWith (h : CopiesBelow grow build) :
    Copies (nodeWith s data grow) (Build.buildWith s data build) := by
  rw [nodeWith.eq_def, Build.buildWith.eq_def]
  cases hget : data.get? "op" with
  | none => exact .reject
  | some v =>
    cases v with
    | string name =>
      dsimp only
      cases hname : Operation.ofName? name with
      | none => exact .reject
      | some operation => exact copies_ofOperation h (by rw [Value.operation?, hget, ← hname])
    | list items => exact .throw
    | object members => exact .throw
    | _ => exact .reject

end Builders

theorem copies_node (s : LoadSettings) (data : Value) :
    Copies (node s data) (Build.buildNode s data) := by
  rw [node_eq, Build.buildNode_eq]
  exact copies_nodeWith fun v _ ↦ copies_node s v
termination_by data.height

/-- A node is built in a scope, and the scope is the same when it has been built or given up. -/
theorem isIn_ending_node (s : LoadSettings) (data : Value) (t : Workshop) :
    (ending (node s data t)).workspace.IsIn t.workspace.scope := by
  have hyields := Build.yields_buildNode s data t.workspace.scope
  have hforget := (copies_node s data).forget_eq (t := t) trivial
  cases hnode : node s data t with
  | ok n t' =>
    rw [hnode] at hforget
    exact (hyields.of_ok t.workspace.isIn_scope hforget.symm).1.1
  | error e t' =>
    rw [hnode] at hforget
    exact (hyields.of_error t.workspace.isIn_scope hforget.symm).1

/-- **What building a node leaves behind.** Whether blocks are filled in place or not, the same node
is built or the same fault is met. At the end, also after a fault, the declared variables are what
they were, and so are the open containers with their labels and blocks. Instructions have been added
only to blocks that have got their numbers since. -/
theorem node_restores (s : LoadSettings) (data : Value) (t : Workshop) :
    forget (node s data t) = Build.buildNode s data t.workspace ∧
      (ending (node s data t)).workspace.locals = t.workspace.locals ∧
      (ending (node s data t)).workspace.containers = t.workspace.containers ∧
      ∀ serial, (ending (node s data t)).inside serial ≠ t.inside serial →
        t.workspace.nextSerial ≤ serial ∧
          serial < (ending (node s data t)).workspace.nextSerial := by
  have hcopies := copies_node s data
  have hscope := isIn_ending_node s data t
  refine ⟨hcopies.forget_eq trivial, hscope.locals, hscope.containers, fun serial hchanged ↦ ?_⟩
  have hgrows := hcopies.grows (t := t) trivial
  by_contra hold
  exact hchanged (hgrows.inside_eq serial List.not_mem_nil (by omega))

end Growing

end StructuredIL
