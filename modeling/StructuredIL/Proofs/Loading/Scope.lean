import StructuredIL.Proofs.Loading.Faults
import StructuredIL.Proofs.Loading.Realization

/-!
# Steps of a load

`Build.Ends B x A E F` says how a step `x` of a load ends when it begins in a workspace as `B` says.
If the list `F` of faults is empty, it succeeds, and its result and the workspace are as `A` says.
Otherwise it fails with the first of the faults, and the workspace is as `E` says. Two steps after
one another have the faults of both (`Ends.bind`).

Names are looked up in the workspace while a tree is built, and the finished tree speaks of the
containers around a place in it. A `Scope` is the part of a workspace that a name can be looked up
in, so it is what both have in common. `Build.Yields S x P F` is said of a step that begins in the
scope `S` and leaves the workspace in that scope, **whether it succeeds or not**; its result is as
`P` says, where `P` may also speak of the next free number. In `Yields.bind_used` the second of two
steps may count on the numbers that the first one has used.
-/

namespace StructuredIL

/-! ### Scopes -/

/-- What a container brings into scope. -/
def OpenContainer.labels (c : OpenContainer) : Labels :=
  ⟨c.head.label, c.blocks.map BlockHead.label⟩

/-- What names are looked up in, and a bound on the serial numbers that have been given out. -/
structure Scope where
  /-- The variables of the function. -/
  locals : List Variable
  /-- The open containers, innermost first. -/
  containers : List OpenContainer
  /-- No serial number below this one will be given out. -/
  used : Nat

namespace Scope

/-- The declared names. -/
def names (S : Scope) : List Text := S.locals.map Variable.name

/-- The labels of the open containers. -/
def labels (S : Scope) : List Labels := S.containers.map OpenContainer.labels

/-- The scope inside a container. -/
def inside (S : Scope) (c : OpenContainer) : Scope := { S with containers := c :: S.containers }

/-- The scope when the numbers below another one have been given out. -/
def upTo (S : Scope) (next : Nat) : Scope := { S with used := next }

end Scope

namespace Workspace

/-- A workspace in which names mean what they mean in a scope. -/
structure IsIn (w : Workspace) (S : Scope) : Prop where
  /-- The variables are the same. -/
  locals : w.locals = S.locals
  /-- The open containers are the same. -/
  containers : w.containers = S.containers
  /-- The numbers below the bound have been given out. -/
  used_le : S.used ≤ w.nextSerial

variable {w : Workspace} {S : Scope} {next : Nat}

/-- The numbers that have been given out so far are used. -/
theorem IsIn.upTo (h : w.IsIn S) : w.IsIn (S.upTo w.nextSerial) :=
  ⟨h.locals, h.containers, Nat.le_refl _⟩

theorem IsIn.of_upTo (h : w.IsIn (S.upTo next)) (hnext : S.used ≤ next) : w.IsIn S :=
  ⟨h.locals, h.containers, Nat.le_trans hnext h.used_le⟩

end Workspace

namespace Build

variable {α β : Type}

theorem bind_eq_ok {x : Build α} {f : α → Build β} {w w'' : Workspace} {b : β} :
    (x >>= f) w = .ok b w'' ↔ ∃ a w', x w = .ok a w' ∧ f a w' = .ok b w'' := by
  show EStateM.bind x f w = _ ↔ _
  rw [EStateM.bind]
  cases x w <;> simp

theorem bind_eq_error {x : Build α} {f : α → Build β} {w w'' : Workspace} {e : LoadFault} :
    (x >>= f) w = .error e w'' ↔
      x w = .error e w'' ∨ ∃ a w', x w = .ok a w' ∧ f a w' = .error e w'' := by
  show EStateM.bind x f w = _ ↔ _
  rw [EStateM.bind]
  cases x w <;> simp

/-! ### How a step ends -/

/-- How a step ends that begins as `B` says: as `A` says or, with the first of some faults, as `E`
says. -/
structure Ends (B : Workspace → Prop) (x : Build α) (A : α → Workspace → Prop)
    (E : Workspace → Prop) (F : List LoadFault) : Prop where
  /-- If the step succeeds, there is no fault. -/
  of_ok : ∀ {w a w'}, B w → x w = .ok a w' → A a w' ∧ F = []
  /-- If the step fails, it fails with the first fault. -/
  of_error : ∀ {w e w'}, B w → x w = .error e w' → E w' ∧ F.head? = some e

namespace Ends

variable {B E : Workspace → Prop} {A : α → Workspace → Prop} {A' : β → Workspace → Prop}
  {F G : List LoadFault} {x : Build α} {f : α → Build β}

theorem mono {B' E' : Workspace → Prop} {A'' : α → Workspace → Prop} (h : Ends B x A E F)
    (hB : ∀ w, B' w → B w) (hA : ∀ a w, A a w → A'' a w) (hE : ∀ w, E w → E' w) :
    Ends B' x A'' E' F where
  of_ok hw hx := (h.of_ok (hB _ hw) hx).imp (hA _ _) id
  of_error hw hx := (h.of_error (hB _ hw) hx).imp (hE _) id

/-- How a step ends in a workspace of a scope. -/
theorem of_isIn {w : Workspace} {S : Scope} (hw : w.IsIn S) (h : Ends (·.IsIn S) x A E F) :
    Ends (· = w) x A E F :=
  h.mono (fun _ heq ↦ heq ▸ hw) (fun _ _ ha ↦ ha) fun _ he ↦ he

theorem pure {a : α} (h : ∀ w, B w → A a w) : Ends B (pure a) A E [] where
  of_ok hw hx := by
    cases hx
    exact ⟨h _ hw, rfl⟩
  of_error _ hx := nomatch hx

theorem throw {e : LoadFault} (h : ∀ w, B w → E w) : Ends B (throw e) A E (e :: F) where
  of_ok _ hx := nomatch hx
  of_error hw hx := by
    cases hx
    exact ⟨h _ hw, rfl⟩

/-- **One step after the other.** How the second one begins may depend on how the first one has
ended. -/
theorem bind (hx : Ends B x A E F)
    (hf : ∀ a w, A a w → Ends (· = w) (f a) A' E G) :
    Ends B (x >>= f) A' E (F ++ G) where
  of_ok hw h := by
    obtain ⟨a, w', hxw, hfw⟩ := bind_eq_ok.1 h
    obtain ⟨ha, rfl⟩ := hx.of_ok hw hxw
    exact (hf a w' ha).of_ok rfl hfw
  of_error hw h := by
    rcases bind_eq_error.1 h with hxw | ⟨a, w', hxw, hfw⟩
    · obtain ⟨hE, hhead⟩ := hx.of_error hw hxw
      exact ⟨hE, by rw [List.head?_append, hhead, Option.some_or]⟩
    · obtain ⟨ha, rfl⟩ := hx.of_ok hw hxw
      exact (hf a w' ha).of_error rfl hfw

/-- One step after another that cannot fail. -/
theorem bind_nil (hx : Ends B x A E [])
    (hf : ∀ a w, A a w → Ends (· = w) (f a) A' E F) :
    Ends B (x >>= f) A' E F :=
  hx.bind hf

/-- What would follow a failure does not matter. -/
theorem throw_bind {e : LoadFault} (h : ∀ w, B w → E w) :
    Ends B (MonadExcept.throw e >>= f) A' E (e :: F) :=
  (throw (A := fun _ _ ↦ False) (F := []) h).bind fun _ _ h ↦ h.elim

theorem map {g : α → β} (hx : Ends B x A E F) (hg : ∀ a w, A a w → A' (g a) w) :
    Ends B (g <$> x) A' E F := by
  rw [map_eq_pure_bind, ← List.append_nil F]
  exact hx.bind fun a w ha ↦ .pure fun w' hw' ↦ hw' ▸ hg a w ha

/-- Looking at the workspace. -/
theorem get_bind {f : Workspace → Build β} (hf : ∀ w, B w → Ends B (f w) A' E F) :
    Ends B (get >>= f) A' E F where
  of_ok {w _ _} hw h := (hf w hw).of_ok hw h
  of_error {w _ _} hw h := (hf w hw).of_error hw h

/-- A step succeeds exactly if there is no fault. -/
theorem exists_ok_iff (h : Ends B x A E F) {w : Workspace} (hw : B w) :
    (∃ a w', x w = .ok a w') ↔ F = [] := by
  constructor
  · rintro ⟨a, w', hx⟩
    exact (h.of_ok hw hx).2
  · rintro rfl
    cases hx : x w with
    | ok a w' => exact ⟨a, w', rfl⟩
    | error e w' => cases (h.of_error hw hx).2

end Ends

/-! ### Steps in a scope -/

section Yields

variable {S : Scope} {P : α → Nat → Prop} {Q : β → Nat → Prop} {F G : List LoadFault}

/-- A step that keeps a scope, with what it gives and what it fails with. -/
def Yields (S : Scope) (x : Build α) (P : α → Nat → Prop) (F : List LoadFault) : Prop :=
  Ends (·.IsIn S) x (fun a w ↦ w.IsIn S ∧ P a w.nextSerial) (·.IsIn S) F

namespace Yields

variable {x : Build α} {f : α → Build β}

/-- How a step in a scope ends, if it does not matter how it fails. -/
theorem ends (h : Yields S x P F) :
    Ends (·.IsIn S) x (fun a w ↦ w.IsIn S ∧ P a w.nextSerial) (fun _ ↦ True) F :=
  Ends.mono h (fun _ hw ↦ hw) (fun _ _ ha ↦ ha) fun _ _ ↦ trivial

theorem mono {P' : α → Nat → Prop} (h : Yields S x P F) (hP : ∀ a next, P a next → P' a next) :
    Yields S x P' F :=
  Ends.mono h (fun _ hw ↦ hw) (fun a _ ha ↦ ⟨ha.1, hP a _ ha.2⟩) fun _ hw ↦ hw

theorem pure {a : α} (h : ∀ next, S.used ≤ next → P a next) : Yields S (pure a) P [] :=
  Ends.pure fun _ hw ↦ ⟨hw, h _ hw.used_le⟩

theorem throw {e : LoadFault} : Yields S (throw e) P (e :: F) := Ends.throw fun _ hw ↦ hw

theorem reject {e : FormatError} : Yields S (reject e) P (.ofFormat e :: F) := throw

/-- One step after the other. The second one may use what the first has shown, and knows that the
numbers that the first one has used are not given out again. -/
theorem bind_used (hx : Yields S x P F)
    (hf : ∀ a next, S.used ≤ next → P a next → Yields (S.upTo next) (f a) Q G) :
    Yields S (x >>= f) Q (F ++ G) := by
  refine Ends.bind hx fun a w ⟨hw, ha⟩ ↦ .of_isIn hw.upTo ?_
  have hkept {v : Workspace} (hv : v.IsIn (S.upTo w.nextSerial)) : v.IsIn S :=
    hv.of_upTo hw.used_le
  exact Ends.mono (hf a _ hw.used_le ha) (fun _ hv ↦ hv) (fun _ _ hb ↦ ⟨hkept hb.1, hb.2⟩)
    fun _ hv ↦ hkept hv

/-- One step after another that uses no numbers. -/
theorem bind (hx : Yields S x P F) (hf : ∀ a, (∃ next, P a next) → Yields S (f a) Q G) :
    Yields S (x >>= f) Q (F ++ G) :=
  Ends.bind hx fun a _ ⟨hw, ha⟩ ↦ .of_isIn hw (hf a ⟨_, ha⟩)

/-- One step after another that cannot fail. -/
theorem bind_nil (hx : Yields S x P []) (hf : ∀ a, (∃ next, P a next) → Yields S (f a) Q F) :
    Yields S (x >>= f) Q F :=
  hx.bind hf

/-- What would follow a failure does not matter. -/
theorem throw_bind {e : LoadFault} : Yields S (MonadExcept.throw e >>= f) Q (e :: G) :=
  Ends.throw_bind fun _ hw ↦ hw

theorem reject_bind {e : FormatError} : Yields S (Build.reject e >>= f) Q (.ofFormat e :: G) :=
  throw_bind

theorem map {g : α → β} (hx : Yields S x P F) (hg : ∀ a next, P a next → Q (g a) next) :
    Yields S (g <$> x) Q F :=
  Ends.map hx fun a _ ha ↦ ⟨ha.1, hg a _ ha.2⟩

end Yields

/-- Looking at the workspace. -/
theorem Yields.get_bind {f : Workspace → Build β} (hf : ∀ w, w.IsIn S → Yields S (f w) Q F) :
    Yields S (get >>= f) Q F :=
  Ends.get_bind hf

theorem yields_fresh : Yields S fresh (fun n next ↦ S.used ≤ n ∧ next = n + 1) [] where
  of_ok {w _ _} hw h := by
    cases h
    exact ⟨⟨⟨hw.locals, hw.containers, Nat.le_succ_of_le hw.used_le⟩, hw.used_le, rfl⟩, rfl⟩
  of_error _ h := nomatch h

/-- What follows may count on a number of its own. -/
theorem Yields.fresh_bind {f : Nat → Build β}
    (hf : ∀ n, Numbers S.used [n] (n + 1) → Yields (S.upTo (n + 1)) (f n) Q F) :
    Yields S (fresh >>= f) Q F :=
  yields_fresh.bind_used fun n _ _ ⟨hn, hnext⟩ ↦ hnext ▸ hf n (.singleton hn)

/-- Work inside a container keeps the scope outside of it, however it ends. -/
theorem Yields.within {c : OpenContainer} {x : Build α} (hx : Yields (S.inside c) x P F) :
    Yields S (within c x) P F := by
  have hin {w : Workspace} (hw : w.IsIn S) :
      Workspace.IsIn { w with containers := c :: w.containers } (S.inside c) :=
    ⟨hw.locals, congrArg (c :: ·) hw.containers, hw.used_le⟩
  have hout {w : Workspace} (hw : w.IsIn (S.inside c)) :
      Workspace.IsIn { w with containers := w.containers.tail } S :=
    ⟨hw.locals, congrArg List.tail hw.containers, hw.used_le⟩
  constructor
  · intro w a w' hw h
    rw [Build.within] at h
    cases hxw : x { w with containers := c :: w.containers } with
    | error e v => simp [hxw] at h
    | ok b v =>
      rw [hxw] at h
      cases h
      obtain ⟨⟨hv, hb⟩, hF⟩ := Ends.of_ok hx (hin hw) hxw
      exact ⟨⟨hout hv, hb⟩, hF⟩
  · -- the container is taken away again also where the work inside it fails
    intro w e w' hw h
    rw [Build.within] at h
    cases hxw : x { w with containers := c :: w.containers } with
    | ok b v => simp [hxw] at h
    | error e' v =>
      rw [hxw] at h
      cases h
      obtain ⟨hv, hhead⟩ := Ends.of_error hx (hin hw) hxw
      exact ⟨hout hv, hhead⟩

end Yields

theorem ends_progress {B E : Workspace → Prop} {text : Text} :
    Ends B (progress text) (fun _ _ ↦ True) E [] where
  of_ok _ h := by
    cases h
    exact ⟨trivial, rfl⟩
  of_error _ h := nomatch h

end Build

end StructuredIL
