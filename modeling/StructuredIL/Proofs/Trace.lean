import Mathlib.Data.List.Basic
import Mathlib.Data.Sum.Basic

/-!
# Bounded runs

What a program does is told here by what it prints and by how it ends. A program may run forever,
so a run is given a limit: every time a loop is entered it may begin that many rounds after the
first, and a run that needs more of them ends at the limit. A run with a greater limit prints the
same and goes on (`Trace.Extends`), so what a program does is known from its runs with all limits,
also if none of them comes to an end.

Trees and C programs are run with the same few operations, and two runs are compared by
`Trace.Related`: both print the same, and either both end at the limit or both end in states that
are related. The proofs that go through loops are done once, for `rounds`.
-/

namespace StructuredIL

/-- How a run ends: `σ` is what the variables hold, `ε` how control goes on. -/
inductive Trace.Ending (σ ε : Type) where
  /-- A loop was to begin one round more than the limit allows. -/
  | limit
  /-- What was to be run has no meaning. -/
  | stuck
  /-- Control goes on, with these variables. -/
  | exit (e : ε) (state : σ)

/-- A run up to a limit. -/
structure Trace (σ ε : Type) where
  /-- What was printed, in order. -/
  printed : List Int32
  /-- How it ended. -/
  ending : Trace.Ending σ ε

namespace Trace

variable {σ ε φ α β : Type}

/-! ### Operations -/

/-- A run that does nothing more. -/
def done (e : ε) (state : σ) : Trace σ ε := ⟨[], .exit e state⟩

/-- A run of something without a meaning. -/
def stuck : Trace σ ε := ⟨[], .stuck⟩

/-- A run that goes on with another, if control comes to its end. -/
def andThen (r : Trace σ ε) (next : ε → σ → Trace σ φ) : Trace σ φ :=
  match r.ending with
  | .limit => ⟨r.printed, .limit⟩
  | .stuck => ⟨r.printed, .stuck⟩
  | .exit e state => ⟨r.printed ++ (next e state).printed, (next e state).ending⟩

/-- Rounds, one after the other. A round goes on with another, for which it leaves an `α`, or is the
last. The limit is for the rounds after the first. -/
def rounds (round : α → σ → Trace σ (α ⊕ β)) : Nat → α → σ → Trace σ β
  | 0, a, state => (round a state).andThen fun
    | .inl _, _ => ⟨[], .limit⟩
    | .inr b, state => done b state
  | limit + 1, a, state => (round a state).andThen fun
    | .inl a, state => rounds round limit a state
    | .inr b, state => done b state

theorem done_andThen (e : ε) (state : σ) (next : ε → σ → Trace σ φ) :
    (done e state).andThen next = next e state := rfl

theorem andThen_assoc {ψ : Type} (r : Trace σ ε) (next : ε → σ → Trace σ φ)
    (last : φ → σ → Trace σ ψ) :
    (r.andThen next).andThen last = r.andThen fun e state ↦ (next e state).andThen last := by
  obtain ⟨printed, _ | _ | ⟨e, state⟩⟩ := r
  · rfl
  · rfl
  · cases h : (next e state).ending <;> simp [andThen, h]

theorem andThen_done (r : Trace σ ε) : r.andThen done = r := by
  obtain ⟨printed, _ | _ | ⟨e, state⟩⟩ := r
  · rfl
  · rfl
  · simp [andThen, done]

/-! ### Greater limits -/

/-- The second run is the first one, with a greater limit. -/
def Extends (r r' : Trace σ ε) : Prop :=
  r' = r ∨ r.ending = .limit ∧ r.printed <+: r'.printed

theorem Extends.refl (r : Trace σ ε) : r.Extends r := .inl rfl

theorem Extends.andThen {r r' : Trace σ ε} {next next' : ε → σ → Trace σ φ} (h : r.Extends r')
    (hnext : ∀ e state, (next e state).Extends (next' e state)) :
    (r.andThen next).Extends (r'.andThen next') := by
  rcases h with rfl | ⟨hlimit, hprefix⟩
  · obtain ⟨printed, _ | _ | ⟨e, state⟩⟩ := r'
    · exact .refl _
    · exact .refl _
    · rcases hnext e state with h | ⟨hlimit, hprefix⟩
      · exact .inl (by simp [Trace.andThen, h])
      · exact .inr ⟨hlimit, (List.prefix_append_right_inj printed).2 hprefix⟩
  · -- the first run never comes to what is next, and the second only prints more
    have hr : r.andThen next = ⟨r.printed, .limit⟩ := by rw [Trace.andThen, hlimit]
    rw [hr]
    refine .inr ⟨rfl, hprefix.trans ?_⟩
    obtain ⟨printed, _ | _ | ⟨e, state⟩⟩ := r'
    · exact List.prefix_rfl
    · exact List.prefix_rfl
    · exact List.prefix_append _ _

/-- **More rounds extend a run.** -/
theorem Extends.rounds {round round' : α → σ → Trace σ (α ⊕ β)}
    (h : ∀ a state, (round a state).Extends (round' a state)) {limit limit' : Nat}
    (hlimit : limit ≤ limit') (a : α) (state : σ) :
    (Trace.rounds round limit a state).Extends (Trace.rounds round' limit' a state) := by
  -- each round takes one from both limits, so the smaller is used up first
  induction limit generalizing limit' a state with
  | zero =>
    cases limit' with
    | zero => exact (h a state).andThen fun e state ↦ .refl _
    | succ limit' =>
      refine (h a state).andThen fun e state ↦ ?_
      rcases e with a | b
      · show Extends ⟨[], .limit⟩ (Trace.rounds round' limit' a state)
        exact .inr ⟨rfl, List.nil_prefix⟩
      · exact .refl _
  | succ limit ih =>
    obtain _ | limit' := limit'
    · exact absurd hlimit (Nat.not_succ_le_zero _)
    refine (h a state).andThen fun e state ↦ ?_
    rcases e with a | b
    · exact ih (Nat.le_of_succ_le_succ hlimit) a state
    · exact .refl _

/-! ### Comparing runs -/

variable {σ' ε' φ' α' β' : Type}

/-- Both runs print the same and end alike: at the limit, or both with control that goes on in
related ways. Neither gets stuck. -/
def Related (R : ε → σ → ε' → σ' → Prop) (r : Trace σ ε) (r' : Trace σ' ε') : Prop :=
  r.printed = r'.printed ∧
    match r.ending, r'.ending with
    | .limit, .limit => True
    | .exit e state, .exit e' state' => R e state e' state'
    | _, _ => False

variable {R : ε → σ → ε' → σ' → Prop} {S : φ → σ → φ' → σ' → Prop}

theorem Related.done {e : ε} {e' : ε'} {state : σ} {state' : σ'} (h : R e state e' state') :
    Related R (.done e state) (.done e' state') := ⟨rfl, h⟩

theorem Related.andThen {r : Trace σ ε} {r' : Trace σ' ε'} {next : ε → σ → Trace σ φ}
    {next' : ε' → σ' → Trace σ' φ'} (h : Related R r r')
    (hnext : ∀ e state e' state', R e state e' state' →
      Related S (next e state) (next' e' state')) :
    Related S (r.andThen next) (r'.andThen next') := by
  obtain ⟨printed, ending⟩ := r
  obtain ⟨printed', ending'⟩ := r'
  obtain ⟨rfl, hending⟩ : printed = printed' ∧ _ := h
  cases ending with
  | limit =>
    cases ending' with
    | limit => exact ⟨rfl, trivial⟩
    | _ => exact hending.elim
  | stuck => exact hending.elim
  | exit e state =>
    cases ending' with
    | exit e' state' =>
      obtain ⟨hprinted, hends⟩ := hnext e state e' state' hending
      exact ⟨congrArg (printed ++ ·) hprinted, hends⟩
    | _ => exact hending.elim

theorem Related.mono {R' : ε → σ → ε' → σ' → Prop} {r : Trace σ ε} {r' : Trace σ' ε'}
    (h : Related R r r') (hR : ∀ e state e' state', R e state e' state' → R' e state e' state') :
    Related R' r r' := by
  rw [← r.andThen_done, ← r'.andThen_done]
  exact h.andThen fun e state e' state' hr ↦ .done (hR e state e' state' hr)

/-- **Related rounds make related runs.** `S` is what holds when a round begins. -/
theorem Related.rounds {R : β → σ → β' → σ' → Prop} {S : α → σ → α' → σ' → Prop}
    {round : α → σ → Trace σ (α ⊕ β)} {round' : α' → σ' → Trace σ' (α' ⊕ β')}
    (h : ∀ a state a' state', S a state a' state' →
      Related (fun e state e' state' ↦
        Sum.LiftRel (S · state · state') (R · state · state') e e')
        (round a state) (round' a' state'))
    (limit : Nat) {a : α} {a' : α'} {state : σ} {state' : σ'} (hS : S a state a' state') :
    Related R (Trace.rounds round limit a state) (Trace.rounds round' limit a' state') := by
  -- `S` holds again whenever a round goes on with another, so the limits are used up together
  induction limit generalizing a a' state state' with
  | zero =>
    refine (h a state a' state' hS).andThen fun e state e' state' he ↦ ?_
    cases he with
    | inl _ => exact ⟨rfl, trivial⟩
    | inr hR => exact .done hR
  | succ limit ih =>
    refine (h a state a' state' hS).andThen fun e state e' state' he ↦ ?_
    cases he with
    | inl hS => exact ih hS
    | inr hR => exact .done hR

/-- Rounds of which the first is the last. -/
theorem Related.rounds_of_last {R : β → σ → ε' → σ' → Prop} {round : α → σ → Trace σ (α ⊕ β)}
    {a : α} {state : σ} {r : Trace σ' ε'}
    (h : Related (fun e state e' state' ↦ ∃ b, e = .inr b ∧ R b state e' state') (round a state) r)
    (limit : Nat) : Related R (Trace.rounds round limit a state) r := by
  -- the other run goes on as well, with nothing, so that the two can be taken together
  rw [← r.andThen_done]
  cases limit with
  | zero =>
    refine h.andThen fun e state e' state' he ↦ ?_
    obtain ⟨b, rfl, hR⟩ := he
    exact .done hR
  | succ limit =>
    refine h.andThen fun e state e' state' he ↦ ?_
    obtain ⟨b, rfl, hR⟩ := he
    exact .done hR

end Trace

end StructuredIL
