import StructuredIL.Text.Basic

/-!
# The log

What the library has to say about a run besides its result. A `Logged` computation may fail, and it
keeps what it has logged either way: the records of a failed run are as much part of what is seen as
those of a run that succeeds. Records are only ever added at the end, so the log of a sequence is
the log of its first part followed by that of the second (`log_bind_ok`), and a part that fails ends
the log with its own records (`log_bind_error`).
-/

namespace StructuredIL

/-! ### Records -/

/-- How much a record matters. -/
inductive Level where
  /-- Progress. -/
  | debug
  /-- Information. -/
  | info
  /-- Something was replaced or ignored. -/
  | warning
  /-- The run cannot go on. -/
  | error
  deriving DecidableEq, Repr

/-- The word for a level. -/
def Level.name : Level → String
  | .debug => "DEBUG"
  | .info => "INFO"
  | .warning => "WARNING"
  | .error => "ERROR"

/-- The rank of a level among all levels that a threshold may have. -/
def Level.rank : Level → Nat
  | .debug => 10
  | .info => 20
  | .warning => 30
  | .error => 40

/-- The part of the library that a record comes from. -/
inductive Component where
  /-- Loading of documents. -/
  | loader
  /-- Lowering to C. -/
  | generator
  /-- The configuration. -/
  | configuration
  /-- The command line. -/
  | commandLine
  deriving DecidableEq, Repr

/-- The name that a component logs under. -/
def Component.name : Component → String
  | .loader => "il2c.ir.loader"
  | .generator => "il2c.codegen.c"
  | .configuration => "il2c.common.config"
  | .commandLine => "il2c.cli"

/-- One entry of the log. -/
structure Record where
  /-- How much it matters. -/
  level : Level
  /-- Who says it. -/
  component : Component
  /-- What is said. -/
  text : Text
  deriving DecidableEq, Repr

/-- A record as a line shows it. -/
def Record.line (r : Record) : Text :=
  r.level.name ++ " " ++ r.component.name ++ ": " ++ r.text

/-! ### Computations with a log -/

/-- One computation after another succeeds if both do. -/
theorem bind_eq_ok {ε α β : Type} {x : Except ε α} {f : α → Except ε β} {b : β} :
    x >>= f = .ok b ↔ ∃ a, x = .ok a ∧ f a = .ok b := by
  cases x <;> simp [bind, Except.bind]

/-- The result of a computation that may fail, with all it has logged. -/
structure Logged (ε α : Type) where
  /-- The value, or why there is none. -/
  outcome : Except ε α
  /-- The records, in the order in which they were made. -/
  log : List Record

namespace Logged

variable {ε α β γ : Type}

/-- Says something. -/
def say (level : Level) (component : Component) (text : Text) : Logged ε Unit :=
  ⟨.ok (), [⟨level, component, text⟩]⟩

/-- Fails without a word. -/
def fail (e : ε) : Logged ε α := ⟨.error e, []⟩

/-- A result that nothing was logged for. -/
def ofExcept (x : Except ε α) : Logged ε α := ⟨x, []⟩

/-- One computation after another. -/
def andThen (x : Logged ε α) (f : α → Logged ε β) : Logged ε β :=
  match x.outcome with
  | .ok a => ⟨(f a).outcome, x.log ++ (f a).log⟩
  | .error e => ⟨.error e, x.log⟩

instance : Monad (Logged ε) where
  pure a := ⟨.ok a, []⟩
  bind := andThen

@[simp] theorem outcome_pure (a : α) : (pure a : Logged ε α).outcome = .ok a := rfl

@[simp] theorem log_pure (a : α) : (pure a : Logged ε α).log = [] := rfl

theorem bind_of_ok {x : Logged ε α} {a : α} (h : x.outcome = .ok a) (f : α → Logged ε β) :
    x >>= f = ⟨(f a).outcome, x.log ++ (f a).log⟩ := by
  show andThen x f = _
  rw [andThen, h]

theorem bind_of_error {x : Logged ε α} {e : ε} (h : x.outcome = .error e) (f : α → Logged ε β) :
    x >>= f = ⟨.error e, x.log⟩ := by
  show andThen x f = _
  rw [andThen, h]

theorem log_bind_ok {x : Logged ε α} {a : α} (h : x.outcome = .ok a) (f : α → Logged ε β) :
    (x >>= f).log = x.log ++ (f a).log := by
  rw [bind_of_ok h]

theorem log_bind_error {x : Logged ε α} {e : ε} (h : x.outcome = .error e)
    (f : α → Logged ε β) : (x >>= f).log = x.log := by
  rw [bind_of_error h]

theorem outcome_bind_eq_ok {x : Logged ε α} {f : α → Logged ε β} {b : β} :
    (x >>= f).outcome = .ok b ↔ ∃ a, x.outcome = .ok a ∧ (f a).outcome = .ok b := by
  cases hx : x.outcome with
  | ok a => simp [bind_of_ok hx]
  | error e => simp [bind_of_error hx]

theorem outcome_map_eq_ok {x : Logged ε α} {f : α → β} {b : β} :
    (f <$> x).outcome = .ok b ↔ ∃ a, x.outcome = .ok a ∧ f a = b := by
  show (x >>= fun a ↦ pure (f a)).outcome = _ ↔ _
  simp [outcome_bind_eq_ok]

private theorem id_map_logged (x : Logged ε α) : id <$> x = x := by
  obtain ⟨outcome, log⟩ := x
  cases outcome <;> simp [Functor.map, andThen]

private theorem bind_assoc_logged (x : Logged ε α) (f : α → Logged ε β) (g : β → Logged ε γ) :
    x >>= f >>= g = x >>= fun a ↦ f a >>= g := by
  obtain ⟨outcome, log⟩ := x
  cases outcome with
  | error e => rfl
  | ok a => cases h : (f a).outcome <;> simp [bind, andThen, h]

instance : LawfulMonad (Logged ε) :=
  LawfulMonad.mk' (Logged ε) id_map_logged (fun a f ↦ by simp [bind, andThen, pure])
    bind_assoc_logged

end Logged

end StructuredIL
