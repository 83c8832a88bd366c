import Mathlib.Logic.Function.Basic
import StructuredIL.Proofs.C.Grammar
import StructuredIL.Proofs.Trace

/-!
# What C programs mean

A program holds an integer of 32 bits for every name. An expression has a number for its value,
which may be wider. An assignment converts it to the type of its variable: a `bool` holds one or
zero after it, and an `int32_t` the last 32 bits. Variables are not set at the beginning, so a run
is given what they hold then. What is printed has to be an `int`, as the format asks for one.

A command that is run says how control leaves it. A loop takes up `continue` and `break`, and passes
`return` on. Its limit is the same as that of the containers of a tree: it is for the rounds after
the first.
-/

namespace StructuredIL.C

/-- What the variables of a program hold. -/
abbrev Memory := Text → Int32

/-- What a variable of a type holds after it is assigned a number. -/
def CType.convert : CType → Number → Int32
  | .int32, a => a.toInt32
  | .bool, a => if a.isTrue then 1 else 0

/-- Whether a condition is met. -/
def Term.isTrue? (τ : Memory) (c : Term) : Option Bool := (c.number? τ).map Number.isTrue

/-- What a value is printed as. -/
def Term.printed? (τ : Memory) (t : Term) : Option Int32 := (t.number? τ).bind Number.int?

/-- How control leaves a command. -/
inductive Command.Exit where
  /-- To what comes next. -/
  | next
  /-- To the next round of the innermost loop. -/
  | again
  /-- To the end of the innermost loop. -/
  | broken
  /-- To the end of the function. -/
  | returned
  deriving DecidableEq, Repr

/-- Goes on after a round of a loop: with another round or out of the loop. -/
def Command.proceed : Exit → Unit ⊕ Exit
  | .next => .inl ()
  | .again => .inl ()
  | .broken => .inr .next
  | .returned => .inr .returned

/-- The type of a variable. -/
def typeOf (locals : List (CType × Text)) (t : Text) : CType :=
  match locals.find? fun d ↦ d.2 == t with
  | some d => d.1
  | none => .int32

mutual
/-- Runs a command with variables of these types. -/
def Command.run (locals : List (CType × Text)) (limit : Nat) :
    Command → Memory → Trace Memory Command.Exit
  | .empty, τ => .done .next τ
  | .assign t value, τ =>
    match value.number? τ with
    | some a => .done .next (Function.update τ t ((typeOf locals t).convert a))
    | none => .stuck
  | .print value, τ =>
    match value.printed? τ with
    | some a => ⟨[a], .exit .next τ⟩
    | none => .stuck
  | .nextRound, τ => .done .again τ
  | .exitLoop, τ => .done .broken τ
  | .exitFunction, τ => .done .returned τ
  | .compound parts, τ => Command.runAll locals limit parts τ
  | .whileLoop c body, τ =>
    Trace.rounds (fun _ τ ↦
      match c.isTrue? τ with
      | some true => (body.run locals limit τ).andThen fun e τ ↦ .done (Command.proceed e) τ
      | some false => .done (.inr .next) τ
      | none => .stuck) limit () τ
  | .ifThen c yes, τ =>
    match c.isTrue? τ with
    | some true => yes.run locals limit τ
    | some false => .done .next τ
    | none => .stuck
  | .ifElse c yes no, τ =>
    match c.isTrue? τ with
    | some true => yes.run locals limit τ
    | some false => no.run locals limit τ
    | none => .stuck

/-- Runs commands in order, as long as control goes to the next. -/
def Command.runAll (locals : List (CType × Text)) (limit : Nat) :
    List Command → Memory → Trace Memory Command.Exit
  | [], τ => .done .next τ
  | c :: rest, τ => (c.run locals limit τ).andThen fun
    | .next, τ => Command.runAll locals limit rest τ
    | e, τ => .done e τ
end

/-- Runs a program. It is over at the end of its commands, or with a `return`. -/
def Program.run (p : Program) (limit : Nat) (τ : Memory) : Trace Memory Unit :=
  (Command.runAll p.locals limit p.body τ).andThen fun
    | .next, τ => .done () τ
    | .returned, τ => .done () τ
    | _, _ => .stuck

theorem Command.runAll_append (locals : List (CType × Text)) (limit : Nat) (cs ds : List Command)
    (τ : Memory) :
    runAll locals limit (cs ++ ds) τ = (runAll locals limit cs τ).andThen fun
      | .next, τ => runAll locals limit ds τ
      | e, τ => .done e τ := by
  induction cs generalizing τ with
  | nil => exact (Trace.done_andThen ..).symm
  | cons c rest ih =>
    rw [List.cons_append, runAll, runAll, Trace.andThen_assoc]
    congr 1
    funext e τ
    cases e with
    | next => exact ih τ
    | _ => rfl

/-! ### Greater limits -/

mutual
/-- **A greater limit extends the run of a command.** -/
theorem Command.run_extends {limit limit' : Nat} (hlimit : limit ≤ limit')
    (locals : List (CType × Text)) (c : Command) (τ : Memory) :
    (c.run locals limit τ).Extends (c.run locals limit' τ) := by
  cases c with
  | compound parts => exact Command.runAll_extends hlimit locals parts τ
  | whileLoop c body =>
    rw [run, run]
    refine Trace.Extends.rounds (fun _ τ ↦ ?_) hlimit () τ
    split
    · exact (Command.run_extends hlimit locals body τ).andThen fun e τ ↦ .refl _
    · exact .refl _
    · exact .refl _
  | ifThen c yes =>
    rw [run, run]
    split
    · exact Command.run_extends hlimit locals yes τ
    · exact .refl _
    · exact .refl _
  | ifElse c yes no =>
    rw [run, run]
    split
    · exact Command.run_extends hlimit locals yes τ
    · exact Command.run_extends hlimit locals no τ
    · exact .refl _
  | _ => exact .refl _

theorem Command.runAll_extends {limit limit' : Nat} (hlimit : limit ≤ limit')
    (locals : List (CType × Text)) (cs : List Command) (τ : Memory) :
    (Command.runAll locals limit cs τ).Extends (Command.runAll locals limit' cs τ) := by
  cases cs with
  | nil => exact .refl _
  | cons c rest =>
    refine (Command.run_extends hlimit locals c τ).andThen fun e τ ↦ ?_
    cases e with
    | next => exact Command.runAll_extends hlimit locals rest τ
    | _ => exact .refl _
end

theorem Program.run_extends {limit limit' : Nat} (hlimit : limit ≤ limit') (p : Program)
    (τ : Memory) : (p.run limit τ).Extends (p.run limit' τ) :=
  (Command.runAll_extends hlimit p.locals p.body τ).andThen fun _ _ ↦ .refl _

end StructuredIL.C
