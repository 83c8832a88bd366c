import Mathlib.Logic.Function.Basic
import StructuredIL.Proofs.Trace
import StructuredIL.Proofs.Tree.Scope

/-!
# What trees mean

All values are integers of 32 bits. Sums wrap around, and a comparison is one or zero. What is given
no meaning is what is never lowered: the other operators, values that are left behind by a leave,
and the kinds of containers that are neither scopes nor loops.

A node that is run says how control leaves it: to what comes next, to the front of a block, or to
the end of a container. A container runs its blocks in order. It takes up a branch that names one of
its blocks, and goes on from there; if this is the first, it starts again. It ends with a leave that
names it. After its last block a loop starts again and a scope is over.
-/

namespace StructuredIL

/-! ### Values -/

/-- Whether two values compare like this. -/
def ComparisonKind.holds : ComparisonKind → Int32 → Int32 → Bool
  | .equality, a, b => a == b
  | .inequality, a, b => a != b
  | .lessThan, a, b => decide (a < b)
  | .lessThanOrEqual, a, b => decide (a ≤ b)
  | .greaterThan, a, b => decide (b < a)
  | .greaterThanOrEqual, a, b => decide (b ≤ a)

/-- The values of the variables. -/
abbrev Store := Variable → Int32

/-- The value of a node, if it is an expression. -/
def Node.value? (σ : Store) : Node → Option Int32
  | .constant value => some (Int32.ofInt value)
  | .load source => some (σ source)
  | .compare kind l r => do
    let a ← l.value? σ
    let b ← r.value? σ
    return if kind.holds a b then 1 else 0
  | .binary .add l r => do
    let a ← l.value? σ
    let b ← r.value? σ
    return a + b
  | _ => none

/-- A resolved expression depends on the variables of its function only. -/
theorem Node.Resolved.value?_congr {locals : List Variable} {around : List OpenContainer} {n : Node}
    {σ ρ : Store} (h : n.Resolved locals around) (hσ : ∀ v ∈ locals, σ v = ρ v) :
    n.value? σ = n.value? ρ := by
  induction n using Node.induction with
  | load v => exact congrArg some (hσ v h)
  | compare kind l r ihl ihr => rw [value?, value?, ihl h.1, ihr h.2]
  | binary op l r ihl ihr =>
    cases op with
    | add => rw [value?, value?, ihl h.1, ihr h.2]
    | _ => rfl
  | _ => rfl

/-- A comparison is one or zero. -/
theorem Node.value?_compare_eq_some {σ : Store} {kind : ComparisonKind} {l r : Node} {a : Int32}
    (h : (compare kind l r).value? σ = some a) : a = 0 ∨ a = 1 := by
  rw [value?] at h
  obtain ⟨x, -, h⟩ := Option.bind_eq_some_iff.1 h
  obtain ⟨y, -, h⟩ := Option.bind_eq_some_iff.1 h
  obtain rfl := Option.some.inj h
  split
  · exact .inr rfl
  · exact .inl rfl

/-! ### Runs -/

/-- How control leaves a node. -/
inductive Node.Exit where
  /-- To what comes next. -/
  | next
  /-- To the front of the block with this number. -/
  | branch (target : Nat)
  /-- To the end of the container with this number. -/
  | leave (target : Nat)
  deriving DecidableEq, Repr

/-- A run of something with variables of a function. -/
abbrev Step := Store → Trace Store Node.Exit

/-- Runs steps in order, as long as control goes to the next. -/
def Step.inOrder : List Step → Step
  | [], σ => .done .next σ
  | step :: rest, σ => (step σ).andThen fun
    | .next, σ => inOrder rest σ
    | e, σ => .done e σ

/-- Goes on after the blocks of a container, which have these numbers: at one of its blocks, given
by its place among them, or outside. -/
def ContainerHead.proceed (head : ContainerHead) (serials : List Nat) :
    Node.Exit → Nat ⊕ Node.Exit
  | .next => if head.kind = .loop then .inl 0 else .inr .next
  | .branch target =>
    if target ∈ serials then .inl (serials.idxOf target) else .inr (.branch target)
  | .leave target => .inr (if target = head.serial then .next else .leave target)

/-- Runs the blocks of a container, which have these numbers, from the first. -/
def ContainerHead.run (head : ContainerHead) (serials : List Nat) (blocks : List Step)
    (limit : Nat) : Step :=
  if head.kind = .loop ∨ head.kind = .normal then
    Trace.rounds (fun i σ ↦ (Step.inOrder (blocks.drop i) σ).andThen fun e σ ↦
      .done (head.proceed serials e) σ) limit 0
  else fun _ ↦ .stuck

mutual
/-- Runs a node as a statement. -/
def Node.run (limit : Nat) : Node → Step
  | .nop, σ => .done .next σ
  | .store target value, σ =>
    match value.value? σ with
    | some a => .done .next (Function.update σ target a)
    | none => .stuck
  | .branch target, σ => .done (.branch target.serial) σ
  | .cond c yes no, σ =>
    match c.value? σ with
    | some a => if a ≠ 0 then yes.run limit σ else no.run limit σ
    | none => .stuck
  | .call [argument] _, σ =>
    match argument.value? σ with
    | some a => ⟨[a], .exit .next σ⟩
    | none => .stuck
  | .leave target value, σ => if value.isNop then .done (.leave target.serial) σ else .stuck
  | .block b, σ => b.run limit σ
  | .container head blocks, σ =>
    head.run (blocks.map (·.head.serial)) (Block.runs limit blocks) limit σ
  | _, _ => .stuck

/-- Runs the instructions of a block. -/
def Block.run (limit : Nat) : Block → Step
  | ⟨_, instructions⟩ => Step.inOrder (Node.runs limit instructions)

/-- What some nodes do. -/
def Node.runs (limit : Nat) : List Node → List Step
  | [] => []
  | n :: rest => n.run limit :: Node.runs limit rest

/-- What some blocks do. -/
def Block.runs (limit : Nat) : List Block → List Step
  | [] => []
  | b :: rest => b.run limit :: Block.runs limit rest
end

/-- Runs the body of a function. It is over when nothing comes next. -/
def Function.run (f : Function) (limit : Nat) (σ : Store) : Trace Store Unit :=
  (f.body.run limit σ).andThen fun
    | .next, σ => .done () σ
    | _, _ => .stuck

theorem Node.runs_eq_map (limit : Nat) (ns : List Node) :
    Node.runs limit ns = ns.map (run limit) := by
  induction ns with
  | nil => rfl
  | cons n rest ih => rw [runs, ih, List.map_cons]

theorem Node.run_block (limit : Nat) (b : Block) :
    (Node.block b).run limit = Step.inOrder (b.instructions.map (run limit)) := by
  obtain ⟨head, instructions⟩ := b
  rw [← runs_eq_map]
  rfl

theorem Block.runs_eq_map (limit : Nat) (blocks : List Block) :
    Block.runs limit blocks = (blocks.map .block).map (Node.run limit) := by
  induction blocks with
  | nil => rfl
  | cons b rest ih =>
    rw [runs, ih]
    rfl

theorem Node.run_container (limit : Nat) (head : ContainerHead) (blocks : List Block) :
    (Node.container head blocks).run limit = head.run (blocks.map (·.head.serial))
      ((blocks.map .block).map (run limit)) limit := by
  rw [← Block.runs_eq_map]
  rfl

/-! ### Greater limits -/

theorem Step.inOrder_extends {steps steps' : List Step}
    (h : List.Forall₂ (fun s s' ↦ ∀ σ, (s σ).Extends (s' σ)) steps steps') (σ : Store) :
    (inOrder steps σ).Extends (inOrder steps' σ) := by
  induction h generalizing σ with
  | nil => exact .refl _
  | cons hstep _ ih =>
    refine (hstep σ).andThen fun e σ ↦ ?_
    cases e with
    | next => exact ih σ
    | _ => exact .refl _

/-- **A greater limit extends the run of a node.** -/
theorem Node.run_extends {limit limit' : Nat} (hlimit : limit ≤ limit') (n : Node) (σ : Store) :
    (n.run limit σ).Extends (n.run limit' σ) := by
  have hall {ns : List Node} (h : ∀ n ∈ ns, ∀ σ, (n.run limit σ).Extends (n.run limit' σ)) :
      List.Forall₂ (fun s s' : Step ↦ ∀ σ, (s σ).Extends (s' σ)) (ns.map (run limit))
        (ns.map (run limit')) :=
    List.forall₂_map_left_iff.2 (List.forall₂_map_right_iff.2 (List.forall₂_same.2 h))
  induction n using Node.induction generalizing σ with
  | cond c yes no _ ihyes ihno =>
    rw [run, run]
    split
    · split
      · exact ihyes σ
      · exact ihno σ
    · exact .refl _
  | call arguments method _ => rcases arguments with _ | ⟨_, _ | _⟩ <;> exact .refl _
  | block b ih =>
    rw [run_block, run_block]
    exact Step.inOrder_extends (hall ih) σ
  | container head blocks ih =>
    have hblocks : ∀ n ∈ blocks.map Node.block, ∀ σ, (n.run limit σ).Extends (n.run limit' σ) := by
      intro n hn σ
      obtain ⟨b, hb, rfl⟩ := List.mem_map.1 hn
      rw [run_block, run_block]
      exact Step.inOrder_extends (hall (ih b hb)) σ
    rw [run_container, run_container, ContainerHead.run, ContainerHead.run]
    split
    · -- a round begins at any of the blocks, so it runs those from there on
      refine Trace.Extends.rounds (fun i σ ↦ ?_) hlimit 0 σ
      exact (Step.inOrder_extends (List.forall₂_drop i (hall hblocks)) σ).andThen
        fun e σ ↦ .refl _
    · exact .refl _
  | _ => exact .refl _

theorem Function.run_extends {limit limit' : Nat} (hlimit : limit ≤ limit') (f : Function)
    (σ : Store) : (f.run limit σ).Extends (f.run limit' σ) :=
  (f.body.run_extends hlimit σ).andThen fun _ _ ↦ .refl _

end StructuredIL
