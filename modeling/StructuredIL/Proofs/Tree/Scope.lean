import Mathlib.Data.List.Nodup
import StructuredIL.Loading.Node

/-!
# Trees whose names are resolved

A tree names three kinds of things: variables, the blocks that branches go to, and the containers
that leaves end. `Node.Resolved` says that each of them is where it should be: the variables among
the variables of the function, the target of a branch among the blocks of the innermost container
around it, the target of a leave among the containers around it. It follows the tree and carries
along what is open, innermost first, as a load does while it builds the tree.

Serial numbers tell containers apart, so the predicate also asks that a container has a number of
its own among those around it. Nothing is asked of containers that stand side by side.

Blocks and nodes hold lists of each other, so the recursor of `Node` speaks of four types at once.
`Node.induction` puts it into one: what is below a call, a block or a container is reached by
membership.
-/

namespace StructuredIL

/-! ### Induction -/

/-- Induction over a tree: whatever stands in a list is reached as a member of it. -/
theorem Node.induction {motive : Node → Prop} (nop : motive .nop)
    (bare : ∀ op, motive (.bare op)) (constant : ∀ value, motive (.constant value))
    (load : ∀ v, motive (.load v))
    (compare : ∀ kind l r, motive l → motive r → motive (.compare kind l r))
    (binary : ∀ op l r, motive l → motive r → motive (.binary op l r))
    (store : ∀ v value, motive value → motive (.store v value))
    (branch : ∀ target, motive (.branch target))
    (cond : ∀ c yes no, motive c → motive yes → motive no → motive (.cond c yes no))
    (call : ∀ arguments method, (∀ a ∈ arguments, motive a) → motive (.call arguments method))
    (leave : ∀ target value, motive value → motive (.leave target value))
    (block : ∀ b : Block, (∀ i ∈ b.instructions, motive i) → motive (.block b))
    (container : ∀ head blocks, (∀ b ∈ blocks, ∀ i ∈ b.instructions, motive i) →
      motive (.container head blocks))
    (n : Node) : motive n := by
  refine @Node.rec (fun b ↦ ∀ i ∈ b.instructions, motive i) motive
    (fun ns ↦ ∀ n ∈ ns, motive n) (fun bs ↦ ∀ b ∈ bs, ∀ i ∈ b.instructions, motive i)
    (fun _ _ h ↦ h) nop bare constant load compare binary store branch cond
    (fun arguments method h ↦ call arguments method h) leave (fun b h ↦ block b h)
    (fun head blocks h ↦ container head blocks h) ?_ ?_ ?_ ?_ n
  · exact fun _ h ↦ absurd h List.not_mem_nil
  · intro n rest hn hrest m hm
    rcases List.mem_cons.1 hm with rfl | hm
    · exact hn
    · exact hrest m hm
  · exact fun _ h ↦ absurd h List.not_mem_nil
  · intro b rest hb hrest c hc
    rcases List.mem_cons.1 hc with rfl | hc
    · exact hb
    · exact hrest c hc

/-! ### Resolution -/

/-- A container as those inside it see it. -/
def OpenContainer.ofBlocks (head : ContainerHead) (blocks : List Block) : OpenContainer :=
  ⟨head, blocks.map Block.head⟩

mutual
/-- All names of a node stand for what they should: `locals` are the variables of the function and
`around` the containers around the node. -/
def Node.Resolved (locals : List Variable) (around : List OpenContainer) : Node → Prop
  | .nop => True
  | .bare _ => True
  | .constant value => Build.minInt32 ≤ value ∧ value ≤ Build.maxInt32
  | .load source => source ∈ locals
  | .compare _ l r => l.Resolved locals around ∧ r.Resolved locals around
  | .binary _ l r => l.Resolved locals around ∧ r.Resolved locals around
  | .store target value => target ∈ locals ∧ value.Resolved locals around
  | .branch target => ∃ c, around.head? = some c ∧ target ∈ c.blocks
  | .cond c yes no =>
    c.Resolved locals around ∧ yes.Resolved locals around ∧ no.Resolved locals around
  | .call arguments _ => Node.AllResolved locals around arguments
  | .leave target value =>
    (∃ c ∈ around, c.head = target) ∧ value.Resolved locals around
  | .block b => b.Resolved locals around
  | .container head blocks =>
    (∀ c ∈ around, c.head.serial ≠ head.serial) ∧ (blocks.map (·.head.serial)).Nodup ∧
      Block.AllResolved locals (.ofBlocks head blocks :: around) blocks

/-- All names of a block stand for what they should. -/
def Block.Resolved (locals : List Variable) (around : List OpenContainer) : Block → Prop
  | ⟨_, instructions⟩ => Node.AllResolved locals around instructions

/-- All names of some nodes stand for what they should. -/
def Node.AllResolved (locals : List Variable) (around : List OpenContainer) :
    List Node → Prop
  | [] => True
  | n :: rest => n.Resolved locals around ∧ Node.AllResolved locals around rest

/-- All names of some blocks stand for what they should. -/
def Block.AllResolved (locals : List Variable) (around : List OpenContainer) :
    List Block → Prop
  | [] => True
  | b :: rest => b.Resolved locals around ∧ Block.AllResolved locals around rest
end

variable {locals : List Variable} {around : List OpenContainer}

theorem Node.allResolved_iff {ns : List Node} :
    Node.AllResolved locals around ns ↔ ∀ n ∈ ns, n.Resolved locals around := by
  induction ns with
  | nil => simp [Node.AllResolved]
  | cons n rest ih => simp [Node.AllResolved, ih]

theorem Block.resolved_iff {b : Block} :
    b.Resolved locals around ↔ ∀ i ∈ b.instructions, i.Resolved locals around := by
  obtain ⟨head, instructions⟩ := b
  rw [Block.Resolved, Node.allResolved_iff]

theorem Block.allResolved_iff {bs : List Block} :
    Block.AllResolved locals around bs ↔ ∀ b ∈ bs, b.Resolved locals around := by
  induction bs with
  | nil => simp [Block.AllResolved]
  | cons b rest ih => simp [Block.AllResolved, ih]

/-- A function whose tree is resolved and whose variables have different names. -/
structure Function.Resolved (f : Function) : Prop where
  /-- No two variables have one name. -/
  nodup_names : (f.locals.map Variable.name).Nodup
  /-- The names of the body stand for what they should. -/
  body : f.body.Resolved f.locals []

end StructuredIL
