import StructuredIL.Proofs.Tree.Meaning
import StructuredIL.Proofs.Tree.Nodes

/-!
# Structured trees

The trees whose jumps a language without labels has as well, and whose expressions need no
parentheses. A branch in such a tree starts the loop around it again, and a leave ends the loop
around it or, if the body of the function is a scope, the body. So no jump speaks of a container
that is not the innermost of its kind, and no scope but the body is ever left early.

The predicate follows the tree as `Node.Resolved` does, with the same list of open containers.

A tree is narrow if the least constant of 32 bits is nowhere in a sum that is compared, or in what
is printed. That is where a language shows the difference in which this constant, and a sum with it,
has more than 32 bits.
-/

namespace StructuredIL

/-! ### Expressions -/

namespace Node

/-- Whether a node is a comparison. -/
def isCompare : Node → Bool
  | compare _ _ _ => true
  | _ => false

/-- No comparison is an operand of an expression. -/
def IsFlat : Node → Prop
  | compare _ l r => l.isCompare = false ∧ r.isCompare = false ∧ l.IsFlat ∧ r.IsFlat
  | binary _ l r => l.isCompare = false ∧ r.isCompare = false ∧ l.IsFlat ∧ r.IsFlat
  | _ => True

/-- The constants that are summed up in an expression, in order: not those that are only
compared. -/
def summands : Node → List Int
  | constant value => [value]
  | binary .add l r => l.summands ++ r.summands
  | _ => []

/-- An expression that is no sum with the least constant in it. -/
def IsNarrow : Node → Prop
  | binary op l r => Build.minInt32 ∉ (binary op l r).summands
  | _ => True

/-- Where it matters how many bits a value has, there are 32: what is compared and what decides is
narrow, and the least constant is not in what is printed, except where it is compared. -/
def UsesNarrow : Node → Prop
  | compare _ l r => l.IsNarrow ∧ r.IsNarrow
  | cond c _ _ => c.IsNarrow
  | call arguments _ => ∀ a ∈ arguments, Build.minInt32 ∉ a.summands
  | _ => True

end Node

/-- A function in which the width of the least constant does not matter. -/
def Function.IsNarrow (f : Function) : Prop := ∀ n ∈ f.body.nodes, n.UsesNarrow

/-! ### Jumps -/

/-- The block with this number is the first of the innermost container, which is a loop. -/
def Restarts (around : List OpenContainer) (target : Nat) : Prop :=
  ∃ c, around.head? = some c ∧ c.head.kind = .loop ∧
    (c.blocks.map BlockHead.serial).head? = some target

/-- The container with this number is the innermost loop. -/
def EndsLoop (around : List OpenContainer) (target : Nat) : Prop :=
  ∃ c, (around.find? fun c ↦ c.head.kind = .loop) = some c ∧ c.head.serial = target

/-- The number of the body of a function, if it is a scope. -/
def Function.scope? (f : Function) : Option Nat :=
  match f.body with
  | .container head _ => if head.kind = .normal then some head.serial else none
  | _ => none

theorem Function.exists_of_scope? {f : Function} {t : Nat} (h : f.scope? = some t) :
    ∃ head blocks, f.body = .container head blocks ∧ head.kind = .normal ∧ head.serial = t := by
  rw [scope?] at h
  split at h
  · split at h
    · exact ⟨_, _, ‹_›, ‹_›, Option.some.inj h⟩
    · cases h
  · cases h

mutual
/-- A structured node: `scope?` is the number of the body, if it is a scope, and `around` are the
containers around the node. -/
def Node.IsStructured (scope? : Option Nat) (around : List OpenContainer) : Node → Prop
  | .store target value => value.IsFlat ∧ (target.type = .bool → value.isCompare = true)
  | .branch target => Restarts around target.serial
  | .cond c yes no =>
    c.IsFlat ∧ yes.IsStructured scope? around ∧ no.IsStructured scope? around
  | .call arguments _ => ∀ a ∈ arguments, a.IsFlat
  | .leave target value =>
    value.isNop = true ∧ (EndsLoop around target.serial ∨ scope? = some target.serial)
  | .block b => b.IsStructured scope? around
  | .container head blocks => Block.AreStructured scope? (.ofBlocks head blocks :: around) blocks
  | _ => True

/-- A block of structured nodes. -/
def Block.IsStructured (scope? : Option Nat) (around : List OpenContainer) : Block → Prop
  | ⟨_, instructions⟩ => Node.AreStructured scope? around instructions

/-- Structured nodes. -/
def Node.AreStructured (scope? : Option Nat) (around : List OpenContainer) :
    List Node → Prop
  | [] => True
  | n :: rest => n.IsStructured scope? around ∧ Node.AreStructured scope? around rest

/-- Blocks of structured nodes. -/
def Block.AreStructured (scope? : Option Nat) (around : List OpenContainer) :
    List Block → Prop
  | [] => True
  | b :: rest => b.IsStructured scope? around ∧ Block.AreStructured scope? around rest
end

/-- A function with a structured body. -/
def Function.IsStructured (f : Function) : Prop := f.body.IsStructured f.scope? []

variable {scope? : Option Nat} {around : List OpenContainer} {c : OpenContainer} {t : Nat}

theorem Node.areStructured_iff {ns : List Node} :
    Node.AreStructured scope? around ns ↔ ∀ n ∈ ns, n.IsStructured scope? around := by
  induction ns with
  | nil => simp [Node.AreStructured]
  | cons n rest ih => simp [Node.AreStructured, ih]

theorem Node.isStructured_block {head : BlockHead} {instructions : List Node} :
    (Node.block ⟨head, instructions⟩).IsStructured scope? around ↔
      ∀ n ∈ instructions, n.IsStructured scope? around :=
  Node.areStructured_iff

theorem Node.isStructured_container {head : ContainerHead} {blocks : List Block} :
    (Node.container head blocks).IsStructured scope? around ↔
      ∀ n ∈ blocks.map Node.block, n.IsStructured scope? (.ofBlocks head blocks :: around) := by
  rw [Node.IsStructured, List.forall_mem_map]
  generalize OpenContainer.ofBlocks head blocks :: around = inner
  induction blocks with
  | nil => simp [Block.AreStructured]
  | cons b rest ih => simp [Block.AreStructured, ih, Node.IsStructured]

/-! ### The innermost loop -/

theorem endsLoop_cons_of_loop (hc : c.head.kind = .loop) :
    EndsLoop (c :: around) t ↔ c.head.serial = t := by
  simp [EndsLoop, hc]

theorem endsLoop_cons_of_ne (hc : c.head.kind ≠ .loop) :
    EndsLoop (c :: around) t ↔ EndsLoop around t := by
  simp [EndsLoop, hc]

theorem EndsLoop.exists_mem (h : EndsLoop around t) :
    ∃ c ∈ around, c.head.kind = .loop ∧ c.head.serial = t := by
  obtain ⟨c, hc, ht⟩ := h
  exact ⟨c, List.mem_of_find?_eq_some hc, by simpa using List.find?_some hc, ht⟩

/-! ### Statements that do nothing -/

/-- A statement that does nothing is run without a trace. -/
theorem Node.run_of_isEmptyStatement {n : Node} (h : n.isEmptyStatement = true) (limit : Nat)
    (σ : Store) : n.run limit σ = .done .next σ := by
  induction n using Node.induction with
  | nop => rfl
  | block b ih =>
    obtain ⟨head, instructions⟩ := b
    rw [isEmptyStatement, Block.isEmptyStatement, Bool.and_eq_true] at h
    replace h := h.2
    rw [run_block]
    dsimp only at ih ⊢
    induction instructions with
    | nil => rfl
    | cons i rest ihrest =>
      rw [areEmptyStatements, Bool.and_eq_true] at h
      rw [List.map_cons, Step.inOrder, ih i (List.mem_cons_self ..) h.1, Trace.done_andThen]
      exact ihrest (fun j hj ↦ ih j (List.mem_cons_of_mem i hj)) h.2
  | _ => cases h

end StructuredIL
