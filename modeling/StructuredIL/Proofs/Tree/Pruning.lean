import StructuredIL.Proofs.Tree.Serials
import StructuredIL.Tree.Text

/-!
# Trees without empty instructions

A load may leave out the empty instructions of blocks. `Node.pruned` does so on a finished tree, and
nothing else: an empty node that is an arm, an operand, an argument or a value stays, and so does
every head. So a branch or a leave of the pruned tree names what it named before, and the pruned
tree has the same blocks and containers (`Node.serials_pruned`).

Whether a statement does nothing cannot be told from the empty instructions in it. So a statement
does nothing exactly if it does nothing when it is pruned (`Node.isEmptyStatement_pruned`), which is
all that decides whether an `else` is shown.
-/

namespace StructuredIL

/-! ### Pruning -/

mutual
/-- A tree without the empty instructions of its blocks. -/
def Node.pruned : Node → Node
  | .nop => .nop
  | .bare op => .bare op
  | .constant value => .constant value
  | .load v => .load v
  | .compare kind l r => .compare kind l.pruned r.pruned
  | .binary op l r => .binary op l.pruned r.pruned
  | .store v value => .store v value.pruned
  | .branch target => .branch target
  | .cond c yes no => .cond c.pruned yes.pruned no.pruned
  | .call arguments method => .call (Node.allPruned arguments) method
  | .leave target value => .leave target value.pruned
  | .block b => .block b.pruned
  | .container head blocks => .container head (Block.allPruned blocks)

/-- A block without its empty instructions, and without those of the blocks in it. -/
def Block.pruned : Block → Block
  | ⟨head, instructions⟩ => ⟨head, Node.instructionsPruned instructions⟩

/-- Some trees without the empty instructions of their blocks. None of the trees is left out. -/
def Node.allPruned : List Node → List Node
  | [] => []
  | n :: rest => n.pruned :: Node.allPruned rest

/-- The instructions of a block that are not empty, without the empty instructions of the blocks in
them. -/
def Node.instructionsPruned : List Node → List Node
  | [] => []
  | n :: rest =>
    if n.isNop then Node.instructionsPruned rest else n.pruned :: Node.instructionsPruned rest

/-- Some blocks without their empty instructions. -/
def Block.allPruned : List Block → List Block
  | [] => []
  | b :: rest => b.pruned :: Block.allPruned rest
end

/-- A function without the empty instructions of its blocks. -/
def Function.pruned (f : Function) : Function := { f with body := f.body.pruned }

theorem Node.allPruned_eq (ns : List Node) : allPruned ns = ns.map pruned := by
  induction ns with
  | nil => rfl
  | cons n rest ih => rw [allPruned, ih, List.map_cons]

theorem Node.instructionsPruned_eq (ns : List Node) :
    instructionsPruned ns = (ns.filter fun n ↦ !n.isNop).map pruned := by
  induction ns with
  | nil => rfl
  | cons n rest ih =>
    rw [instructionsPruned, ih, List.filter_cons]
    cases n.isNop <;> rfl

theorem Block.allPruned_eq (bs : List Block) : allPruned bs = bs.map pruned := by
  induction bs with
  | nil => rfl
  | cons b rest ih => rw [allPruned, ih, List.map_cons]

@[simp] theorem Block.head_pruned (b : Block) : b.pruned.head = b.head := by
  obtain ⟨head, instructions⟩ := b
  rfl

theorem Block.instructions_pruned (b : Block) :
    b.pruned.instructions = (b.instructions.filter fun n ↦ !n.isNop).map Node.pruned := by
  obtain ⟨head, instructions⟩ := b
  exact Node.instructionsPruned_eq instructions

namespace Node

/-! ### What is left -/

/-- Whether a node is left out when it is a child of another one. -/
def dropsChild : Node → Node → Bool
  | block _, child => child.isNop
  | _, _ => false

@[simp] theorem isNop_pruned (n : Node) : n.pruned.isNop = n.isNop := by
  cases n <;> rfl

/-- Of the children of a node, the empty instructions of a block are left out and all others are
pruned. -/
theorem children_pruned (n : Node) :
    n.pruned.children = (n.children.filter fun c ↦ !n.dropsChild c).map pruned := by
  have hall (ns : List Node) : ns.map pruned = (ns.filter fun _ ↦ !false).map pruned := by
    rw [Bool.not_false, List.filter_true]
  cases n with
  | call arguments method => exact (allPruned_eq arguments).trans (hall arguments)
  | block b => exact b.instructions_pruned
  | container head blocks =>
    have hblocks : (container head blocks).pruned.children = (blocks.map block).map pruned := by
      rw [pruned, children, Block.allPruned_eq, List.map_map, List.map_map]
      rfl
    exact hblocks.trans (hall _)
  | _ => rfl

/-! ### The blocks and containers -/

theorem serials_pruned (n : Node) : n.pruned.serials = n.serials := by
  refine induction_of_forall_nodes (P := fun _ ↦ True)
    (motive := fun n ↦ n.pruned.serials = n.serials) (fun n _ _ ih ↦ ?_) fun _ _ ↦ trivial
  have hhead : n.pruned.serial? = n.serial? := by
    cases n with
    | block b => rw [pruned, serial?, serial?, Block.head_pruned]
    | _ => rfl
  -- what is left out has no number
  have hdropped : ∀ c, n.dropsChild c = true → c.serials = [] := by
    intro c hc
    cases n <;> cases c <;> first | rfl | cases hc
  rw [serials_eq, n.serials_eq, hhead, children_pruned, List.flatMap_map]
  congr 1
  generalize n.children = children at ih
  induction children with
  | nil => rfl
  | cons c rest ihrest =>
    have hrest := ihrest fun d hd ↦ ih d (List.mem_cons_of_mem c hd)
    rw [List.filter_cons, List.flatMap_cons]
    cases hc : n.dropsChild c with
    | true => rw [hdropped c hc, List.nil_append, ← hrest]; rfl
    | false => rw [← hrest, ← ih c (List.mem_cons_self ..)]; rfl

/-! ### Statements that do nothing -/

theorem areEmptyStatements_iff {ns : List Node} :
    areEmptyStatements ns ↔ ∀ n ∈ ns, n.isEmptyStatement := by
  induction ns with
  | nil => simp [areEmptyStatements]
  | cons n rest ih => simp [areEmptyStatements, ih]

theorem isEmptyStatement_of_isNop {n : Node} (h : n.isNop = true) : n.isEmptyStatement = true := by
  cases n <;> first | rfl | cases h

/-- **A statement does nothing exactly if it does nothing when it is pruned.** -/
theorem isEmptyStatement_pruned (n : Node) : n.pruned.isEmptyStatement = n.isEmptyStatement := by
  induction n using Node.induction with
  | block b ih =>
    obtain ⟨head, instructions⟩ := b
    have hall : areEmptyStatements (instructionsPruned instructions) =
        areEmptyStatements instructions := by
      rw [Bool.eq_iff_iff, areEmptyStatements_iff, areEmptyStatements_iff, instructionsPruned_eq]
      rw [List.forall_mem_map]
      refine ⟨fun h n hn ↦ ?_, fun h n hn ↦ ?_⟩
      · cases hnop : n.isNop with
        | true => exact isEmptyStatement_of_isNop hnop
        | false => exact ih n hn ▸ h n (List.mem_filter.2 ⟨hn, by rw [hnop]; rfl⟩)
      · have hmem := (List.mem_filter.1 hn).1
        exact (ih n hmem).trans (h n hmem)
    rw [pruned, Block.pruned, isEmptyStatement, isEmptyStatement, Block.isEmptyStatement,
      Block.isEmptyStatement, hall]
  | _ => rfl

/-! ### Notations -/

/-- A pruned tree may be written exactly if the tree may. The notation of a block does not show its
instructions, only how many there are. -/
theorem isWritable_pruned (n : Node) : n.pruned.isWritable = n.isWritable := by
  induction n using Node.induction with
  | compare kind l r ihl ihr => rw [pruned, isWritable, isWritable, ihl, ihr]
  | binary op l r ihl ihr => rw [pruned, isWritable, isWritable, ihl, ihr]
  | store v value ih => rw [pruned, isWritable, isWritable, ih]
  | cond c yes no ihc ihyes ihno =>
    rw [pruned, isWritable, isWritable, ihc, ihyes, ihno, isEmptyStatement_pruned]
  | call arguments method ih =>
    have harguments : areWritable (allPruned arguments) = areWritable arguments := by
      induction arguments with
      | nil => rfl
      | cons n rest ihrest =>
        have hrest := ihrest fun m hm ↦ ih m (List.mem_cons_of_mem n hm)
        rw [allPruned, areWritable, areWritable, hrest, ih n (List.mem_cons_self ..)]
    rw [pruned, isWritable, isWritable, harguments]
  | leave target value ih => rw [pruned, isWritable, isWritable, ih]
  | block b => rw [pruned, isWritable, isWritable, Block.head_pruned]
  | _ => rfl

end Node

end StructuredIL
