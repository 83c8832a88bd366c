import StructuredIL.C.Lowering
import StructuredIL.Proofs.Tree.Scope

/-!
# The recursion of a lowering

What is said of every lowering is proved by induction along it. There is one case for each way in
which a node is lowered in the place of an expression (`C.lowerExpr_induction`) or of a statement
(`C.lowerStmt_induction`), and each case shows the lowering itself, put together from those of the
parts, so that nothing that uses these principles has to open it. The lowering is shown in both
modes at once; a case without a counterpart in C comes down to `C.recover`.
-/

namespace StructuredIL

/-- The nodes that are not statements: in the place of one they have no counterpart in C. -/
def Node.isNoStatement : Node → Bool
  | .nop | .bare _ | .constant _ | .load _ | .compare .. | .binary .. => true
  | _ => false

/-- The nodes that are no values: in the place of an expression they have no counterpart in C. -/
def Node.isNoValue : Node → Bool
  | .constant _ | .load _ | .compare .. | .binary .. => false
  | _ => true

namespace C

/-! ### Lists -/

theorem lowerAll_eq_mapM (mode : Mode) (ns : List Node) :
    lowerAll mode ns = ns.mapM (lowerStmt mode) := by
  induction ns with
  | nil => rw [lowerAll, List.mapM_nil]
  | cons n rest ih => rw [lowerAll, ih, List.mapM_cons]

theorem lowerBlocks_eq_lowerAll (mode : Mode) (blocks : List Block) :
    lowerBlocks mode blocks = lowerAll mode (blocks.map .block) := by
  induction blocks with
  | nil => rfl
  | cons b rest ih => rw [lowerBlocks, ih, List.map_cons, lowerAll, lowerStmt]

/-! ### Expressions -/

/-- **Induction along the lowering of an expression.** -/
theorem lowerExpr_induction {motive : Node → (Mode → Lower Expr) → Prop}
    (constant : ∀ value, StructuredIL.isWritable value = true →
      motive (.constant value) fun _ ↦ pure (.constant value))
    (tooLong : ∀ value, StructuredIL.isWritable value = false →
      motive (.constant value) fun _ ↦ .fail .integerTooLong)
    (load : ∀ v, motive (.load v) fun _ ↦ pure (.variableName v.name))
    (relation : ∀ kind rel l r, relationOf? kind = some rel → motive l (lowerExpr · l) →
      motive r (lowerExpr · r) → motive (.compare kind l r) fun mode ↦ do
        let left ← lowerExpr mode l
        .relation rel left <$> lowerExpr mode r)
    (sum : ∀ l r, motive l (lowerExpr · l) → motive r (lowerExpr · r) →
      motive (.binary .add l r) fun mode ↦ do
        let left ← lowerExpr mode l
        .sum left <$> lowerExpr mode r)
    (comparison : ∀ kind l r, relationOf? kind = none → motive (.compare kind l r) fun mode ↦
      .diagnostic <$> recover mode (.comparison kind))
    (operator : ∀ op l r, op ≠ .add → motive (.binary op l r) fun mode ↦
      .diagnostic <$> recover mode (.operator op))
    (other : ∀ n : Node, n.isNoValue = true → motive n fun mode ↦
      .diagnostic <$> recover mode (.expression n))
    (n : Node) : motive n (lowerExpr · n) := by
  induction n using Node.induction with
  | constant value =>
    cases hvalue : StructuredIL.isWritable value with
    | true => simpa only [lowerExpr, hvalue, if_true] using constant value hvalue
    | false => simpa [lowerExpr, hvalue] using tooLong value hvalue
  | load v => exact load v
  | compare kind l r ihl ihr =>
    cases hrel : relationOf? kind with
    | none => simpa only [lowerExpr, hrel] using comparison kind l r hrel
    | some rel =>
      simpa only [lowerExpr, hrel, map_eq_pure_bind] using relation kind rel l r hrel ihl ihr
  | binary op l r ihl ihr =>
    by_cases hop : op = .add
    · subst hop
      simpa only [lowerExpr, if_true, map_eq_pure_bind] using sum l r ihl ihr
    · simpa only [lowerExpr, if_neg hop] using operator op l r hop
  | _ => exact other _ rfl

/-! ### Statements -/

/-- **Induction along the lowering of a statement.** The blocks of a container are statements like
any others. -/
theorem lowerStmt_induction {motive : Node → (Mode → Lower Stmt) → Prop}
    (store : ∀ v value, motive (.store v value) fun mode ↦
      .assign v.name <$> lowerExpr mode value)
    (branch : ∀ target, motive (.branch target) fun _ ↦ pure .nextRound)
    (ifThen : ∀ c yes no : Node, no.isEmptyStatement = true → motive yes (lowerStmt · yes) →
      motive (.cond c yes no) fun mode ↦ do
        let condition ← lowerExpr mode c
        .ifThen condition <$> lowerStmt mode yes)
    (ifElse : ∀ c yes no : Node, no.isEmptyStatement = false → motive yes (lowerStmt · yes) →
      motive no (lowerStmt · no) → motive (.cond c yes no) fun mode ↦ do
        let condition ← lowerExpr mode c
        let first ← lowerStmt mode yes
        .ifElse condition first <$> lowerStmt mode no)
    (print : ∀ argument method, motive (.call [argument] method) fun mode ↦
      .print <$> lowerExpr mode argument)
    (exitLoop : ∀ (target : ContainerHead) (value : Node), target.kind = .loop →
      motive (.leave target value) fun _ ↦ pure .exitLoop)
    (exitFunction : ∀ (target : ContainerHead) (value : Node), target.kind = .normal →
      motive (.leave target value) fun _ ↦ pure .exitFunction)
    (sequence : ∀ (head : BlockHead) (instructions : List Node), head.kind = .controlFlow →
      (∀ i ∈ instructions, motive i (lowerStmt · i)) →
      motive (.block ⟨head, instructions⟩) fun mode ↦ .sequence <$> lowerAll mode instructions)
    (loop : ∀ (head : ContainerHead) (blocks : List Block), head.kind = .loop →
      (∀ b ∈ blocks.map Node.block, motive b (lowerStmt · b)) →
      motive (.container head blocks) fun mode ↦ .loop <$> lowerAll mode (blocks.map .block))
    (scope : ∀ (head : ContainerHead) (blocks : List Block), head.kind = .normal →
      (∀ b ∈ blocks.map Node.block, motive b (lowerStmt · b)) →
      motive (.container head blocks) fun mode ↦ .scope <$> lowerAll mode (blocks.map .block))
    (call : ∀ (arguments : List Node) (method : Value), arguments.length ≠ 1 →
      motive (.call arguments method) fun mode ↦
        .diagnostic <$> recover mode (.call method arguments.length))
    (leave : ∀ (target : ContainerHead) (value : Node), target.kind ≠ .loop →
      target.kind ≠ .normal → motive (.leave target value) fun mode ↦
        .diagnostic <$> recover mode (.leave target.kind value))
    (block : ∀ (head : BlockHead) (instructions : List Node), head.kind ≠ .controlFlow →
      motive (.block ⟨head, instructions⟩) fun mode ↦
        .diagnostic <$> recover mode (.block head.kind))
    (container : ∀ (head : ContainerHead) (blocks : List Block), head.kind ≠ .loop →
      head.kind ≠ .normal → motive (.container head blocks) fun mode ↦
        .diagnostic <$> recover mode (.container head.kind))
    (other : ∀ n : Node, n.isNoStatement = true → motive n fun mode ↦
      .diagnostic <$> recover mode (.statement n))
    (n : Node) : motive n (lowerStmt · n) := by
  have hblock (b : Block) (ih : ∀ i ∈ b.instructions, motive i (lowerStmt · i)) :
      motive (.block b) (lowerStmt · (.block b)) := by
    obtain ⟨head, instructions⟩ := b
    by_cases hkind : head.kind = .controlFlow
    · simpa only [lowerStmt, lowerBlock, if_pos hkind] using sequence head instructions hkind ih
    · simpa only [lowerStmt, lowerBlock, if_neg hkind] using block head instructions hkind
  induction n using Node.induction with
  | store v value =>
    simpa only [lowerStmt, map_eq_pure_bind] using store v value
  | branch target => exact branch target
  | cond c yes no _ ihyes ihno =>
    cases hempty : no.isEmptyStatement with
    | true =>
      simpa only [lowerStmt, hempty, if_true, map_eq_pure_bind] using
        ifThen c yes no hempty ihyes
    | false =>
      simpa only [lowerStmt, hempty, Bool.false_eq_true, if_false, map_eq_pure_bind] using
        ifElse c yes no hempty ihyes ihno
  | call arguments method =>
    rcases arguments with _ | ⟨argument, _ | ⟨second, rest⟩⟩
    case nil => exact call [] method (by simp)
    case cons.nil => exact print argument method
    case cons.cons => exact call (argument :: second :: rest) method (by simp)
  | leave target value =>
    cases hkind : target.kind with
    | loop => simpa only [lowerStmt, hkind] using exitLoop target value hkind
    | normal => simpa only [lowerStmt, hkind] using exitFunction target value hkind
    | _ =>
      have hleave := leave target value (by simp [hkind]) (by simp [hkind])
      simpa only [lowerStmt, hkind] using hleave
  | block b ih => exact hblock b ih
  | container head blocks ih =>
    have hblocks : ∀ n ∈ blocks.map Node.block, motive n (lowerStmt · n) :=
      List.forall_mem_map.2 fun b hb ↦ hblock b (ih b hb)
    cases hkind : head.kind with
    | loop =>
      simpa only [lowerStmt, hkind, lowerBlocks_eq_lowerAll] using loop head blocks hkind hblocks
    | normal =>
      simpa only [lowerStmt, hkind, lowerBlocks_eq_lowerAll] using scope head blocks hkind hblocks
    | _ =>
      have hcontainer := container head blocks (by simp [hkind]) (by simp [hkind])
      simpa only [lowerStmt, hkind] using hcontainer
  | _ => exact other _ rfl

end C

end StructuredIL
