import StructuredIL.Proofs.Lowering.Rules
import StructuredIL.Proofs.Tree.Pruning
import StructuredIL.Tree.Dump

/-!
# Second arms

A conditional shows its second arm unless that does nothing, in C and in a dump alike. Which of the
conditionals in a C statement show it is told by `C.Stmt.arms`, in the order of the text, and it can
be told from the tree before anything is lowered (`C.arms_of_lowerStmt`). In a dump the arms of
a conditional have a line of their own between them (`Dump.isBetweenArms`).

Neither changes when the tree is pruned (`Node.arms_pruned`, `Dump.keepsArms_dumpLines`).
Other lines of a dump do change: a nested block is shown with the number of its instructions.
-/

namespace StructuredIL

/-! ### Arms in C -/

mutual
/-- Whether the conditionals of a statement show a second arm, in the order of the text. -/
def C.Stmt.arms : C.Stmt → List Bool
  | .ifThen _ yes => false :: yes.arms
  | .ifElse _ yes no => true :: (yes.arms ++ no.arms)
  | .scope parts => C.Stmt.armsOfAll parts
  | .loop parts => C.Stmt.armsOfAll parts
  | .sequence parts => C.Stmt.armsOfAll parts
  | _ => []

/-- The same of the conditionals of some statements. -/
def C.Stmt.armsOfAll : List C.Stmt → List Bool
  | [] => []
  | s :: rest => s.arms ++ C.Stmt.armsOfAll rest
end

mutual
/-- Whether the conditionals of a tree that are lowered have a second arm that does something, in
the order of the tree. -/
def Node.arms : Node → List Bool
  | .cond _ yes no =>
    if no.isEmptyStatement then false :: yes.arms else true :: (yes.arms ++ no.arms)
  | .block b => b.arms
  | .container head blocks =>
    if head.kind = .loop ∨ head.kind = .normal then Block.armsOfAll blocks else []
  | _ => []

/-- The same of the conditionals of a block. -/
def Block.arms : Block → List Bool
  | ⟨head, instructions⟩ => if head.kind = .controlFlow then Node.armsOfAll instructions else []

/-- The same of the conditionals of some trees. -/
def Node.armsOfAll : List Node → List Bool
  | [] => []
  | n :: rest => n.arms ++ Node.armsOfAll rest

/-- The same of the conditionals of some blocks. -/
def Block.armsOfAll : List Block → List Bool
  | [] => []
  | b :: rest => b.arms ++ Block.armsOfAll rest
end

theorem Block.armsOfAll_eq (bs : List Block) : armsOfAll bs = Node.armsOfAll (bs.map .block) := by
  induction bs with
  | nil => rfl
  | cons b rest ih => rw [armsOfAll, ih, List.map_cons, Node.armsOfAll, Node.arms]

namespace C

open Logged

variable {mode : Mode}

theorem arms_of_map_recover {u : Unsupported} {s : Stmt}
    (h : (Stmt.diagnostic <$> recover mode u).outcome = .ok s) : s.arms = [] := by
  obtain ⟨text, -, rfl⟩ := outcome_map_eq_ok.1 h
  rfl

theorem arms_of_lowerAll {ns : List Node} {ss : List Stmt}
    (ih : ∀ n ∈ ns, ∀ s, (lowerStmt mode n).outcome = .ok s → s.arms = n.arms)
    (h : (lowerAll mode ns).outcome = .ok ss) : Stmt.armsOfAll ss = Node.armsOfAll ns := by
  induction ns generalizing ss with
  | nil =>
    cases h
    rfl
  | cons n rest ihrest =>
    obtain ⟨s, hs, h⟩ := outcome_bind_eq_ok.1 h
    obtain ⟨ss, hss, h⟩ := outcome_bind_eq_ok.1 h
    cases h
    rw [Stmt.armsOfAll, Node.armsOfAll, ih n (List.mem_cons_self ..) s hs,
      ihrest (fun m hm ↦ ih m (List.mem_cons_of_mem n hm)) hss]

/-- **The arms of a C statement** are those of the tree that is lowered to it. -/
theorem arms_of_lowerStmt {n : Node} {s : Stmt} (h : (lowerStmt mode n).outcome = .ok s) :
    s.arms = n.arms := by
  refine lowerStmt_induction (motive := fun n x ↦ ∀ s, (x mode).outcome = .ok s → s.arms = n.arms)
    ?store ?branch ?ifThen ?ifElse ?print ?exitLoop ?exitFunction ?sequence ?loop ?scope
    ?call ?leave ?block ?container ?other n s h
  case store | print =>
    intro _ _ s h
    obtain ⟨e, -, rfl⟩ := outcome_map_eq_ok.1 h
    rfl
  case branch =>
    rintro target _ ⟨⟩
    rfl
  case ifThen =>
    intro c yes no hempty ihyes s h
    obtain ⟨e, -, h⟩ := outcome_bind_eq_ok.1 h
    obtain ⟨t, ht, rfl⟩ := outcome_map_eq_ok.1 h
    rw [Node.arms, if_pos hempty, Stmt.arms, ihyes t ht]
  case ifElse =>
    intro c yes no hempty ihyes ihno s h
    obtain ⟨e, -, h⟩ := outcome_bind_eq_ok.1 h
    obtain ⟨t, ht, h⟩ := outcome_bind_eq_ok.1 h
    obtain ⟨u, hu, rfl⟩ := outcome_map_eq_ok.1 h
    rw [Node.arms, if_neg (by simp [hempty]), Stmt.arms, ihyes t ht, ihno u hu]
  case exitLoop | exitFunction =>
    rintro target value _ _ ⟨⟩
    rfl
  case sequence =>
    intro head instructions hkind ih s h
    obtain ⟨ss, hss, rfl⟩ := outcome_map_eq_ok.1 h
    rw [Node.arms, Block.arms, if_pos hkind]
    exact arms_of_lowerAll ih hss
  case loop =>
    intro head blocks hkind ih s h
    obtain ⟨ss, hss, rfl⟩ := outcome_map_eq_ok.1 h
    rw [Node.arms, Block.armsOfAll_eq, if_pos (.inl hkind)]
    exact arms_of_lowerAll ih hss
  case scope =>
    intro head blocks hkind ih s h
    obtain ⟨ss, hss, rfl⟩ := outcome_map_eq_ok.1 h
    rw [Node.arms, Block.armsOfAll_eq, if_pos (.inr hkind)]
    exact arms_of_lowerAll ih hss
  -- where there is a diagnostic, no conditional of the tree is lowered
  case call | leave =>
    intros
    exact arms_of_map_recover ‹_›
  case block =>
    intro head instructions hkind s h
    rw [Node.arms, Block.arms, if_neg hkind]
    exact arms_of_map_recover h
  case container =>
    intro head blocks hloop hnormal s h
    rw [Node.arms, if_neg (not_or.2 ⟨hloop, hnormal⟩)]
    exact arms_of_map_recover h
  case other =>
    intro n hn s h
    have hnone : n.arms = [] := by cases n <;> first | rfl | cases hn
    rw [hnone]
    exact arms_of_map_recover h

theorem arms_of_lowerFunction {f : Function} {file : SourceFile}
    (h : (lowerFunction mode f).outcome = .ok file) : file.body.arms = f.body.arms := by
  obtain ⟨-, -, h⟩ := outcome_bind_eq_ok.1 h
  obtain ⟨declarations, -, h⟩ := outcome_bind_eq_ok.1 h
  obtain ⟨body, hbody, h⟩ := outcome_bind_eq_ok.1 h
  cases h
  exact arms_of_lowerStmt hbody

end C

namespace Node

theorem armsOfAll_instructionsPruned {ns : List Node} (ih : ∀ n ∈ ns, n.pruned.arms = n.arms) :
    armsOfAll (instructionsPruned ns) = armsOfAll ns := by
  induction ns with
  | nil => rfl
  | cons n rest ihrest =>
    have hrest := ihrest fun m hm ↦ ih m (List.mem_cons_of_mem n hm)
    rw [instructionsPruned, armsOfAll]
    cases hn : n.isNop with
    | true =>
      have harms : n.arms = [] := by cases n <;> first | rfl | cases hn
      rw [if_pos rfl, hrest, harms, List.nil_append]
    | false => rw [if_neg Bool.false_ne_true, armsOfAll, hrest, ih n (List.mem_cons_self ..)]

/-- **The arms of a pruned tree** are those of the tree. -/
theorem arms_pruned (n : Node) : n.pruned.arms = n.arms := by
  induction n using Node.induction with
  | cond c yes no _ ihyes ihno =>
    rw [pruned, arms, arms, ihyes, ihno, isEmptyStatement_pruned]
  | block b ih =>
    obtain ⟨head, instructions⟩ := b
    rw [pruned, Block.pruned, arms, arms, Block.arms, Block.arms, armsOfAll_instructionsPruned ih]
  | container head blocks ih =>
    have hblocks : Block.armsOfAll (Block.allPruned blocks) = Block.armsOfAll blocks := by
      induction blocks with
      | nil => rfl
      | cons b rest ihrest =>
        have hrest := ihrest fun c hc ↦ ih c (List.mem_cons_of_mem b hc)
        obtain ⟨head, instructions⟩ := b
        rw [Block.allPruned, Block.armsOfAll, Block.armsOfAll, hrest, Block.pruned, Block.arms,
          Block.arms, armsOfAll_instructionsPruned (ih _ (List.mem_cons_self ..))]
    rw [pruned, arms, arms, hblocks]
  | _ => rfl

end Node

namespace Dump

/-! ### Arms in a dump -/

/-- What stands between the arms of a conditional. -/
def betweenArms : Text := "\x7d else \x7b"

/-- Whether a line stands between the arms of a conditional. -/
def isBetweenArms (l : Text) : Bool := betweenArms.isSuffixOf l

/-- A line does not stand between arms if it ends in something else. -/
theorem isBetweenArms_append (t : Text) {s : Text} (h : ¬betweenArms <:+ s ∧ ¬s <:+ betweenArms) :
    isBetweenArms (t ++ s) = false := by
  rw [isBetweenArms, Bool.eq_false_iff, Ne, List.isSuffixOf_iff_suffix]
  intro hsuffix
  exact (List.suffix_or_suffix_of_suffix hsuffix (List.suffix_append t s)).elim h.1 h.2

/-- Two texts that are the same, unless neither of them ends a line between arms. -/
def Alike (t u : Text) : Prop :=
  t = u ∨ ∀ before : Text,
    isBetweenArms (before ++ t) = false ∧ isBetweenArms (before ++ u) = false

theorem alike_append {s : Text} (h : ¬betweenArms <:+ s ∧ ¬s <:+ betweenArms) (t u : Text) :
    Alike (t ++ s) (u ++ s) := by
  refine .inr fun before ↦ ?_
  rw [← List.append_assoc, ← List.append_assoc]
  exact ⟨isBetweenArms_append _ h, isBetweenArms_append _ h⟩

theorem line_eq_ok {indent : Value} {depth : Int} {writable : Bool} {text l : Text} :
    line indent depth writable text = .ok l ↔
      ∃ before, margin indent depth = .ok before ∧ writable = true ∧ before ++ text = l := by
  rw [line]
  cases margin indent depth with
  | error e => simp [bind, Except.bind]
  | ok before => cases writable <;> simp [bind, Except.bind]

/-- Where a line can be written, one that is alike can be. -/
theorem exists_line {indent : Value} {depth : Int} {writable : Bool} {t u l : Text}
    (h : line indent depth writable u = .ok l) (halike : Alike t u) :
    ∃ l', line indent depth writable t = .ok l' ∧
      [l'].filter isBetweenArms = [l].filter isBetweenArms := by
  obtain ⟨before, hmargin, hwritable, rfl⟩ := line_eq_ok.1 h
  refine ⟨before ++ t, line_eq_ok.2 ⟨before, hmargin, hwritable, rfl⟩, ?_⟩
  rcases halike with rfl | hneither
  · rfl
  · obtain ⟨ht, hu⟩ := hneither before
    rw [List.filter_singleton, List.filter_singleton, ht, hu]
    rfl

/-- That some lines can be written, with the same ones between arms. -/
def KeepsArms (ls : List Text) (x : Except DumpFault (List Text)) : Prop :=
  ∃ ls', x = .ok ls' ∧ ls'.filter isBetweenArms = ls.filter isBetweenArms

namespace KeepsArms

variable {ls ms : List Text} {x y : Except DumpFault (List Text)}

theorem append (hx : KeepsArms ls x) (hy : KeepsArms ms y) :
    KeepsArms (ls ++ ms) (do
      let first ← x
      let others ← y
      return first ++ others) := by
  obtain ⟨ls', hx, hls⟩ := hx
  obtain ⟨ms', hy, hms⟩ := hy
  refine ⟨ls' ++ ms', bind_eq_ok.2 ⟨ls', hx, bind_eq_ok.2 ⟨ms', hy, rfl⟩⟩, ?_⟩
  rw [List.filter_append, List.filter_append, hls, hms]

/-- Lines that stay as they are may stand around. -/
theorem enclosed {front back : Except DumpFault Text} {first last : Text}
    (hfront : front = .ok first) (hx : KeepsArms ls x) (hback : back = .ok last) :
    KeepsArms (first :: ls ++ [last]) (do
      let first ← front
      let inner ← x
      let last ← back
      return first :: inner ++ [last]) := by
  obtain ⟨ls', hx, hls⟩ := hx
  refine ⟨first :: ls' ++ [last], ?_, ?_⟩
  · exact bind_eq_ok.2 ⟨first, hfront, bind_eq_ok.2 ⟨ls', hx, bind_eq_ok.2 ⟨last, hback, rfl⟩⟩⟩
  · simp only [List.cons_append, List.filter_cons, List.filter_append, hls]

end KeepsArms

/-- The lines of a node that keeps to one line. -/
def oneLine (indent : Value) (depth : Int) (n : Node) : Except DumpFault (List Text) := do
  let only ← line indent depth n.isWritable n.text
  return [only]

/-- The lines of a conditional from the end of its first arm to that of its second. -/
def otherLines (indent : Value) (depth : Int) (no : Node) : Except DumpFault (List Text) :=
  if no.isEmptyStatement then pure []
  else do
    let middle ← line indent depth true betweenArms
    let inner ← nodeLines indent (depth + 1) no
    return middle :: inner

theorem nodeLines_cond (indent : Value) (depth : Int) (c yes no : Node) :
    nodeLines indent depth (.cond c yes no) = do
      let first ← line indent depth c.isWritable ("if (" ++ c.text ++ ") \x7b")
      let inner ← nodeLines indent (depth + 1) yes
      let other ← otherLines indent depth no
      let last ← line indent depth true "\x7d"
      return first :: inner ++ other ++ [last] := by
  rw [nodeLines]
  congr 1
  funext first
  congr 1
  funext inner
  rw [otherLines]
  cases no.isEmptyStatement with
  | true => rfl
  | false => simp only [Bool.false_eq_true, if_false, bind_assoc, betweenArms]

section

variable {indent : Value} {depth : Int} {ls : List Text}

theorem keepsArms_oneLine {n : Node} (h : oneLine indent depth n = .ok ls)
    (halike : Alike n.pruned.text n.text) : KeepsArms ls (oneLine indent depth n.pruned) := by
  obtain ⟨l, hl, h⟩ := bind_eq_ok.1 h
  cases h
  obtain ⟨l', hl', hsame⟩ := exists_line hl halike
  refine ⟨[l'], bind_eq_ok.2 ⟨l', ?_, rfl⟩, hsame⟩
  rw [Node.isWritable_pruned]
  exact hl'

/-- The part of the induction that is common to blocks and containers. What is left out has a line
of its own, and that line is not between arms. -/
theorem keepsArms_nodesLines {ns : List Node}
    (ih : ∀ n ∈ ns, ∀ {depth ls}, nodeLines indent depth n = .ok ls →
      KeepsArms ls (nodeLines indent depth n.pruned))
    (h : nodesLines indent depth ns = .ok ls) :
    KeepsArms ls (nodesLines indent depth (Node.instructionsPruned ns)) := by
  induction ns generalizing ls with
  | nil => exact ⟨ls, h, rfl⟩
  | cons n rest ihrest =>
    obtain ⟨first, hfirst, h⟩ := bind_eq_ok.1 h
    obtain ⟨others, hothers, h⟩ := bind_eq_ok.1 h
    cases h
    have hkept := ihrest (fun m hm ↦ ih m (List.mem_cons_of_mem n hm)) hothers
    rw [Node.instructionsPruned]
    cases hn : n.isNop with
    | true =>
      have hnop : n = .nop := by cases n <;> first | rfl | cases hn
      subst hnop
      obtain ⟨l, hl, h⟩ := bind_eq_ok.1 hfirst
      cases h
      obtain ⟨before, -, -, rfl⟩ := line_eq_ok.1 hl
      have hline : isBetweenArms (before ++ Node.nop.text) = false :=
        isBetweenArms_append _ (by decide)
      obtain ⟨others', hothers', hsame⟩ := hkept
      refine ⟨others', hothers', ?_⟩
      rw [hsame, List.filter_append, List.filter_singleton, hline]
      rfl
    | false => exact (ih n (List.mem_cons_self ..) hfirst).append hkept

theorem keepsArms_blockLines {b : Block}
    (ih : ∀ n ∈ b.instructions, ∀ {depth ls}, nodeLines indent depth n = .ok ls →
      KeepsArms ls (nodeLines indent depth n.pruned))
    (h : blockLines indent depth b = .ok ls) :
    KeepsArms ls (blockLines indent depth b.pruned) := by
  obtain ⟨head, instructions⟩ := b
  obtain ⟨first, hfirst, h⟩ := bind_eq_ok.1 h
  obtain ⟨inner, hinner, h⟩ := bind_eq_ok.1 h
  obtain ⟨last, hlast, h⟩ := bind_eq_ok.1 h
  cases h
  exact .enclosed hfirst (keepsArms_nodesLines ih hinner) hlast

theorem keepsArms_blocksLines {bs : List Block}
    (ih : ∀ b ∈ bs, ∀ {depth ls}, blockLines indent depth b = .ok ls →
      KeepsArms ls (blockLines indent depth b.pruned))
    (h : blocksLines indent depth bs = .ok ls) :
    KeepsArms ls (blocksLines indent depth (Block.allPruned bs)) := by
  induction bs generalizing ls with
  | nil => exact ⟨ls, h, rfl⟩
  | cons b rest ihrest =>
    obtain ⟨first, hfirst, h⟩ := bind_eq_ok.1 h
    obtain ⟨others, hothers, h⟩ := bind_eq_ok.1 h
    cases h
    have hkept := ihrest (fun c hc ↦ ih c (List.mem_cons_of_mem b hc)) hothers
    exact (ih b (List.mem_cons_self ..) hfirst).append hkept

theorem keepsArms_otherLines {no : Node}
    (ih : ∀ {depth ls}, nodeLines indent depth no = .ok ls →
      KeepsArms ls (nodeLines indent depth no.pruned))
    (h : otherLines indent depth no = .ok ls) :
    KeepsArms ls (otherLines indent depth no.pruned) := by
  rw [otherLines] at h ⊢
  rw [Node.isEmptyStatement_pruned]
  split at h
  · rw [if_pos ‹_›]
    exact ⟨ls, h, rfl⟩
  · rw [if_neg ‹_›]
    obtain ⟨middle, hmiddle, h⟩ := bind_eq_ok.1 h
    obtain ⟨inner, hinner, h⟩ := bind_eq_ok.1 h
    cases h
    obtain ⟨inner', hinner', hsame⟩ := ih hinner
    refine ⟨middle :: inner', ?_, ?_⟩
    · exact bind_eq_ok.2 ⟨middle, hmiddle, bind_eq_ok.2 ⟨inner', hinner', rfl⟩⟩
    · rw [List.filter_cons, List.filter_cons, hsame]

/-- **The lines between arms** are the same when a tree is pruned, and the pruned tree can be dumped
if the tree can. -/
theorem keepsArms_nodeLines {n : Node} (h : nodeLines indent depth n = .ok ls) :
    KeepsArms ls (nodeLines indent depth n.pruned) := by
  induction n using Node.induction generalizing depth ls with
  | compare kind l r =>
    exact keepsArms_oneLine (n := .compare kind l r) h (alike_append (by decide) _ _)
  | binary op l r =>
    exact keepsArms_oneLine (n := .binary op l r) h (alike_append (by decide) _ _)
  | store v value =>
    exact keepsArms_oneLine (n := .store v value) h (alike_append (by decide) _ _)
  | call arguments method =>
    exact keepsArms_oneLine (n := .call arguments method) h (alike_append (by decide) _ _)
  | leave target value =>
    refine keepsArms_oneLine (n := .leave target value) h ?_
    rw [Node.pruned, Node.text, Node.text, Node.isNop_pruned]
    split
    · exact .inl rfl
    · exact alike_append (by decide) _ _
  | cond c yes no _ ihyes ihno =>
    rw [nodeLines_cond] at h
    obtain ⟨first, hfirst, h⟩ := bind_eq_ok.1 h
    obtain ⟨inner, hinner, h⟩ := bind_eq_ok.1 h
    obtain ⟨other, hother, h⟩ := bind_eq_ok.1 h
    obtain ⟨last, hlast, h⟩ := bind_eq_ok.1 h
    cases h
    obtain ⟨first', hfirst', hsamefirst⟩ :=
      exists_line hfirst (alike_append (by decide) ("if (" ++ c.pruned.text) _)
    obtain ⟨inner', hinner', hsameinner⟩ := ihyes hinner
    obtain ⟨other', hother', hsameother⟩ := keepsArms_otherLines ihno hother
    refine ⟨first' :: inner' ++ other' ++ [last], ?_, ?_⟩
    · rw [Node.pruned, nodeLines_cond, Node.isWritable_pruned]
      refine bind_eq_ok.2 ⟨first', hfirst', bind_eq_ok.2 ⟨inner', hinner', ?_⟩⟩
      exact bind_eq_ok.2 ⟨other', hother', bind_eq_ok.2 ⟨last, hlast, rfl⟩⟩
    · show ([first'] ++ inner' ++ other' ++ [last]).filter isBetweenArms =
        ([first] ++ inner ++ other ++ [last]).filter isBetweenArms
      simp only [List.filter_append, hsamefirst, hsameinner, hsameother]
  | block b ih =>
    rw [nodeLines] at h
    rw [Node.pruned, nodeLines]
    exact keepsArms_blockLines ih h
  | container head blocks ih =>
    rw [nodeLines] at h
    obtain ⟨first, hfirst, h⟩ := bind_eq_ok.1 h
    obtain ⟨inner, hinner, h⟩ := bind_eq_ok.1 h
    obtain ⟨last, hlast, h⟩ := bind_eq_ok.1 h
    cases h
    have hkept := keepsArms_blocksLines (fun b hb ↦ keepsArms_blockLines (ih b hb)) hinner
    rw [Node.pruned, nodeLines]
    exact .enclosed hfirst hkept hlast
  | nop => exact ⟨ls, h, rfl⟩
  | bare => exact ⟨ls, h, rfl⟩
  | constant => exact ⟨ls, h, rfl⟩
  | load => exact ⟨ls, h, rfl⟩
  | branch => exact ⟨ls, h, rfl⟩

end

/-- **The lines between arms** of a pruned function's dump are those of the function's dump. -/
theorem keepsArms_dumpLines {indent : Value} {f : Function} {ls : List Text}
    (h : f.dumpLines indent = .ok ls) : KeepsArms ls (f.pruned.dumpLines indent) := by
  obtain ⟨locals, hlocals, h⟩ := bind_eq_ok.1 h
  obtain ⟨body, hbody, h⟩ := bind_eq_ok.1 h
  cases h
  obtain ⟨body', hbody', hsame⟩ := keepsArms_nodeLines hbody
  refine ⟨("function " ++ f.name) :: locals ++ body', ?_, ?_⟩
  · exact bind_eq_ok.2 ⟨locals, hlocals, bind_eq_ok.2 ⟨body', hbody', rfl⟩⟩
  · simp only [List.filter_append, hsame]

end Dump

end StructuredIL
