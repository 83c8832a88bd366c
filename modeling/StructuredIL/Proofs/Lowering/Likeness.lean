import StructuredIL.Proofs.Lowering.Rules
import StructuredIL.Proofs.Tree.Notation

/-!
# Lowerings that look alike

What is seen of a lowering is its text or why there is none, and its log. A fault is seen by its
diagnostic only, while it holds the node that is not supported. So two lowerings are alike
(`C.Alike`) if they have one log and either both fail, with one diagnostic, or both succeed, with
results that are related. There is a rule for each way in which lowerings are put together.

Nodes of one notation are lowered alike in the place of an expression (`C.alike_lowerExpr`): the
operands that are lowered have one notation each, and of all other nodes only the sort is asked.
-/

namespace StructuredIL

open Text

namespace C

/-! ### Likeness -/

/-- What is seen of a fault: the diagnostic of what is not supported. -/
def LoweringFault.diagnostic? : LoweringFault → Option Text
  | .unsupported u => some u.diagnostic
  | .integerTooLong => none

/-- Two lowerings with one log that end alike, with related results if they succeed. -/
inductive Alike {α β : Type} (R : α → β → Prop) : Lower α → Lower β → Prop
  | ok {a : α} {b : β} {log : List Record} : R a b → Alike R ⟨.ok a, log⟩ ⟨.ok b, log⟩
  | error {e e' : LoweringFault} {log : List Record} : e.diagnostic? = e'.diagnostic? →
      Alike R ⟨.error e, log⟩ ⟨.error e', log⟩

/-- What is seen of a lowering to a text: the text or why there is none, and the log. -/
def seen (x : Lower Text) : Logged (Option Text) Text :=
  ⟨x.outcome.mapError LoweringFault.diagnostic?, x.log⟩

namespace Alike

variable {α β γ δ : Type} {R : α → β → Prop} {S : γ → δ → Prop} {x : Lower α} {y : Lower β}

theorem refl (x : Lower α) : Alike (· = ·) x x := by
  obtain ⟨outcome, log⟩ := x
  cases outcome with
  | ok a => exact .ok rfl
  | error e => exact .error rfl

theorem seen_eq {x y : Lower Text} (h : Alike (· = ·) x y) : seen x = seen y := by
  cases h with
  | ok h => rw [h]
  | @error e e' log h =>
    show Logged.mk (.error e.diagnostic?) log = ⟨.error e'.diagnostic?, log⟩
    rw [h]

theorem pure {a : α} {b : β} (h : R a b) : Alike R (pure a) (pure b) := .ok h

/-- What was logged before is in the log of both. -/
theorem after (h : Alike R x y) (log : List Record) :
    Alike R ⟨x.outcome, log ++ x.log⟩ ⟨y.outcome, log ++ y.log⟩ := by
  cases h with
  | ok h => exact .ok h
  | error h => exact .error h

theorem bind {f : α → Lower γ} {g : β → Lower δ} (h : Alike R x y)
    (hf : ∀ a b, R a b → Alike S (f a) (g b)) : Alike S (x >>= f) (y >>= g) := by
  cases h with
  | ok hab => exact (hf _ _ hab).after _
  | error h => exact .error h

theorem map {f : α → γ} {g : β → δ} (h : Alike R x y) (hf : ∀ a b, R a b → S (f a) (g b)) :
    Alike S (f <$> x) (g <$> y) := by
  rw [map_eq_pure_bind, map_eq_pure_bind]
  exact h.bind fun a b hab ↦ pure (hf a b hab)

theorem mapM {f : α → Lower γ} {g : β → Lower δ} {as : List α} {bs : List β}
    (h : List.Forall₂ (fun a b ↦ Alike S (f a) (g b)) as bs) :
    Alike (List.Forall₂ S) (as.mapM f) (bs.mapM g) := by
  induction h with
  | nil => exact pure .nil
  | cons hab _ ih =>
    rw [List.mapM_cons, List.mapM_cons]
    exact hab.bind fun c d hcd ↦ ih.bind fun cs ds hrest ↦ pure (.cons hcd hrest)

end Alike

variable {mode : Mode}

/-- What is not supported is seen by its diagnostic. -/
theorem alike_recover {u u' : Unsupported} (hwhat : u.what = u'.what)
    (hwritable : u.isWritable = u'.isWritable) :
    Alike (· = ·) (recover mode u) (recover mode u') := by
  have hdiagnostic : u.diagnostic = u'.diagnostic := by
    rw [Unsupported.diagnostic, Unsupported.diagnostic, hwhat]
  rw [recover.eq_def, recover.eq_def, hwritable]
  split
  · cases mode with
    | strict => exact .error (congrArg some hdiagnostic)
    | bestEffort =>
      rw [hdiagnostic]
      exact .ok rfl
  · exact .error rfl

/-! ### Sorts of nodes -/

/-- The word for the nodes of an opcode that come from a document. -/
def classOf : Opcode → String
  | .nop => "Nop"
  | .ldcI4 => "LdcI4"
  | .ldloc => "LdLoc"
  | .comp => "Comp"
  | .binaryNumeric => "BinaryNumericInstruction"
  | .stloc => "StLoc"
  | .branch => "Branch"
  | .ifInstruction => "IfInstruction"
  | .call => "Call"
  | .leave => "Leave"
  | .block => "Block"
  | .blockContainer => "BlockContainer"

theorem className_eq {n : Node} (h : n.IsLegible) : n.className = classOf n.opcode := by
  cases n with
  | bare op => exact h.elim
  | _ => rfl

/-- Two nodes of one sort that are not supported in the place of an expression. -/
theorem alike_expression {n m : Node} (hn : n.IsLegible) (hm : m.IsLegible)
    (h : n.opcode = m.opcode) :
    Alike (·.text = ·.text) (Expr.diagnostic <$> recover mode (.expression n))
      (Expr.diagnostic <$> recover mode (.expression m)) := by
  have hwhat : (Unsupported.expression n).what = (Unsupported.expression m).what := by
    rw [Unsupported.what, Unsupported.what, className_eq hn, className_eq hm, h]
  exact (alike_recover hwhat rfl).map fun _ _ htext ↦ htext

/-! ### Expressions -/

/-- **Nodes of one notation** are lowered alike in the place of an expression. -/
theorem alike_lowerExpr {n m : Node} (hn : ∀ k ∈ n.nodes, k.IsLegible)
    (hm : ∀ k ∈ m.nodes, k.IsLegible) (h : n.text = m.text) :
    Alike (·.text = ·.text) (lowerExpr mode n) (lowerExpr mode m) := by
  induction n using Node.induction generalizing m with
  | constant value =>
    obtain ⟨value', rfl, hvalue⟩ := Node.exists_of_text_constant hn hm h
    have hwritable {value : Int} (hn : ∀ k ∈ (Node.constant value).nodes, k.IsLegible) :
        isWritable value = true :=
      Node.isWritable_of_int32 (Node.forall_nodes_iff.1 hn).1
    rw [lowerExpr, lowerExpr, if_pos (hwritable hn), if_pos (hwritable hm)]
    exact .pure hvalue
  | load v =>
    obtain ⟨v', rfl, hname⟩ := Node.exists_of_text_load hn hm h
    rw [lowerExpr, lowerExpr]
    exact .pure hname
  | compare kind l r ihl ihr =>
    obtain ⟨l', r', rfl, hl, hr⟩ := Node.exists_of_text_compare hn hm h
    simp only [Node.nodes, List.forall_mem_cons, List.forall_mem_append] at hn hm
    rw [lowerExpr, lowerExpr]
    cases relationOf? kind with
    | none => exact (alike_recover rfl rfl).map fun _ _ htext ↦ htext
    | some rel =>
      refine (ihl hn.2.1 hm.2.1 hl).bind fun a a' ha ↦ (ihr hn.2.2 hm.2.2 hr).bind fun b b' hb ↦ ?_
      exact .pure (by rw [Expr.text, Expr.text, ha, hb])
  | binary op l r ihl ihr =>
    obtain ⟨l', r', rfl, hl, hr⟩ := Node.exists_of_text_binary hn hm h
    simp only [Node.nodes, List.forall_mem_cons, List.forall_mem_append] at hn hm
    rw [lowerExpr, lowerExpr]
    split
    · refine (ihl hn.2.1 hm.2.1 hl).bind fun a a' ha ↦ (ihr hn.2.2 hm.2.2 hr).bind fun b b' hb ↦ ?_
      exact .pure (by rw [Expr.text, Expr.text, ha, hb])
    · exact (alike_recover rfl rfl).map fun _ _ htext ↦ htext
  | bare op => exact (Node.forall_nodes_iff.1 hn).1.elim
  | _ =>
    obtain ⟨hroot, -⟩ := Node.forall_nodes_iff.1 hn
    obtain ⟨hroot', -⟩ := Node.forall_nodes_iff.1 hm
    have hop := Node.opcode_eq_of_text hroot hroot' h
    cases m with
    | bare op => exact hroot'.elim
    | constant | load | compare | binary => cases hop
    | _ => exact alike_expression hroot hroot' hop

end C

end StructuredIL
