import StructuredIL.Proofs.C.Precedence
import StructuredIL.Proofs.Loading.Evaluation
import StructuredIL.Proofs.Lowering.Rules
import StructuredIL.Proofs.Tree.Meaning
import StructuredIL.Proofs.Tree.Nodes

/-!
# Which expressions keep their value

An expression is written without parentheses, so what C reads is not the tree but the operands and
operators of the tree in their order, grouped by the rules of C. `Node.regrouped` is the tree that
C reads, as a tree, and `Term.read?` finds it in the text (`exists_read_text`). So an expression
keeps its value exactly if it has the value of its regrouping (`value_read_text_iff`).

The trees that are their own regrouping are told by their shape. They are built in layers: sums of
operands, comparisons of sums by order, comparisons of these for equality, and on each layer from
the left. Sums may be built in any way without harm, since addition is associative. A comparison
below a sum, or on the right of a comparison of its own layer, is read otherwise, and nothing is
diagnosed (`sum_of_comparison`). No rule about shapes alone could decide which of these trees have
the right value all the same: `0 + (1 < 0)` is read as another tree, and both are zero.

All values here have 32 bits, those of C as well (`Term.value`). That C has wider ones where the
least constant stands is a matter of types, not of the grouping.
-/

namespace StructuredIL

open C

/-! ### Plain expressions -/

/-- The comparison that a C comparison stands for. -/
def C.Relation.kind : Relation → ComparisonKind
  | .atLeast => .greaterThanOrEqual
  | .greater => .greaterThan
  | .less => .lessThan
  | .equal => .equality

/-- The node of an operator. -/
def C.Operator.node : Operator → Node → Node → Node
  | .plus, l, r => .binary .add l r
  | .relation rel, l, r => .compare rel.kind l r

/-- The value of an operation on values, if there are any. -/
def C.Operator.result? (o : Operator) (a b : Option Int32) : Option Int32 := do
  return o.onInts (← a) (← b)

theorem C.relationOf?_eq_some {kind : ComparisonKind} {rel : Relation} :
    relationOf? kind = some rel ↔ kind = rel.kind := by
  cases kind <;> cases rel <;> decide

theorem C.Relation.holds_kind (rel : Relation) (a b : Int32) :
    rel.kind.holds a b = rel.holds a.toInt b.toInt := by
  cases rel <;>
    simp [kind, ComparisonKind.holds, Relation.holds, Int32.le_iff_toInt_le, Int32.lt_iff_toInt_lt,
      ← Int32.toInt_inj]

namespace Node

/-- An expression of operands, sums and comparisons that have a counterpart in C. Integers have 32
bits, and names are names in C. -/
def IsPlain : Node → Prop
  | constant value => Build.minInt32 ≤ value ∧ value ≤ Build.maxInt32
  | load source => isIdentifier source.name = true ∧ isKeyword source.name = false
  | compare kind l r => (relationOf? kind).isSome = true ∧ l.IsPlain ∧ r.IsPlain
  | binary op l r => op = .add ∧ l.IsPlain ∧ r.IsPlain
  | _ => False

theorem value?_node (o : Operator) (l r : Node) (σ : Store) :
    (o.node l r).value? σ = o.result? (l.value? σ) (r.value? σ) := by
  rw [Operator.result?]
  cases o with
  | plus => simp only [Operator.node, value?, Operator.onInts_plus]
  | relation rel => simp only [Operator.node, value?, Relation.holds_kind, Operator.onInts_relation]

/-- Plain expressions are lowered. -/
theorem IsPlain.exists_isExpr {n : Node} (h : n.IsPlain) : ∃ e, n.IsExpr e ∧ e.IsReadable := by
  induction n using Node.induction with
  | constant value => exact ⟨_, .constant (isWritable_of_int32 h), trivial⟩
  | load v => exact ⟨_, .load, h⟩
  | compare kind l r ihl ihr =>
    obtain ⟨hkind, hl, hr⟩ := h
    obtain ⟨rel, hrel⟩ := Option.isSome_iff_exists.1 hkind
    obtain ⟨a, ha, hareads⟩ := ihl hl
    obtain ⟨b, hb, hbreads⟩ := ihr hr
    exact ⟨_, .compare hrel ha hb, hareads, hbreads⟩
  | binary op l r ihl ihr =>
    obtain ⟨rfl, hl, hr⟩ := h
    obtain ⟨a, ha, hareads⟩ := ihl hl
    obtain ⟨b, hb, hbreads⟩ := ihr hr
    exact ⟨_, .add ha hb, hareads, hbreads⟩
  | _ => exact h.elim

/-- What follows the rules is lowered in every mode, without a word. -/
theorem IsExpr.lowerExpr_eq {n : Node} {e : Expr} (h : n.IsExpr e) (mode : Mode) :
    lowerExpr mode n = pure e := by
  induction h with
  | constant hvalue => rw [lowerExpr, if_pos hvalue]
  | load => rfl
  | compare hrel _ _ ihl ihr =>
    rw [lowerExpr.eq_def]
    simp only [hrel, ihl, ihr, pure_bind]
  | add _ _ ihl ihr =>
    rw [lowerExpr.eq_def]
    simp only [ihl, ihr, pure_bind, if_true]

/-! ### Regrouping -/

/-- The operands and operators of an expression, in order. -/
def chain : Node → Chain Node
  | compare kind l r =>
    match relationOf? kind with
    | some rel => .join (.relation rel) l.chain r.chain
    | none => .single (compare kind l r)
  | binary .add l r => .join .plus l.chain r.chain
  | n => .single n

/-- **The tree that C reads**: the operands and operators of a tree, grouped by C. -/
def regrouped (n : Node) : Node := n.chain.group Operator.node

theorem value?_regrouped (n : Node) (σ : Store) :
    n.regrouped.value? σ = (n.chain.map (value? σ)).group Operator.result? :=
  Chain.map_group (fun o l r ↦ value?_node o l r σ) n.chain

variable {n : Node} {e : Expr} {σ : Store} {τ : Text → Int32}

theorem chain_compare {kind : ComparisonKind} {rel : Relation} (h : relationOf? kind = some rel)
    (l r : Node) : (compare kind l r).chain = .join (.relation rel) l.chain r.chain := by
  rw [chain, h]

theorem IsExpr.map_chain (h : n.IsExpr e) :
    n.chain.map (value? (τ ∘ Variable.name)) = (e.chain.map (Term.value τ)).map some := by
  induction h with
  | @constant value _ =>
    rw [Expr.chain, Chain.map_single, Chain.map_single, Term.value_literal]
    rfl
  | @load v =>
    rw [Expr.chain, Chain.map_single, Chain.map_single, Term.value_name]
    rfl
  | compare hrel _ _ ihl ihr =>
    rw [chain_compare hrel, Expr.chain, Chain.map_join, Chain.map_join, Chain.map_join, ihl, ihr]
  | add _ _ ihl ihr =>
    rw [chain, Expr.chain, Chain.map_join, Chain.map_join, Chain.map_join, ihl, ihr]

/-- What the text of an expression is read as has the value of the regrouped tree. -/
theorem IsExpr.value?_regrouped (h : n.IsExpr e) :
    n.regrouped.value? (τ ∘ Variable.name) = some (e.regrouped.value τ) := by
  rw [Node.value?_regrouped, h.map_chain, Expr.value_regrouped]
  exact (Chain.map_group (fun _ _ _ ↦ rfl) _).symm

/-! ### Layers -/

theorem chain_node (o : Operator) (l r : Node) : (o.node l r).chain = .join o l.chain r.chain := by
  cases o with
  | plus => rw [Operator.node, chain]
  | relation rel => exact chain_compare (relationOf?_eq_some.2 rfl) l r

/-- Whether a node is an operand. -/
def isOperand : Node → Bool
  | constant _ => true
  | load _ => true
  | _ => false

theorem chain_of_isOperand (h : n.isOperand = true) : n.chain = .single n := by
  cases n with
  | constant value => rfl
  | load v => rfl
  | _ => cases h

/-- A sum of operands, built in any way. -/
inductive IsSum : Node → Prop
  | operand {n : Node} : n.isOperand = true → IsSum n
  | add {l r : Node} : IsSum l → IsSum r → IsSum (binary .add l r)

/-- A sum of operands, built from the left. -/
inductive IsLeftSum : Node → Prop
  | operand {n : Node} : n.isOperand = true → IsLeftSum n
  | add {l r : Node} : IsLeftSum l → r.isOperand = true → IsLeftSum (binary .add l r)

/-- Comparisons of sums by order, built from the left. -/
inductive IsOrder (sums : Node → Prop) : Node → Prop
  | sum {n : Node} : sums n → IsOrder sums n
  | compare {o : Operator} {l r : Node} : o.isOrder = true → IsOrder sums l → sums r →
      IsOrder sums (o.node l r)

/-- Comparisons for equality of what is compared by order, built from the left. -/
inductive IsLayered (sums : Node → Prop) : Node → Prop
  | order {n : Node} : n.IsOrder sums → IsLayered sums n
  | equate {o : Operator} {l r : Node} : o.isEquality = true → IsLayered sums l →
      r.IsOrder sums → IsLayered sums (o.node l r)

section Layers

variable {α : Type} {f : Node → α} {combine : Operator → α → α → α} {sums : Node → Prop}

theorem IsLeftSum.level_eq (hf : ∀ o l r, f (o.node l r) = combine o (f l) (f r))
    (h : n.IsLeftSum) : (n.chain.map f).level Operator.isSum combine = .single (f n) := by
  induction h with
  | operand hn =>
    rw [chain_of_isOperand hn]
    rfl
  | @add l r _ hr ih =>
    rw [chain, chain_of_isOperand hr, Chain.map_join, Chain.map_single,
      Chain.level_join_single rfl ih, ← hf]
    rfl

/-- Where sums are associative, it does not matter how they are built. -/
theorem IsSum.level_eq (hf : ∀ o l r, f (o.node l r) = combine o (f l) (f r))
    (hassoc : ∀ a b c, combine .plus (combine .plus a b) c = combine .plus a (combine .plus b c))
    (h : n.IsSum) : (n.chain.map f).level Operator.isSum combine = .single (f n) := by
  induction h with
  | operand hn =>
    rw [chain_of_isOperand hn]
    rfl
  | add _ _ ihl ihr =>
    have hsums : ∀ o, Operator.isSum o = true → ∀ a b c,
        combine o (combine .plus a b) c = combine .plus a (combine o b c) := by
      intro o ho a b c
      cases o with
      | plus => exact hassoc a b c
      | relation rel => cases ho
    rw [chain, Chain.map_join, Chain.level_join_of_assoc rfl hsums ihl ihr, ← hf]
    rfl

theorem IsOrder.level_eq (hf : ∀ o l r, f (o.node l r) = combine o (f l) (f r))
    (hsums : ∀ m, sums m → (m.chain.map f).level Operator.isSum combine = .single (f m))
    (h : n.IsOrder sums) :
    ((n.chain.map f).level Operator.isSum combine).level Operator.isOrder combine =
      .single (f n) := by
  induction h with
  | sum hn =>
    rw [hsums _ hn]
    rfl
  | @compare o l r ho _ hr ih =>
    have hsum : o.isSum = false := by
      cases o with
      | plus => cases ho
      | relation rel => rfl
    rw [chain_node, Chain.map_join, Chain.level_join hsum, hsums r hr,
      Chain.level_join_single ho ih, hf]

/-- **What is built in layers is grouped as it is built.** -/
theorem IsLayered.group_eq (hf : ∀ o l r, f (o.node l r) = combine o (f l) (f r))
    (hsums : ∀ m, sums m → (m.chain.map f).level Operator.isSum combine = .single (f m))
    (h : n.IsLayered sums) : (n.chain.map f).group combine = f n := by
  suffices hlevel : (((n.chain.map f).level Operator.isSum combine).level
      Operator.isOrder combine).level Operator.isEquality combine = .single (f n) from
    congrArg Chain.first hlevel
  -- what is below on its level comes out of the lower levels as one operand
  induction h with
  | order hn =>
    rw [hn.level_eq hf hsums]
    rfl
  | @equate o l r ho _ hr ih =>
    have hlower : o.isSum = false ∧ o.isOrder = false := by
      cases o with
      | plus => cases ho
      | relation rel => cases rel <;> first | exact ⟨rfl, rfl⟩ | cases ho
    rw [chain_node, Chain.map_join, Chain.level_join hlower.1, Chain.level_join hlower.2,
      hr.level_eq hf hsums, Chain.level_join_single ho ih, hf]

end Layers

theorem IsPlain.all_isOperand_chain (h : n.IsPlain) :
    n.chain.All fun m ↦ m.isOperand = true := by
  induction n using Node.induction with
  | constant value => exact ⟨rfl, nofun⟩
  | load v => exact ⟨rfl, nofun⟩
  | compare kind l r ihl ihr =>
    obtain ⟨rel, hrel⟩ := Option.isSome_iff_exists.1 h.1
    rw [chain_compare hrel]
    exact (ihl h.2.1).join (ihr h.2.2)
  | binary op l r ihl ihr =>
    obtain ⟨rfl, hl, hr⟩ := h
    rw [chain]
    exact (ihl hl).join (ihr hr)
  | _ => exact h.elim

/-- What C reads is built in layers. -/
theorem IsPlain.isLayered_regrouped (h : n.IsPlain) : n.regrouped.IsLayered IsLeftSum := by
  -- one level after the other: operands, sums, comparisons by order, and the one that is left
  have hsums : (n.chain.level Operator.isSum Operator.node).All IsLeftSum := by
    refine h.all_isOperand_chain.level (fun m hm ↦ .operand hm) fun o l r ho hl hr ↦ ?_
    cases o with
    | plus => exact .add hl hr
    | relation rel => cases ho
  have horders := hsums.level (Q := IsOrder IsLeftSum) (fun m hm ↦ .sum hm)
    fun o l r ho hl hr ↦ IsOrder.compare (o := o) ho hl hr
  exact (horders.level (Q := IsLayered IsLeftSum) (fun m hm ↦ .order hm)
    fun o l r ho hl hr ↦ IsLayered.equate (o := o) ho hl hr).1

/-- **The trees that C reads as they are**: those that are built in layers, from the left. -/
theorem IsPlain.regrouped_eq_self_iff (h : n.IsPlain) :
    n.regrouped = n ↔ n.IsLayered IsLeftSum := by
  constructor
  · intro heq
    rw [← heq]
    exact h.isLayered_regrouped
  · intro hn
    have hf : ∀ o l r, id (Operator.node o l r) = Operator.node o (id l) (id r) :=
      fun _ _ _ ↦ rfl
    have hgroup := hn.group_eq hf fun m hm ↦ hm.level_eq hf
    rwa [show n.chain.map id = n.chain by simp [Chain.map]] at hgroup

/-- What is built in layers has the value of its regrouping. -/
theorem IsLayered.value?_regrouped (h : n.IsLayered IsSum) (σ : Store) :
    n.regrouped.value? σ = n.value? σ := by
  have hf (o : Operator) (l r : Node) := value?_node o l r σ
  rw [Node.value?_regrouped]
  refine h.group_eq hf fun m hm ↦ hm.level_eq hf fun a b c ↦ ?_
  -- sums wrap around, and this does not depend on where they begin
  cases a <;> cases b <;> cases c <;>
    simp [Operator.result?, Operator.onInts_plus, Int32.add_assoc]

end Node

/-! ### The value of a text -/

/-- A plain expression is lowered in every mode, and its text is read as the regrouped tree. -/
theorem Node.IsPlain.exists_read_text {n : Node} (h : n.IsPlain) :
    ∃ e u, (∀ mode, lowerExpr mode n = pure e) ∧ Term.read? e.text = some u ∧
      ∀ τ, n.regrouped.value? (τ ∘ Variable.name) = some (u.value τ) := by
  obtain ⟨e, he, hreads⟩ := h.exists_isExpr
  exact ⟨e, e.regrouped, he.lowerExpr_eq, Expr.read?_text hreads, fun τ ↦ he.value?_regrouped⟩

/-- **When an expression keeps its value.** A plain expression is lowered without a diagnostic, and
its text is read as an expression of C. In an arithmetic of 32 bits the two have the same value for
all values of the variables exactly if the tree and its regrouping have. The regrouping is the tree
itself exactly if the tree is built in layers from the left, and it has the same value if it is
built in layers and its sums in any way. -/
theorem value_read_text_iff {n : Node} (h : n.IsPlain) :
    ∃ e u, (∀ mode, lowerExpr mode n = pure e) ∧ Term.read? e.text = some u ∧
      ((∀ τ : Text → Int32, n.value? (τ ∘ Variable.name) = some (u.value τ)) ↔
        ∀ τ : Text → Int32, n.value? (τ ∘ Variable.name) =
          n.regrouped.value? (τ ∘ Variable.name)) ∧
      (n.regrouped = n ↔ n.IsLayered Node.IsLeftSum) ∧
      (n.IsLayered Node.IsSum →
        ∀ τ : Text → Int32, n.value? (τ ∘ Variable.name) = some (u.value τ)) := by
  obtain ⟨e, u, hlower, hread, hvalue⟩ := h.exists_read_text
  refine ⟨e, u, hlower, hread, ?_, h.regrouped_eq_self_iff, fun hn τ ↦ ?_⟩
  · exact forall_congr' fun τ ↦ by rw [hvalue τ]
  · rw [← hvalue τ, hn.value?_regrouped]

namespace SumOfThree

/-- Three variables. -/
def operands : List Variable := [⟨"x", .i4, some 0⟩, ⟨"y", .i4, some 1⟩, ⟨"z", .i4, some 2⟩]

/-- Values for them: one, two and three. -/
def values (t : Text) : Int32 := if t = "x" then 1 else if t = "y" then 2 else 3

/-- A sum that is built from the right. -/
def fromRight : Node :=
  .binary .add (.load ⟨"x", .i4, some 0⟩)
    (.binary .add (.load ⟨"y", .i4, some 1⟩) (.load ⟨"z", .i4, some 2⟩))

/-- A sum with a comparison on its right. -/
def ofComparison : Node :=
  .binary .add (.load ⟨"x", .i4, some 0⟩)
    (.compare .lessThan (.load ⟨"y", .i4, some 1⟩) (.load ⟨"z", .i4, some 2⟩))

/-- A function that prints the sum with the comparison. -/
def document : List (Text × Value) :=
  let declared (name : String) : Value := .ofFields [("name", .string name), ("type", .string "I4")]
  let load (name : String) : Value := .ofOperation "ldloc" [("var", .string name)]
  [("name", .string "f"), ("variables", .list [declared "x", declared "y", declared "z"]),
    ("body", .ofContainer "Normal" "body" [("only",
      [.ofOperation "call" [("args", .list [.ofOperation "binary" [("operator", .string "Add"),
        ("left", load "x"), ("right", .ofOperation "comp" [("kind", .string "LessThan"),
          ("left", load "y"), ("right", load "z")])]])]])])]

/-- The function that is loaded. -/
def function : Function :=
  ⟨"f", operands, .container ⟨0, .normal, .string "body"⟩
    [⟨⟨1, .controlFlow, .string "only"⟩, [.call [ofComparison] (.string "print")]⟩]⟩

theorem built : ∃ w', Build.buildFunction .standard (.object document) .empty =
    .ok function w' :=
  Build.buildFunction_eq_ok 10 (by decide) rfl rfl rfl rfl rfl rfl

end SumOfThree

open SumOfThree in
/-- A sum that is built from the right is read as one that is built from the left, and keeps its
value. -/
theorem value_of_sum_from_right : fromRight.regrouped ≠ fromRight ∧
    ∃ e u, (lowerExpr .strict fromRight).outcome = .ok e ∧ Term.read? e.text = some u ∧
      ∀ τ : Text → Int32, fromRight.value? (τ ∘ Variable.name) = some (u.value τ) := by
  have hplain : fromRight.IsPlain := ⟨rfl, ⟨rfl, rfl⟩, rfl, ⟨rfl, rfl⟩, rfl, rfl⟩
  obtain ⟨e, u, hlower, hread, -, -, hvalue⟩ := value_read_text_iff hplain
  refine ⟨fun h ↦ ?_, e, u, by rw [hlower]; rfl, hread, hvalue ?_⟩
  · cases h
  · exact .order (.sum (.add (.operand rfl) (.add (.operand rfl) (.operand rfl))))

open SumOfThree in
/-- **A sum that is read as a comparison**: with one, two and three for its operands the tree has
the value two, and its text the value zero. -/
theorem sum_of_comparison : ∃ w' e u,
    Build.buildFunction .standard (.object document) .empty = .ok function w' ∧
      ofComparison.IsPlain ∧ (lowerExpr .strict ofComparison).outcome = .ok e ∧
      e.text = "x + y < z" ∧ Term.read? e.text = some u ∧
      ofComparison.value? (values ∘ Variable.name) = some 2 ∧ u.value values = 0 := by
  obtain ⟨w', hbuilt⟩ := built
  have hplain : ofComparison.IsPlain := ⟨rfl, ⟨rfl, rfl⟩, rfl, ⟨rfl, rfl⟩, rfl, rfl⟩
  exact ⟨w', _, _, hbuilt, hplain, rfl, rfl, rfl, by decide, by decide⟩

end StructuredIL
