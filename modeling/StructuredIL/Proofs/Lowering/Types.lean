import StructuredIL.Proofs.Loading.Legibility
import StructuredIL.Proofs.Lowering.Simulation

/-!
# The types of what is generated

Every expression in a statement is what some node is lowered to (`Node.IsStmt.hasExpr`), and
its constants are those of the node, in order (`Node.IsExpr.literals_eq`). In a function that is
loaded these have 32 bits, and the variables in it are declared, so C gives a type to everything in
the expression (`Node.IsExpr.isTypable`).

The type is `int` as long as the least constant of 32 bits does not occur
(`type_of_expressions`). That constant is written like the others, and C reads it as a `long`
(`least_constant_is_long`): it is printed with a format for an `int`, and what is added to it is
added in 64 bits.
-/

namespace StructuredIL

open C

/-! ### Expressions and their nodes -/

namespace C.Stmt

mutual
/-- The expressions of a statement, in order. -/
def expressions : Stmt → List Expr
  | assign _ value => [value]
  | nextRound => []
  | exitLoop => []
  | exitFunction => []
  | print value => [value]
  | ifThen c yes => c :: yes.expressions
  | ifElse c yes no => c :: (yes.expressions ++ no.expressions)
  | scope parts => expressionsOfAll parts
  | loop parts => expressionsOfAll parts
  | sequence parts => expressionsOfAll parts
  | diagnostic _ => []

/-- The expressions of some statements. -/
def expressionsOfAll : List Stmt → List Expr
  | [] => []
  | s :: rest => s.expressions ++ expressionsOfAll rest
end

theorem expressionsOfAll_eq (ss : List Stmt) : expressionsOfAll ss = ss.flatMap expressions := by
  induction ss with
  | nil => rfl
  | cons s rest ih => rw [expressionsOfAll, ih, List.flatMap_cons]

end C.Stmt

variable {n : Node} {e : Expr} {s : Stmt} {locals : List Variable} {around : List OpenContainer}

namespace Node

/-- Some node of a tree is lowered to an expression. -/
def HasExpr (n : Node) (e : Expr) : Prop := ∃ m ∈ n.nodes, m.IsExpr e

theorem IsExpr.hasExpr (h : n.IsExpr e) : n.HasExpr e := ⟨n, by simp [nodes_eq n], h⟩

theorem HasExpr.of_mem_children {c : Node} (h : c.HasExpr e) (hc : c ∈ n.children) :
    n.HasExpr e := by
  obtain ⟨m, hm, he⟩ := h
  exact ⟨m, mem_nodes_of_mem_children hc hm, he⟩

theorem hasExpr_of_parts {parts : List Stmt}
    (h : List.Forall₂ (fun n s ↦ ∀ e ∈ s.expressions, n.HasExpr e) n.children parts)
    (he : e ∈ Stmt.expressionsOfAll parts) : n.HasExpr e := by
  rw [Stmt.expressionsOfAll_eq] at he
  obtain ⟨p, hp, he⟩ := List.mem_flatMap.1 he
  obtain ⟨c, hc, hparts⟩ := exists_of_forall₂ h.flip hp
  exact (hparts e he).of_mem_children hc

/-- **Every expression of a statement comes from a node of its tree.** -/
theorem IsStmt.hasExpr (h : n.IsStmt s) : ∀ e ∈ s.expressions, n.HasExpr e := by
  refine Node.IsStmt.induction (motive := fun n s ↦ ∀ e ∈ s.expressions, n.HasExpr e)
    ?store ?branch ?ifThen ?ifElse ?print ?exitLoop ?exitFunction ?block ?loop ?scope h
  case store =>
    intro v value e he
    exact List.forall_mem_singleton.2 (he.hasExpr.of_mem_children (List.mem_singleton_self _))
  case branch => exact fun _ ↦ List.forall_mem_nil _
  case ifThen =>
    intro c yes no e s he _ ih
    refine List.forall_mem_cons.2 ⟨he.hasExpr.of_mem_children (by simp [children]), fun e he ↦ ?_⟩
    exact (ih e he).of_mem_children (by simp [children])
  case ifElse =>
    intro c yes no e s t he _ ihyes ihno
    refine List.forall_mem_cons.2 ⟨he.hasExpr.of_mem_children (by simp [children]),
      List.forall_mem_append.2 ⟨fun e he ↦ ?_, fun e he ↦ ?_⟩⟩
    · exact (ihyes e he).of_mem_children (by simp [children])
    · exact (ihno e he).of_mem_children (by simp [children])
  case print =>
    intro argument method e he
    exact List.forall_mem_singleton.2 (he.hasExpr.of_mem_children (List.mem_singleton_self _))
  case exitLoop => exact fun _ _ _ ↦ List.forall_mem_nil _
  case exitFunction => exact fun _ _ _ ↦ List.forall_mem_nil _
  case block =>
    intro head instructions parts hparts e he
    exact hasExpr_of_parts (n := .block ⟨head, instructions⟩) hparts he
  case loop | scope =>
    intro head blocks parts _ hparts e he
    exact hasExpr_of_parts (n := .container head blocks) hparts he

end Node

/-! ### Functions -/

/-- **The type of everything that is generated.** In a function that is loaded and lowered without
a diagnostic, each expression is that of a node, and is read with the constants of the node. What
occurs in it is an `int`, unless the least constant of 32 bits is summed up in it, which makes it
a `long`. So everything is an `int` exactly if the node does not have this constant. -/
theorem type_of_expressions {f : Function} {mode : Mode} {file : SourceFile} (hf : f.IsLoaded)
    (h : IsClean mode (lowerFunction mode f) file) :
    file.declarations = ((declaredAs f.locals).map fun d ↦ .declares d.1 d.2) ∧
      ∀ e ∈ file.body.expressions, ∃ n ∈ f.body.nodes, (∀ mode, lowerExpr mode n = pure e) ∧
        ((∀ v ∈ f.locals, IsName v.name) → Term.read? e.text = some e.regrouped) ∧
        e.regrouped.literals = n.constants ∧
        (∀ t ∈ e.regrouped.subterms, t.type? (declaredAs f.locals) =
          some (if Build.minInt32 ∈ t.summands then .long else .int)) ∧
        ((∀ t ∈ e.regrouped.subterms, t.type? (declaredAs f.locals) = some .int) ↔
          Build.minInt32 ∉ n.constants) := by
  have hfile := isFile_of_lowerFunction h
  refine ⟨declarations_eq hfile.declarations, fun e he ↦ ?_⟩
  -- from the expression to its node, and from the node to what the load makes sure of
  obtain ⟨n, hn, hexpr⟩ := hfile.body.hasExpr e he
  obtain ⟨around, hresolved⟩ := hf.resolved.body.exists_of_mem_nodes hn
  have htypable := hexpr.isTypable hresolved
  rw [← map_snd_declaredAs] at htypable
  have hliterals : e.regrouped.literals = n.constants :=
    (Expr.literals_regrouped e).trans hexpr.literals_eq
  refine ⟨n, hn, hexpr.lowerExpr_eq, fun hnames ↦ ?_, hliterals, fun t ht ↦ ?_, ?_⟩
  · exact Expr.read?_text ((hexpr.isOver hresolved).isReadable (List.forall_mem_map.2 hnames))
  · exact (Term.forall_subterms_of htypable (fun _ _ _ ↦ Term.IsTypable.operands) t ht).type?_eq
  · rw [htypable.forall_type?_iff, hliterals]

namespace LeastConstant

/-- A function that adds the least constant to a variable, prints it, and prints whether the
variable is less than it. -/
def document : List (Text × Value) :=
  let least : Value := .ofOperation "ldc.i4" [("value", .int Build.minInt32)]
  let load : Value := .ofOperation "ldloc" [("var", .string "x")]
  [("name", .string "f"),
    ("variables", .list [.ofFields [("name", .string "x"), ("type", .string "I4")]]),
    ("body", .ofContainer "Normal" "body" [("only",
      [.ofOperation "stloc" [("var", .string "x"), ("value", .ofOperation "binary"
          [("operator", .string "Add"), ("left", load), ("right", least)])],
        .ofOperation "call" [("args", .list [least])],
        .ofOperation "call" [("args", .list [.ofOperation "comp" [("kind", .string "LessThan"),
          ("left", load), ("right", least)]])]])])]

/-- The variable. -/
def x : Variable := ⟨"x", .i4, some 0⟩

/-- The function that is loaded. -/
def function : Function :=
  ⟨"f", [x], .container ⟨0, .normal, .string "body"⟩ [⟨⟨1, .controlFlow, .string "only"⟩,
    [.store x (.binary .add (.load x) (.constant Build.minInt32)),
      .call [.constant Build.minInt32] (.string "print"),
      .call [.compare .lessThan (.load x) (.constant Build.minInt32)] (.string "print")]⟩]⟩

/-- The sum that is assigned. -/
def sum : Expr := .sum (.variableName "x") (.constant Build.minInt32)

/-- The comparison that is printed. -/
def comparison : Expr := .relation .less (.variableName "x") (.constant Build.minInt32)

/-- The file that the function is lowered to. -/
def file : SourceFile :=
  ⟨"f", [.declares .int32 "x"], .scope [.sequence
    [.assign "x" sum, .print (.constant Build.minInt32), .print comparison]]⟩

theorem isLoaded : function.IsLoaded := by
  obtain ⟨w, h⟩ : ∃ w, Build.buildFunction .standard (.object document) .empty =
      .ok function w :=
    Build.buildFunction_eq_ok 10 (by decide) rfl rfl rfl rfl rfl rfl
  exact .byItself h

theorem lowered : (lowerFunction .strict function).outcome = .ok file := by
  have hleast : StructuredIL.isWritable Build.minInt32 = true :=
    Node.isWritable_of_int32 (by decide)
  simp only [lowerFunction, function, lowerStmt, lowerBlocks, lowerBlock, lowerAll, lowerExpr,
    relationOf?, hleast, if_true]
  rfl

end LeastConstant

open LeastConstant in
/-- The least constant and a sum with it are no `int`s; a comparison with it is one. -/
theorem type_of_comparison : function.IsLoaded ∧
    IsClean .strict (lowerFunction .strict function) file ∧
    sum ∈ file.body.expressions ∧ comparison ∈ file.body.expressions ∧
    sum.regrouped.type? (declaredAs function.locals) = some .long ∧
    comparison.regrouped.type? (declaredAs function.locals) = some .int := by
  have hclean := isClean_strict.2 lowered
  have hsum : sum ∈ file.body.expressions := by decide
  have hcomparison : comparison ∈ file.body.expressions := by decide
  obtain ⟨-, htypes⟩ := type_of_expressions isLoaded hclean
  refine ⟨isLoaded, hclean, hsum, hcomparison, ?_, ?_⟩
  · obtain ⟨_, -, -, -, -, htype, -⟩ := htypes _ hsum
    exact htype sum.regrouped (by decide)
  · obtain ⟨_, -, -, -, -, htype, -⟩ := htypes _ hcomparison
    exact htype comparison.regrouped (by decide)

open LeastConstant in
/-- **A constant that is no `int`.** The least constant is lowered without a diagnostic, and its
text is read as a `long`: so `printf` is given a `long` where its format has `%d`, and a sum with
the constant is computed in 64 bits. -/
theorem least_constant_is_long : function.IsLoaded ∧
    (lowerFunction .strict function).outcome = .ok file ∧
    file.body.expressions = [sum, .constant Build.minInt32, comparison] ∧
    (Stmt.print (.constant Build.minInt32)).text = "printf(\"%d\\n\", -2147483648);" ∧
    (∃ t, Term.read? "-2147483648" = some t ∧ t.type? (declaredAs function.locals) = some .long) ∧
    sum.text = "x + -2147483648" ∧
    ∃ t, Term.read? "x + -2147483648" = some t ∧
      t.type? (declaredAs function.locals) = some .long :=
  ⟨isLoaded, lowered, rfl, rfl, ⟨_, rfl, rfl⟩, rfl, _, rfl, rfl⟩

end StructuredIL
