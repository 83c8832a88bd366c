import StructuredIL.Proofs.C.Skeleton
import StructuredIL.Proofs.Lowering.Names

/-!
# The skeleton of a tree

The statements of a generated body are those of the tree, each on its level. `Node.skeletons` says
for each node which these are: a container is one statement, a scope or an endless loop around the
statements of all its blocks; a block is the statements of its instructions, and the empty statement
if it has none; a conditional has a second arm unless its second arm is an empty statement. An
expression is only a text here, the one that it is lowered to.

The text of a function is its body between what stands in front of it and a brace (`C.enclosed`),
and the text of the body is read as just these statements (`C.skeletons_of_generate`). The names of
the variables have to be names of C for this and may not be `printf`, with which a call begins; that
the headers define some of them is no matter, since nothing is asked of an expression but that it
can be read.
-/

namespace StructuredIL

open C

/-! ### Skeletons of trees -/

/-- What is written for a node in the place of an expression, if it is supported there. -/
def Node.writtenExpr (n : Node) : Text :=
  match (lowerExpr .strict n).outcome with
  | .ok e => e.text
  | .error _ => []

/-- The statements between braces of a container of this kind, if it is supported. -/
def ContainerKind.skeletons (kind : ContainerKind) (parts : List Skeleton) : List Skeleton :=
  match kind with
  | .loop => [.loop (.compound parts)]
  | .normal => [.compound parts]
  | _ => []

/-- What an exit from a container of this kind is, if it is supported. -/
def ContainerKind.exitSkeletons : ContainerKind → List Skeleton
  | loop => [.exitLoop]
  | normal => [.exitFunction]
  | _ => []

mutual
/-- The statements of a node in the place of a statement, if it is supported there. -/
def Node.skeletons : Node → List Skeleton
  | .store v value => [.assign v.name value.writtenExpr]
  | .branch _ => [.nextRound]
  | .leave target _ => target.kind.exitSkeletons
  | .call [argument] _ => [.print argument.writtenExpr]
  | .cond c yes no =>
    if no.isEmptyStatement then [.ifThen c.writtenExpr (.compound yes.skeletons)]
    else [.ifElse c.writtenExpr (.compound yes.skeletons) (.compound no.skeletons)]
  | .block b => b.skeletons
  | .container head blocks => head.kind.skeletons (Block.skeletonsOfAll blocks)
  | _ => []

/-- The statements of a block. -/
def Block.skeletons : Block → List Skeleton
  | ⟨_, instructions⟩ =>
    if instructions.isEmpty then [.empty] else Node.skeletonsOfAll instructions

/-- The statements of some nodes. -/
def Node.skeletonsOfAll : List Node → List Skeleton
  | [] => []
  | n :: rest => n.skeletons ++ Node.skeletonsOfAll rest

/-- The statements of some blocks. -/
def Block.skeletonsOfAll : List Block → List Skeleton
  | [] => []
  | b :: rest => b.skeletons ++ Block.skeletonsOfAll rest
end

/-! ### Skeletons of what trees are lowered to -/

theorem Node.IsExpr.writtenExpr_eq {n : Node} {e : Expr} (h : n.IsExpr e) :
    n.writtenExpr = e.text := by
  rw [writtenExpr, h.lowerExpr_eq]
  rfl

theorem Block.skeletonsOfAll_eq (blocks : List Block) :
    skeletonsOfAll blocks = Node.skeletonsOfAll (blocks.map .block) := by
  induction blocks with
  | nil => rfl
  | cons b rest ih => rw [skeletonsOfAll, ih, List.map_cons, Node.skeletonsOfAll, Node.skeletons]

theorem Node.skeletonsOfAll_eq {ns : List Node} {parts : List Stmt}
    (h : List.Forall₂ (fun n s ↦ n.skeletons = s.skeletons) ns parts) :
    Node.skeletonsOfAll ns = Stmt.skeletonsOfAll parts := by
  induction h with
  | nil => rfl
  | cons hn _ ih => rw [Node.skeletonsOfAll, Stmt.skeletonsOfAll, hn, ih]

/-- A statement has the skeletons of the node that it comes from. -/
theorem Node.IsStmt.skeletons_eq {n : Node} {s : Stmt} (h : n.IsStmt s) :
    n.skeletons = s.skeletons := by
  refine Node.IsStmt.induction (motive := fun n s ↦ n.skeletons = s.skeletons)
    ?store ?branch ?ifThen ?ifElse ?print ?exitLoop ?exitFunction ?block ?loop ?scope h
  case store =>
    intro v value e he
    rw [Node.skeletons, Stmt.skeletons, he.writtenExpr_eq]
  case branch => exact fun _ ↦ rfl
  case ifThen =>
    intro c yes no e s he hno ih
    rw [Node.skeletons, Stmt.skeletons, if_pos hno, he.writtenExpr_eq, ih]
  case ifElse =>
    intro c yes no e s t he hno ihyes ihno
    rw [Node.skeletons, Stmt.skeletons, if_neg (ne_true_of_eq_false hno), he.writtenExpr_eq, ihyes,
      ihno]
  case print =>
    intro argument method e he
    rw [Node.skeletons, Stmt.skeletons, he.writtenExpr_eq]
  case exitLoop =>
    intro target value hkind
    rw [Node.skeletons, hkind]
    rfl
  case exitFunction =>
    intro target value hkind
    rw [Node.skeletons, hkind]
    rfl
  case block =>
    intro head instructions parts hparts
    have hempty : instructions.isEmpty = parts.isEmpty := by cases hparts <;> rfl
    rw [Node.skeletons, Block.skeletons, Stmt.skeletons, Node.skeletonsOfAll_eq hparts, hempty]
  case loop =>
    intro head blocks parts hkind hparts
    rw [Node.skeletons, hkind, Block.skeletonsOfAll_eq, Node.skeletonsOfAll_eq hparts]
    rfl
  case scope =>
    intro head blocks parts hkind hparts
    rw [Node.skeletons, hkind, Block.skeletonsOfAll_eq, Node.skeletonsOfAll_eq hparts]
    rfl

namespace C

/-- The text of a function with this name, which declares these variables and has a body with this
text. -/
def enclosed (name : Text) (declared : List (CType × Text)) (body : Text) : Text :=
  let declaration (d : CType × Text) : Text := "\n" ++ d.1.text ++ " " ++ d.2 ++ ";"
  SourceFile.prologue ++ name ++ "() \x7b" ++ declared.flatMap declaration ++
    "\n" ++ body ++ "\n\x7d"

theorem IsFile.text_eq {f : Function} {file : SourceFile} (h : IsFile f file) :
    file.text = enclosed (Text.lower f.name) (declaredAs f.locals) file.body.text := by
  rw [SourceFile.text_eq, h.name, declarations_eq h.declarations, List.flatMap_map, enclosed]
  simp only [Declaration.text, List.append_assoc]

/-- **The body is read back as the tree.** If a function is loaded and lowered strictly, and the
names of its variables are names of C other than `printf`, the text consists of the headers, the
name of the function, the declarations of its variables, and a body between braces. The text of the
body is read to its end as statements, and these are the statements of the tree. -/
theorem skeletons_of_generate {f : Function} {text : Text} (hf : f.IsLoaded)
    (h : (generate .strict f).outcome = .ok text)
    (hnames : ∀ v ∈ f.locals, IsName v.name ∧ v.name ≠ "printf") :
    ∃ body, text = enclosed (Text.lower f.name) (declaredAs f.locals) body ∧
      Skeleton.read? body = some f.body.skeletons := by
  obtain ⟨file, hlower, hfile⟩ := isClean_bind.1 (isClean_strict.2 h)
  obtain rfl : file.text = text := isClean_pure.1 hfile
  replace hfile : IsFile f file := isFile_of_lowerFunction hlower
  have hbody := hfile.body.isReadable_of_resolved hf.resolved.body
  have hreads : ReadsStatements file.body.text file.body.skeletons :=
    hbody.readsStatements (List.forall_mem_map.2 hnames)
  refine ⟨file.body.text, hfile.text_eq, ?_⟩
  rw [hfile.body.skeletons_eq]
  exact hreads.read?_eq

namespace NestedArms

/-- A loop with a conditional in a conditional, of which the inner one has a second arm. The first
block is empty, and so is the first arm of the inner conditional. One variable has a name that
a header defines. -/
def document : List (Text × Value) :=
  let declared (name : String) : Value :=
    .ofFields [("name", .string name), ("type", .string "I4")]
  let load (name : String) : Value := .ofOperation "ldloc" [("var", .string name)]
  let block (instructions : List Value) : Value :=
    .ofOperation "Block" [("instructions", .list instructions)]
  let inner : Value := .ofOperation "if" [("condition", load "bool"), ("true", block []),
    ("false", block [.ofOperation "stloc" [("var", .string "n"), ("value", load "bool")],
      .ofOperation "call" [("args", .list [load "n"])], .ofOperation "leave" []])]
  [("name", .string "Main"), ("variables", .list [declared "bool", declared "n"]),
    ("body", .ofContainer "Loop" "loop" [("front", []),
      ("rest", [.ofOperation "if" [("condition", load "n"), ("true", inner)],
        .ofOperation "br" [("target", .string "front")]])])]

/-- The variable with the name of a type. -/
def flag : Variable := ⟨"bool", .i4, some 0⟩

/-- The other variable. -/
def count : Variable := ⟨"n", .i4, some 1⟩

/-- The loop. -/
def loop : ContainerHead := ⟨0, .loop, .string "loop"⟩

/-- The block at its front. -/
def front : BlockHead := ⟨1, .controlFlow, .string "front"⟩

/-- The function that is loaded. -/
def function : Function :=
  let arm (serial : Nat) : BlockHead := ⟨serial, .controlFlow, .string "Block"⟩
  ⟨"Main", [flag, count], .container loop [⟨front, []⟩, ⟨⟨2, .controlFlow, .string "rest"⟩,
    [.cond (.load count) (.cond (.load flag) (.block ⟨arm 3, []⟩)
        (.block ⟨arm 4, [.store count (.load flag), .call [.load count] (.string "print"),
          .leave loop .nop]⟩)) .nop,
      .branch front]⟩]⟩

theorem isLoaded : function.IsLoaded := by
  obtain ⟨w, h⟩ : ∃ w, Build.buildFunction .standard (.object document) .empty =
      .ok function w :=
    Build.buildFunction_eq_ok 20 (by decide) rfl rfl rfl rfl rfl rfl
  exact .byItself h

end NestedArms

open NestedArms in
/-- Every arm and every block of the loop stays on its level. -/
theorem skeletons_of_nested_arms :
    ∃ body, (generate .strict function).outcome =
        .ok (enclosed "main" [(.int32, "bool"), (.int32, "n")] body) ∧
      Skeleton.read? body = some [.loop (.compound [.empty,
        .ifThen "n" (.compound [.ifElse "bool" (.compound [.empty])
          (.compound [.assign "n" "bool", .print "n", .exitLoop])]),
        .nextRound])] := by
  obtain ⟨text, htext⟩ : ∃ text, (generate .strict function).outcome = .ok text := ⟨_, rfl⟩
  have hnames : ∀ v ∈ function.locals, IsName v.name ∧ v.name ≠ "printf" :=
    List.forall_mem_cons.2 ⟨⟨⟨rfl, rfl⟩, nofun⟩, List.forall_mem_singleton.2 ⟨⟨rfl, rfl⟩, nofun⟩⟩
  obtain ⟨body, rfl, hread⟩ := skeletons_of_generate isLoaded htext hnames
  exact ⟨body, htext, hread⟩

end C

end StructuredIL
