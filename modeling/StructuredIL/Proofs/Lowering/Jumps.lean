import StructuredIL.Proofs.C.Control
import StructuredIL.Proofs.Loading.Evaluation
import StructuredIL.Proofs.Loading.Functions
import StructuredIL.Proofs.Lowering.Rules

/-!
# Which jumps go where they should

A leave is lowered to `break` or to `return`, by the kind of the container it names, and a branch is
lowered to `continue`. The three jumps of C know nothing of names: they speak of the innermost loop
and of the function. So a jump goes where the tree says only if the container, or the block, that
the tree names is the one that C means. When that is so is said here exactly.

* `landing_leave_iff`: a leave of a loop is right if no other loop is entered between the two, and a
  leave of a scope is right if nothing comes behind the scope in the function.
* `landing_branch_iff`: a branch is right if the container around it is a loop and the block that it
  names is the first of that loop.

In the other cases nothing is diagnosed and the jump goes elsewhere (`leave_of_inner_scope`,
`branch_to_second_block`).
-/

namespace StructuredIL

open C

/-! ### Statements of a tree and their places -/

namespace Node

/-- Whether a node is a loop. -/
def isLoop : Node → Bool
  | container head _ => head.kind == .loop
  | _ => false

/-- A path goes through a loop, which is not at its end. -/
def EntersLoop : List Nat → Node → Prop
  | [], _ => False
  | i :: p, n => n.isLoop = true ∨ ∃ m, n.parts[i]? = some m ∧ m.EntersLoop p

/-- A path goes to the last instruction of a block in every step, so nothing of the tree comes
behind what it leads to. -/
def EndsIn : List Nat → Node → Prop
  | [], _ => True
  | i :: p, n => ∃ b m, n = block b ∧ i + 1 = b.instructions.length ∧
      b.instructions[i]? = some m ∧ m.EndsIn p

variable {n m : Node} {s : Stmt} {X Y : Site}

theorem IsStmt.sequence_iff (h : n.IsStmt s) {k : Nat} :
    (∃ parts, s = .sequence parts ∧ k = parts.length) ↔
      ∃ b, n = .block b ∧ k = b.instructions.length := by
  cases h with
  | block hkind hparts => simp [hparts.length_eq]
  | _ => simp

theorem IsStmt.of_leave {target : ContainerHead} {value : Node}
    (h : (Node.leave target value).IsStmt s) :
    target.kind = .loop ∧ s = .exitLoop ∨ target.kind = .normal ∧ s = .exitFunction := by
  cases h with
  | exitLoop hkind => exact .inl ⟨hkind, rfl⟩
  | exitFunction hkind => exact .inr ⟨hkind, rfl⟩

theorem IsStmt.of_branch {target : BlockHead} (h : (Node.branch target).IsStmt s) :
    s = .nextRound := by
  cases h
  rfl

/-- The parts of a node are lowered to the statements inside its statement. -/
theorem IsStmt.forall₂_inside (h : n.IsStmt s) (after : Text) :
    List.Forall₂ (fun m x ↦ m.IsStmt x.1) n.parts (s.inside after) := by
  have hspread {ns : List Node} {parts : List Stmt} (rest : Text)
      (hparts : List.Forall₂ IsStmt ns parts) :
      List.Forall₂ (fun m x ↦ m.IsStmt x.1) ns (Stmt.spread parts rest) := by
    rw [← Stmt.map_fst_spread parts rest] at hparts
    exact List.forall₂_map_right_iff.1 hparts
  cases h with
  | ifThen _ hyes hno =>
    rw [parts, if_pos hno]
    exact .cons hyes .nil
  | ifElse _ hyes hno hne =>
    rw [parts, if_neg (by simp [hne])]
    exact .cons hyes (.cons hno .nil)
  | block _ hparts => exact hspread _ hparts
  | loop _ hparts => exact hspread _ hparts
  | scope _ hparts => exact hspread _ hparts
  | _ => exact .nil

theorem IsStmt.forall₂_parts (h : n.IsStmt X.stmt) :
    List.Forall₂ (fun m Y ↦ m.IsStmt Y.stmt) n.parts X.parts :=
  List.forall₂_map_right_iff.2 (h.forall₂_inside X.after)

/-- What a path leads to in a tree is lowered to what it leads to in the text. -/
theorem IsStmt.exists_at? (h : n.IsStmt X.stmt) {p : List Nat} (hm : n.at? p = some m) :
    ∃ Y, X.at? p = some Y ∧ m.IsStmt Y.stmt :=
  follow_of_rel (fun h ↦ IsStmt.forall₂_parts h) h hm

/-- A path in two parts, in the tree and in the text. -/
theorem IsStmt.exists_at?_append (h : n.IsStmt X.stmt) {p q : List Nat} {l : Node}
    (hm : n.at? p = some m) (hl : m.at? q = some l) :
    ∃ Y Z, X.at? p = some Y ∧ m.IsStmt Y.stmt ∧ Y.at? q = some Z ∧ l.IsStmt Z.stmt ∧
      X.at? (p ++ q) = some Z := by
  obtain ⟨Y, hY, hYstmt⟩ := h.exists_at? hm
  obtain ⟨Z, hZ, hZstmt⟩ := hYstmt.exists_at? hl
  exact ⟨Y, Z, hY, hYstmt, hZ, hZstmt, follow_append_eq_some.2 ⟨Y, hY, hZ⟩⟩

/-- The first step of a path, in the tree and in the text. -/
theorem IsStmt.exists_step (h : n.IsStmt X.stmt) {i : Nat} {p : List Nat}
    (hm : n.at? (i :: p) = some m) (hY : X.at? (i :: p) = some Y) :
    ∃ part Z, n.parts[i]? = some part ∧ X.parts[i]? = some Z ∧ part.IsStmt Z.stmt ∧
      part.at? p = some m ∧ Z.at? p = some Y := by
  obtain ⟨part, hpart, hm⟩ := follow_cons_eq_some.1 hm
  obtain ⟨Z, hZ, hY⟩ := follow_cons_eq_some.1 hY
  have hpath : n.at? [i] = some part := follow_cons_eq_some.2 ⟨part, hpart, rfl⟩
  obtain ⟨Z', hZ', hstmt⟩ := h.exists_at? hpath
  obtain rfl : Z = Z' := Option.some.inj <|
    (follow_cons_eq_some.2 ⟨Z, hZ, rfl⟩ : X.at? [i] = some Z).symm.trans hZ'
  exact ⟨part, Z, hpart, hZ, hstmt, hm, hY⟩

/-! ### The end of the innermost loop -/

theorem IsStmt.exit_loopInside (h : n.IsStmt X.stmt) :
    X.loopInside.2 = if n.isLoop then some X.after else X.exit := by
  obtain ⟨stmt, after, round, exit⟩ := X
  cases h with
  | loop hkind => simp [isLoop, Site.loopInside, hkind]
  | scope hkind => simp [isLoop, Site.loopInside, hkind]
  | _ => rfl

/-- Along a path that enters no loop, the innermost loop stays what it is. Along a path that enters
one, it ends no later than what the path began with. -/
theorem IsStmt.exit_of_at? (h : n.IsStmt X.stmt) {p : List Nat} (hm : n.at? p = some m)
    (hY : X.at? p = some Y) :
    (¬ n.EntersLoop p → Y.exit = X.exit) ∧
      (n.EntersLoop p → ∃ t, Y.exit = some t ∧ X.after <:+ t) := by
  induction p generalizing n X with
  | nil =>
    cases hY
    exact ⟨fun _ ↦ rfl, False.elim⟩
  | cons i p ih =>
    obtain ⟨part, Z, hpart, hZ, hstmt, hpm, hZY⟩ := h.exists_step hm hY
    obtain ⟨hinside, -, hexit⟩ := Site.parts_getElem? hZ
    have hafter : X.after <:+ Z.after := (Stmt.after_suffix_of_inside hinside).1
    rw [h.exit_loopInside] at hexit
    obtain ⟨hstays, henters⟩ := ih hstmt hpm hZY
    by_cases hp : part.EntersLoop p
    · refine ⟨fun hn ↦ absurd (.inr ⟨part, hpart, hp⟩) hn, fun _ ↦ ?_⟩
      obtain ⟨t, ht, hsuffix⟩ := henters hp
      exact ⟨t, ht, hafter.trans hsuffix⟩
    · by_cases hn : n.isLoop = true
      · -- the loop that is entered last is this one
        rw [if_pos hn] at hexit
        refine ⟨fun h' ↦ absurd (.inl hn) h', fun _ ↦ ⟨X.after, ?_, List.suffix_rfl⟩⟩
        rw [hstays hp, hexit]
      · rw [if_neg hn] at hexit
        refine ⟨fun _ ↦ (hstays hp).trans hexit, ?_⟩
        rintro (hloop | ⟨part', hpart', henters'⟩)
        · exact absurd hloop hn
        · obtain rfl : part = part' := Option.some.inj (hpart.symm.trans hpart')
          exact absurd henters' hp

/-! ### The end of the function -/

/-- Nothing comes behind what a path leads to exactly if every step of it goes to a last
instruction. -/
theorem IsStmt.after_eq_iff (h : n.IsStmt X.stmt) {p : List Nat} (hm : n.at? p = some m)
    (hY : X.at? p = some Y) : Y.after = X.after ↔ n.EndsIn p := by
  induction p generalizing n X with
  | nil =>
    cases hY
    exact ⟨fun _ ↦ trivial, fun _ ↦ rfl⟩
  | cons i p ih =>
    obtain ⟨part, Z, hpart, hZ, hstmt, hpm, hZY⟩ := h.exists_step hm hY
    obtain ⟨hinside, -⟩ := Site.parts_getElem? hZ
    obtain ⟨hafter, hlength⟩ := Stmt.after_suffix_of_inside hinside
    rw [h.sequence_iff] at hlength
    have hbehind := Site.after_suffix_of_at? hZY
    constructor
    · intro heq
      have hZX : Z.after = X.after :=
        (hafter.eq_of_length_le (by rw [← heq]; exact hbehind.length_le)).symm
      obtain ⟨b, rfl, hlast⟩ := hlength.1 (congrArg List.length hZX)
      exact ⟨b, part, rfl, hlast, hpart, (ih hstmt hpm hZY).1 (heq.trans hZX.symm)⟩
    · rintro ⟨b, part', rfl, hlast, hpart', hends⟩
      obtain rfl : part = part' := Option.some.inj (hpart.symm.trans hpart')
      have hZX := hafter.eq_of_length (hlength.2 ⟨b, rfl, hlast⟩).symm
      rw [(ih hstmt hpm hZY).2 hends, hZX]

/-! ### The beginning of a round -/

theorem IsStmt.round_loopInside (h : n.IsStmt X.stmt) (hn : n.isLoop = false) :
    X.loopInside.1 = X.round := by
  obtain ⟨stmt, after, round, exit⟩ := X
  cases h with
  | loop hkind => simp [isLoop, hkind] at hn
  | _ => rfl

/-- Along a path that goes into no container, the rounds of the innermost loop stay what they
are. -/
theorem IsStmt.round_of_at? (h : n.IsStmt X.stmt) {p : List Nat} (hm : n.at? p = some m)
    (hY : X.at? p = some Y)
    (hp : ∀ q head blocks, q <+: p → n.at? q ≠ some (container head blocks)) :
    Y.round = X.round := by
  induction p generalizing n X with
  | nil =>
    cases hY
    rfl
  | cons i p ih =>
    obtain ⟨part, Z, hpart, hZ, hstmt, hpm, hZY⟩ := h.exists_step hm hY
    obtain ⟨-, hround, -⟩ := Site.parts_getElem? hZ
    have hn : n.isLoop = false := by
      cases n with
      | container head blocks => exact absurd rfl (hp [] head blocks List.nil_prefix)
      | _ => rfl
    rw [ih hstmt hpm hZY, hround, h.round_loopInside hn]
    intro q head blocks hq hcontainer
    exact hp (i :: q) head blocks (List.cons_prefix_cons.2 ⟨rfl, hq⟩)
      (follow_cons_eq_some.2 ⟨part, hpart, hcontainer⟩)

end Node

/-! ### Leaves -/

section Leaves

variable {head : ContainerHead} {blocks : List Block} {b : Block} {i : Nat} {r : List Nat}
  {value : Node} {Q J : Site}

/-- The `break` of a leave goes behind the loop around it that is entered last. -/
theorem exit_eq_after_iff (hQ : (Node.container head blocks).IsStmt Q.stmt)
    (hkind : head.kind = .loop) (hb : blocks[i]? = some b) {target : ContainerHead}
    (hleave : (Node.block b).at? r = some (.leave target value)) (hJ : Q.at? (i :: r) = some J) :
    J.exit = some Q.after ↔ ¬ (Node.block b).EntersLoop r := by
  have hpart : (Node.container head blocks).parts[i]? = some (.block b) :=
    Node.parts_container_getElem?.2 ⟨b, hb, rfl⟩
  obtain ⟨part, Z, hpart', hZ, hstmt, hpm, hZJ⟩ :=
    hQ.exists_step (follow_cons_eq_some.2 ⟨_, hpart, hleave⟩) hJ
  obtain rfl : Node.block b = part := Option.some.inj (hpart.symm.trans hpart')
  obtain ⟨hinside, -, hexit⟩ := Site.parts_getElem? hZ
  rw [hQ.exit_loopInside, if_pos (by simp [Node.isLoop, hkind])] at hexit
  obtain ⟨hstays, henters⟩ := hstmt.exit_of_at? hpm hZJ
  obtain ⟨hsuffix, hlength⟩ := Stmt.after_suffix_of_inside hinside
  rw [hQ.sequence_iff] at hlength
  constructor
  · -- a loop on the way ends inside the container, whose brace comes behind it
    intro hJQ hloop
    obtain ⟨t, ht, hZt⟩ := henters hloop
    obtain rfl : t = Q.after := Option.some.inj (ht.symm.trans hJQ)
    have hsame := hlength.1 (Nat.le_antisymm hZt.length_le hsuffix.length_le)
    obtain ⟨_, ⟨⟩, -⟩ := hsame
  · intro hloop
    rw [hstays hloop, hexit]

end Leaves

/-- **Where a leave goes.** In a loaded function that is lowered without a diagnostic, every leave
names a container that it stands in, and only one. Its jump goes to the end of this container
exactly if the container is a loop and no other loop is entered between the two, or the container is
a scope and nothing comes behind it in the function. -/
theorem landing_leave_iff {s : LoadSettings} {mode : Mode} {data : Value} {w w' : Workspace}
    {f : Function} {file : SourceFile} {p : List Nat} {target : ContainerHead} {value : Node}
    (hf : Build.buildFunction s data w = .ok f w')
    (hfile : IsClean mode (lowerFunction mode f) file)
    (hp : f.body.at? p = some (.leave target value)) :
    ∃ q i r blocks b jump container, p = q ++ i :: r ∧
      f.body.at? q = some (.container target blocks) ∧ blocks[i]? = some b ∧
      (∀ q' head' blocks', q' <+: p → f.body.at? q' = some (.container head' blocks') →
        head'.serial = target.serial → q' = q) ∧
      file.top.at? p = some jump ∧ file.top.at? q = some container ∧
      (jump.stmt = .exitLoop ∨ jump.stmt = .exitFunction) ∧
      (jump.landing = some container.after ↔
        target.kind = .loop ∧ ¬ (Node.block b).EntersLoop r ∨
        target.kind = .normal ∧ f.body.EndsIn q) := by
  have hresolved := (Build.resolved_of_buildFunction hf).body
  have hbody : f.body.IsStmt file.top.stmt := (isFile_of_lowerFunction hfile).body
  rcases hresolved.exists_of_leave hp with ⟨c, hc, -⟩ | ⟨q, i, r, blocks, rfl, hq⟩
  · exact absurd hc List.not_mem_nil
  obtain ⟨n, hn, hinside⟩ := follow_append_eq_some.1 hp
  obtain rfl : Node.container target blocks = n := Option.some.inj (hq.symm.trans hn)
  obtain ⟨part, hpart, hleave⟩ := follow_cons_eq_some.1 hinside
  obtain ⟨b, hb, rfl⟩ := Node.parts_container_getElem?.1 hpart
  obtain ⟨Q, J, hQ, hQstmt, hQJ, hJstmt, hJ⟩ := hbody.exists_at?_append hq hinside
  refine ⟨q, i, r, blocks, b, J, Q, rfl, hq, hb, ?_, hJ, hQ, ?_, ?_⟩
  · intro q' head' blocks' hprefix hq' hserial
    exact hresolved.eq_of_serial (List.prefix_append _ _) hq hprefix hq' hserial
  · rcases hJstmt.of_leave with ⟨-, hjump⟩ | ⟨-, hjump⟩
    · exact .inl hjump
    · exact .inr hjump
  · -- the kind of the target decides between `break` and `return`
    rcases hJstmt.of_leave with ⟨hkind, hjump⟩ | ⟨hkind, hjump⟩
    · have hlanding : J.landing = J.exit := by rw [Site.landing, hjump]
      rw [hlanding, exit_eq_after_iff hQstmt hkind hb hleave hQJ]
      simp [hkind]
    · have hlanding : J.landing = some SourceFile.closing := by rw [Site.landing, hjump]
      rw [hlanding, Option.some_inj, eq_comm]
      simp [hkind, ← hbody.after_eq_iff hq hQ, SourceFile.top]

namespace ScopeInScope

/-- A scope with a scope in it. The inner one is left, and behind it a variable is printed. -/
def document : List (Text × Value) :=
  [("name", .string "f"),
    ("variables", .list [.ofFields [("name", .string "x"), ("type", .string "I4")]]),
    ("body", .ofContainer "Normal" "outer" [("only",
      [.ofContainer "Normal" "inner" [("first", [.ofOperation "leave" []])],
        .ofOperation "call" [("args", .list [.ofOperation "ldloc" [("var", .string "x")]])]])])]

/-- The inner scope. -/
def inner : ContainerHead := ⟨2, .normal, .string "inner"⟩

/-- The function that is loaded. -/
def function : Function :=
  ⟨"f", [⟨"x", .i4, some 0⟩], .container ⟨0, .normal, .string "outer"⟩
    [⟨⟨1, .controlFlow, .string "only"⟩,
      [.container inner [⟨⟨3, .controlFlow, .string "first"⟩, [.leave inner .nop]⟩],
        .call [.load ⟨"x", .i4, some 0⟩] (.string "print")]⟩]⟩

/-- The file that it is lowered to. -/
def file : SourceFile :=
  ⟨"f", [.declares .int32 "x"],
    .scope [.sequence [.scope [.sequence [.exitFunction]], .print (.variableName "x")]]⟩

theorem built : ∃ w', Build.buildFunction .standard (.object document) .empty =
    .ok function w' :=
  Build.buildFunction_eq_ok 10 (by decide) rfl rfl rfl rfl rfl rfl

theorem lowered : (lowerFunction .strict function).outcome = .ok file := rfl

end ScopeInScope

open ScopeInScope in
/-- The rule decides the leave of the inner scope: something comes behind the scope. -/
theorem landing_in_inner_scope : ∃ w' jump container,
    Build.buildFunction .standard (.object document) .empty = .ok function w' ∧
      (lowerFunction .strict function).outcome = .ok file ∧
      function.body.at? [0, 0, 0, 0] = some (.leave inner .nop) ∧
      file.top.at? [0, 0, 0, 0] = some jump ∧ file.top.at? [0, 0] = some container ∧
      ¬ jump.landing = some container.after := by
  obtain ⟨w', hbuilt⟩ := built
  obtain ⟨q, i, r, blocks, b, jump, container, -, -, -, hunique, hjump, hcontainer, -, hlanding⟩ :=
    landing_leave_iff (p := [0, 0, 0, 0]) hbuilt (isClean_strict.2 lowered) rfl
  obtain rfl : [0, 0] = q := hunique [0, 0] inner _ (by decide) rfl rfl
  refine ⟨w', jump, container, hbuilt, lowered, rfl, hjump, hcontainer, fun h ↦ ?_⟩
  rcases hlanding.1 h with ⟨hkind, -⟩ | ⟨-, _, _, hbody, -⟩
  · cases hkind
  · cases hbody

open ScopeInScope in
/-- **A leave that goes too far**: it names the inner scope, and its `return` ends the function. -/
theorem leave_of_inner_scope : ∃ w' blocks jump container,
    Build.buildFunction .standard (.object document) .empty = .ok function w' ∧
      (lowerFunction .strict function).outcome = .ok file ∧
      function.body.at? [0, 0, 0, 0] = some (.leave inner .nop) ∧
      function.body.at? [0, 0] = some (.container inner blocks) ∧
      file.top.at? [0, 0, 0, 0] = some jump ∧ file.top.at? [0, 0] = some container ∧
      jump.landing ≠ some container.after := by
  obtain ⟨w', hbuilt⟩ := built
  exact ⟨w', _, _, _, hbuilt, lowered, rfl, rfl, rfl, rfl, by decide⟩

/-! ### Branches -/

section Branches

variable {head : ContainerHead} {blocks : List Block} {Q J : Site}

/-- Inside a container, up to the next one, the rounds are those of the container. -/
theorem round_eq_loopInside {m : Node} {i : Nat} {r : List Nat}
    (hQ : (Node.container head blocks).IsStmt Q.stmt)
    (hm : (Node.container head blocks).at? (i :: r) = some m) (hJ : Q.at? (i :: r) = some J)
    (hinner : ∀ q' head' blocks', q' <+: r →
      (Node.container head blocks).at? (i :: q') ≠ some (.container head' blocks')) :
    J.round = Q.loopInside.1 := by
  obtain ⟨part, Z, hpart, hZ, hstmt, hpm, hZJ⟩ := hQ.exists_step hm hJ
  obtain ⟨-, hround, -⟩ := Site.parts_getElem? hZ
  rw [← hround]
  refine hstmt.round_of_at? hpm hZJ fun q' head' blocks' hprefix hq' ↦ ?_
  exact hinner q' head' blocks' hprefix (follow_cons_eq_some.2 ⟨part, hpart, hq'⟩)

/-- The rounds that begin at a block of a container: the container is a loop and the block is the
first of it. -/
theorem round_eq_here_iff {k : Nat} {B : Site}
    (hQ : (Node.container head blocks).IsStmt Q.stmt) (hbehind : Q.IsBehindRound)
    (hB : Q.parts[k]? = some B) :
    Q.loopInside.1 = some B.here ↔ head.kind = .loop ∧ k = 0 := by
  obtain ⟨hinside, -⟩ := Site.parts_getElem? hB
  obtain ⟨stmt, after, round, exit⟩ := Q
  cases hQ with
  | loop hkind =>
    obtain ⟨s, hs, heq⟩ := Stmt.spread_getElem?_eq_some.1 hinside
    obtain ⟨rfl, hafter⟩ := Prod.mk.inj heq
    obtain ⟨front, hfront, hfirst⟩ := Stmt.exists_front_of_line hs (Text.ofString " \x7d" ++ after)
    rw [Site.here, ← hafter, Site.loopInside, Option.some_inj, ← hfront,
      List.append_left_eq_self, hfirst]
    simp [hkind]
  | scope hkind =>
    obtain ⟨s, hs, heq⟩ := Stmt.spread_getElem?_eq_some.1 hinside
    obtain ⟨rfl, hafter⟩ := Prod.mk.inj heq
    have hshort := (Stmt.line_suffix hs (Text.ofString " \x7d" ++ after)).length_le
    rw [hafter] at hshort
    refine ⟨fun hround ↦ ?_, fun h ↦ by simp [hkind] at h⟩
    -- the rounds of a loop further out begin before the scope, so before its brace
    have hlong := (hbehind _ hround).length_le
    have hopening : (Text.ofString "\x7b ").length = 2 := rfl
    simp only [Site.here, Stmt.text, List.length_append, hopening] at hlong hshort
    omega

end Branches

/-- **Where a branch goes.** In a loaded function that is lowered without a diagnostic, every branch
names a block of the innermost container that it stands in, and only one. Its `continue` goes to the
front of this block exactly if the container is a loop and the block is the first of it. -/
theorem landing_branch_iff {s : LoadSettings} {mode : Mode} {data : Value} {w w' : Workspace}
    {f : Function} {file : SourceFile} {p : List Nat} {target : BlockHead}
    (hf : Build.buildFunction s data w = .ok f w')
    (hfile : IsClean mode (lowerFunction mode f) file)
    (hp : f.body.at? p = some (.branch target)) :
    ∃ q i r head blocks k b jump front, p = q ++ i :: r ∧
      f.body.at? q = some (.container head blocks) ∧ f.body.IsInnermost q p ∧
      blocks[k]? = some b ∧ b.head = target ∧
      (∀ k' b', blocks[k']? = some b' → b'.head.serial = target.serial → k' = k) ∧
      file.top.at? p = some jump ∧ file.top.at? (q ++ [k]) = some front ∧
      jump.stmt = .nextRound ∧
      (jump.landing = some front.here ↔ head.kind = .loop ∧ k = 0) := by
  have hresolved := (Build.resolved_of_buildFunction hf).body
  have hbody : f.body.IsStmt file.top.stmt := (isFile_of_lowerFunction hfile).body
  rcases hresolved.exists_of_branch hp with
    ⟨c, ⟨⟩, -⟩ | ⟨q, i, r, head, blocks, rfl, hq, hmem, hinnermost⟩
  obtain ⟨b, hb, rfl⟩ := List.mem_map.1 hmem
  obtain ⟨k, hk⟩ := List.mem_iff_getElem?.1 hb
  obtain ⟨n, hn, hinside⟩ := follow_append_eq_some.1 hp
  obtain rfl : Node.container head blocks = n := Option.some.inj (hq.symm.trans hn)
  obtain ⟨Q, J, hQ, hQstmt, hQJ, hJstmt, hJ⟩ := hbody.exists_at?_append hq hinside
  have hblock : (Node.container head blocks).at? [k] = some (.block b) :=
    follow_cons_eq_some.2 ⟨.block b, Node.parts_container_getElem?.2 ⟨b, hk, rfl⟩, rfl⟩
  obtain ⟨B, hB, -⟩ := hQstmt.exists_at? hblock
  obtain ⟨B', hB', hBB'⟩ := follow_cons_eq_some.1 hB
  obtain rfl : B' = B := Option.some.inj hBB'
  refine ⟨q, i, r, head, blocks, k, b, J, B', rfl, hq, hinnermost, hk, rfl, ?_, hJ,
    follow_append_eq_some.2 ⟨Q, hQ, hB⟩, hJstmt.of_branch, ?_⟩
  · intro k' b' hk' hserial
    obtain ⟨_, -, hcontainer⟩ := hresolved.at? hq
    exact hcontainer.eq_of_block_serial hk hk' hserial
  · have hbehind : Q.IsBehindRound :=
      follow_invariant (fun hp hpart ↦ Site.IsBehindRound.of_parts hp hpart)
        (fun _ ht ↦ absurd ht (Option.not_mem_none _)) hQ
    have hround : J.round = Q.loopInside.1 := by
      refine round_eq_loopInside hQstmt hinside hQJ fun q' head' blocks' hprefix hq' ↦ ?_
      exact hinnermost.ne_container hprefix head' blocks' (follow_append_eq_some.2 ⟨_, hq, hq'⟩)
    have hlanding : J.landing = J.round := by rw [Site.landing, hJstmt.of_branch]
    rw [hlanding, hround, round_eq_here_iff hQstmt hbehind hB']

namespace TwoBranches

/-- A loop of two blocks. Each goes to the other. -/
def document : List (Text × Value) :=
  [("name", .string "f"),
    ("body", .ofContainer "Loop" "loop"
      [("head", [.ofOperation "br" [("target", .string "tail")]]),
        ("tail", [.ofOperation "br" [("target", .string "head")]])])]

/-- The first block. -/
def head : BlockHead := ⟨1, .controlFlow, .string "head"⟩

/-- The second block. -/
def tail : BlockHead := ⟨2, .controlFlow, .string "tail"⟩

/-- The function that is loaded. -/
def function : Function :=
  ⟨"f", [], .container ⟨0, .loop, .string "loop"⟩ [⟨head, [.branch tail]⟩, ⟨tail, [.branch head]⟩]⟩

/-- The file that it is lowered to. -/
def file : SourceFile := ⟨"f", [], .loop [.sequence [.nextRound], .sequence [.nextRound]]⟩

theorem built : ∃ w', Build.buildFunction .standard (.object document) .empty =
    .ok function w' :=
  Build.buildFunction_eq_ok 10 (by decide) rfl rfl rfl rfl rfl rfl

theorem lowered : (lowerFunction .strict function).outcome = .ok file := rfl

end TwoBranches

open TwoBranches in
/-- The second block goes rightly to the first. -/
theorem landing_of_two_branches : ∃ w' jump front,
    Build.buildFunction .standard (.object document) .empty = .ok function w' ∧
      (lowerFunction .strict function).outcome = .ok file ∧
      function.body.at? [1, 0] = some (.branch head) ∧
      file.top.at? [1, 0] = some jump ∧ file.top.at? [0] = some front ∧
      jump.landing = some front.here := by
  obtain ⟨w', hbuilt⟩ := built
  obtain ⟨q, i, r, container, blocks, k, b, jump, front, hp, hq, -, -, -, hunique, hjump, hfront, -,
    hlanding⟩ := landing_branch_iff (p := [1, 0]) hbuilt (isClean_strict.2 lowered) rfl
  obtain rfl : q = [] := by
    obtain _ | ⟨j, _ | ⟨l, q⟩⟩ := q
    · rfl
    · cases hp
      cases hq
    · simp at hp
  cases hq
  obtain rfl : 0 = k := hunique 0 _ rfl rfl
  exact ⟨w', jump, front, hbuilt, lowered, rfl, hjump, hfront, hlanding.2 ⟨rfl, rfl⟩⟩

open TwoBranches in
/-- **A branch that goes back**: it names the second block, and its `continue` goes to the first. -/
theorem branch_to_second_block : ∃ w' jump front,
    Build.buildFunction .standard (.object document) .empty = .ok function w' ∧
      (lowerFunction .strict function).outcome = .ok file ∧
      function.body.at? [0, 0] = some (.branch tail) ∧
      file.top.at? [0, 0] = some jump ∧ file.top.at? [1] = some front ∧
      jump.landing ≠ some front.here := by
  obtain ⟨w', hbuilt⟩ := built
  exact ⟨w', _, _, hbuilt, lowered, rfl, rfl, rfl, by decide⟩

end StructuredIL
