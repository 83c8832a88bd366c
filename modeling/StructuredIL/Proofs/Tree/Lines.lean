import StructuredIL.Proofs.Lowering.Arms
import StructuredIL.Proofs.Tree.Notation

/-!
# Where the lines of a node end

With the standard indent a line begins with four spaces for each depth. The lines of a node are
a section (`Dump.IsSection`): one line that opens nothing, or a line that ends in a brace, lines
further to the right, and the line with the brace that closes it. Lines between the arms of
a conditional close one part and open the next. So in a longer list of lines that begins with those
of a node, it can be seen where they end (`Dump.IsSection.append_inj`).

The first line begins with the keyword of the node (`Dump.begins_nodeLines`).
-/

namespace StructuredIL

open Text

/-- Lines can be told from the text that is made of them. -/
theorem Text.eq_of_joined_lines {ls ms : List Text} (hls : ∀ l ∈ ls, CodePoint.char '\n' ∉ l)
    (hms : ∀ m ∈ ms, CodePoint.char '\n' ∉ m) (hne : ls ≠ []) (hne' : ms ≠ [])
    (h : joined "\n" ls = joined "\n" ms) : ls = ms :=
  calc
    ls = (joined "\n" ls).splitOn (.char '\n') := (List.splitOn_intercalate _ hls hne).symm
    _ = (joined "\n" ms).splitOn (.char '\n') := congrArg (List.splitOn _) h
    _ = ms := List.splitOn_intercalate _ hms hne'

namespace Dump

/-! ### Depth -/

/-- The indent that is used if no other is asked for. -/
def standardIndent : Value := .string "    "

/-- What stands before a line at a depth. -/
def spaces (depth : Nat) : Text := List.replicate (depth * 4) (.char ' ')

theorem margin_standard (depth : Nat) : margin standardIndent depth = .ok (spaces depth) := by
  have hindent : ofString "    " = List.replicate 4 (.char ' ') := rfl
  rw [margin, standardIndent, Value.times, Int.toNat_natCast, hindent,
    List.flatten_replicate_replicate]
  rfl

theorem eq_of_line {depth : Nat} {writable : Bool} {t l : Text}
    (h : line standardIndent depth writable t = .ok l) : l = spaces depth ++ t := by
  obtain ⟨before, hbefore, -, rfl⟩ := line_eq_ok.1 h
  rw [margin_standard] at hbefore
  cases hbefore
  rfl

/-- A line that begins at a depth or further to the right. -/
def IsAt (depth : Nat) (l : Text) : Prop := spaces depth <+: l ∧ CodePoint.char '\n' ∉ l

variable {depth : Nat} {t u : Text}

theorem spaces_succ (depth : Nat) : spaces (depth + 1) = spaces depth ++ "    " := by
  rw [spaces, Nat.add_mul, List.replicate_add]
  rfl

theorem isAt_append (h : CodePoint.char '\n' ∉ t) : IsAt depth (spaces depth ++ t) := by
  refine ⟨List.prefix_append .., fun hmem ↦ ?_⟩
  rcases List.mem_append.1 hmem with hmem | hmem
  · exact absurd (List.eq_of_mem_replicate hmem) (by decide)
  · exact h hmem

theorem isAt_of_succ {l : Text} (h : IsAt (depth + 1) l) : IsAt depth l := by
  refine ⟨?_, h.2⟩
  have hspaces := h.1
  rw [spaces_succ] at hspaces
  exact (List.prefix_append ..).trans hspaces

/-- A line that shows something at a depth does not stand further to the right. -/
theorem not_isAt_succ (h : t.head? ≠ some (.char ' ')) : ¬IsAt (depth + 1) (spaces depth ++ t) := by
  rintro ⟨hspaces, -⟩
  rw [spaces_succ, List.prefix_append_right_inj] at hspaces
  obtain ⟨rest, rfl⟩ := hspaces
  exact h rfl

/-! ### Sections -/

/-- The lines that close what a line at a depth has opened, with what is in it. -/
inductive IsRest (depth : Nat) : List Text → Prop
  | closes {inner : List Text} : (∀ l ∈ inner, IsAt (depth + 1) l) →
      IsRest depth (inner ++ [spaces depth ++ "\x7d"])
  | reopens {inner rest : List Text} : (∀ l ∈ inner, IsAt (depth + 1) l) → IsRest depth rest →
      IsRest depth (inner ++ (spaces depth ++ betweenArms) :: rest)

/-- The lines of one node at a depth. -/
inductive IsSection (depth : Nat) : List Text → Prop
  | line {t : Text} : Avoids breaks t → IsSection depth [spaces depth ++ t]
  | opens {t : Text} {rest : List Text} : Avoids breaks t → IsRest depth rest →
      IsSection depth ((spaces depth ++ (t ++ " \x7b")) :: rest)

/-- Lines further to the right end before a line that is not. -/
theorem below_append_inj {inner inner' : List Text} {u u' : Text} {ls ls' : List Text}
    (hinner : ∀ l ∈ inner, IsAt (depth + 1) l) (hinner' : ∀ l ∈ inner', IsAt (depth + 1) l)
    (hu : u.head? ≠ some (.char ' ')) (hu' : u'.head? ≠ some (.char ' '))
    (h : inner ++ (spaces depth ++ u) :: ls = inner' ++ (spaces depth ++ u') :: ls') :
    inner = inner' ∧ u = u' ∧ ls = ls' := by
  obtain ⟨rfl, hrest⟩ := append_inj_of_forall hinner hinner'
    (by rintro l ⟨⟩; exact not_isAt_succ hu) (by rintro l ⟨⟩; exact not_isAt_succ hu') h
  obtain ⟨hline, rfl⟩ := List.cons.inj hrest
  exact ⟨rfl, List.append_cancel_left hline, rfl⟩

theorem IsRest.append_inj {a b ls ls' : List Text} (ha : IsRest depth a) (hb : IsRest depth b)
    (h : a ++ ls = b ++ ls') : a = b ∧ ls = ls' := by
  induction ha generalizing b with
  | closes hinner =>
    cases hb with
    | closes hinner' =>
      simp only [List.append_assoc, List.cons_append] at h
      obtain ⟨rfl, -, hrest⟩ := below_append_inj hinner hinner' (by decide) (by decide) h
      exact ⟨rfl, hrest⟩
    | reopens hinner' _ =>
      simp only [List.append_assoc, List.cons_append] at h
      obtain ⟨-, hlines, -⟩ := below_append_inj hinner hinner' (by decide) (by decide) h
      exact absurd hlines (by decide)
  | reopens hinner _ ih =>
    cases hb with
    | closes hinner' =>
      simp only [List.append_assoc, List.cons_append] at h
      obtain ⟨-, hlines, -⟩ := below_append_inj hinner hinner' (by decide) (by decide) h
      exact absurd hlines (by decide)
    | reopens hinner' hrest' =>
      simp only [List.append_assoc, List.cons_append] at h
      obtain ⟨rfl, -, hrest⟩ := below_append_inj hinner hinner' (by decide) (by decide) h
      obtain ⟨rfl, rfl⟩ := ih hrest' hrest
      exact ⟨rfl, rfl⟩

/-- **The lines of a node** can be told from a list of lines that begins with them. -/
theorem IsSection.append_inj {a b ls ls' : List Text} (ha : IsSection depth a)
    (hb : IsSection depth b) (h : a ++ ls = b ++ ls') : a = b ∧ ls = ls' := by
  have hopen {t u : Text} (ht : Avoids breaks t) : t ≠ u ++ " \x7b" := by
    rintro rfl
    exact ht '\x7b' (by decide) (List.mem_append_right u (by decide))
  cases ha with
  | line ht =>
    cases hb with
    | line ht' =>
      obtain ⟨hline, rfl⟩ := List.cons.inj h
      exact ⟨by rw [hline], rfl⟩
    | opens _ _ => exact absurd (List.append_cancel_left (List.cons.inj h).1) (hopen ht)
  | opens _ hrest =>
    cases hb with
    | line ht' => exact absurd (List.append_cancel_left (List.cons.inj h).1).symm (hopen ht')
    | opens _ hrest' =>
      obtain ⟨hline, h⟩ := List.cons.inj h
      obtain ⟨rfl, rfl⟩ := hrest.append_inj hrest' h
      exact ⟨by rw [hline], rfl⟩

theorem IsRest.isAt {ls : List Text} (h : IsRest depth ls) : ∀ l ∈ ls, IsAt depth l := by
  induction h with
  | closes hinner =>
    intro l hl
    rcases List.mem_append.1 hl with hl | hl
    · exact isAt_of_succ (hinner l hl)
    · exact List.mem_singleton.1 hl ▸ isAt_append (by decide)
  | reopens hinner _ ih =>
    intro l hl
    rcases List.mem_append.1 hl with hl | hl
    · exact isAt_of_succ (hinner l hl)
    · rcases List.mem_cons.1 hl with rfl | hl
      · exact isAt_append (by decide)
      · exact ih l hl

theorem IsSection.isAt {ls : List Text} (h : IsSection depth ls) : ∀ l ∈ ls, IsAt depth l := by
  have hline {t : Text} (ht : Avoids breaks t) : CodePoint.char '\n' ∉ t := ht _ (by decide)
  cases h with
  | line ht =>
    intro l hl
    exact List.mem_singleton.1 hl ▸ isAt_append (hline ht)
  | opens ht hrest =>
    intro l hl
    rcases List.mem_cons.1 hl with rfl | hl
    · refine isAt_append fun hmem ↦ ?_
      rcases List.mem_append.1 hmem with hmem | hmem
      · exact hline ht hmem
      · exact absurd hmem (by decide)
    · exact hrest.isAt l hl

/-! ### The lines of each sort of node -/

variable {ls : List Text}

theorem blocksLines_eq_nodesLines (indent : Value) (depth : Int) (blocks : List Block) :
    blocksLines indent depth blocks = nodesLines indent depth (blocks.map .block) := by
  induction blocks with
  | nil => rfl
  | cons b rest ih => rw [blocksLines, ih, List.map_cons, nodesLines, nodeLines]

theorem exists_of_nodeLines_container {head : ContainerHead} {blocks : List Block}
    (h : nodeLines standardIndent depth (.container head blocks) = .ok ls) :
    ∃ inner, nodesLines standardIndent (depth + 1 : Nat) (blocks.map .block) = .ok inner ∧
      ls = (spaces depth ++ openContainer head) :: (inner ++ [spaces depth ++ "\x7d"]) := by
  rw [nodeLines] at h
  obtain ⟨first, hfirst, h⟩ := bind_eq_ok.1 h
  obtain ⟨inner, hinner, h⟩ := bind_eq_ok.1 h
  obtain ⟨last, hlast, h⟩ := bind_eq_ok.1 h
  cases h
  rw [blocksLines_eq_nodesLines] at hinner
  rw [eq_of_line hfirst, eq_of_line hlast]
  exact ⟨inner, hinner, rfl⟩

theorem exists_of_nodeLines_block {b : Block}
    (h : nodeLines standardIndent depth (.block b) = .ok ls) :
    ∃ inner, nodesLines standardIndent (depth + 1 : Nat) b.instructions = .ok inner ∧
      ls = (spaces depth ++ openBlock b.head) :: (inner ++ [spaces depth ++ "\x7d"]) := by
  obtain ⟨head, instructions⟩ := b
  rw [nodeLines, blockLines] at h
  obtain ⟨first, hfirst, h⟩ := bind_eq_ok.1 h
  obtain ⟨inner, hinner, h⟩ := bind_eq_ok.1 h
  obtain ⟨last, hlast, h⟩ := bind_eq_ok.1 h
  cases h
  rw [eq_of_line hfirst, eq_of_line hlast]
  exact ⟨inner, hinner, rfl⟩

/-- The line that opens a conditional. -/
def openCond (c : Node) : Text := "if (" ++ c.text ++ ") \x7b"

theorem exists_of_nodeLines_cond {c yes no : Node}
    (h : nodeLines standardIndent depth (.cond c yes no) = .ok ls) :
    ∃ inner other, nodeLines standardIndent (depth + 1 : Nat) yes = .ok inner ∧
      otherLines standardIndent depth no = .ok other ∧
      ls = (spaces depth ++ openCond c) :: (inner ++ other ++ [spaces depth ++ "\x7d"]) := by
  rw [nodeLines_cond] at h
  obtain ⟨first, hfirst, h⟩ := bind_eq_ok.1 h
  obtain ⟨inner, hinner, h⟩ := bind_eq_ok.1 h
  obtain ⟨other, hother, h⟩ := bind_eq_ok.1 h
  obtain ⟨last, hlast, h⟩ := bind_eq_ok.1 h
  cases h
  rw [eq_of_line hfirst, eq_of_line hlast]
  exact ⟨inner, other, hinner, hother, rfl⟩

theorem exists_of_otherLines {no : Node} (hno : no.isEmptyStatement = false)
    (h : otherLines standardIndent depth no = .ok ls) :
    ∃ inner, nodeLines standardIndent (depth + 1 : Nat) no = .ok inner ∧
      ls = (spaces depth ++ betweenArms) :: inner := by
  rw [otherLines, hno] at h
  obtain ⟨middle, hmiddle, h⟩ := bind_eq_ok.1 h
  obtain ⟨inner, hinner, h⟩ := bind_eq_ok.1 h
  cases h
  rw [eq_of_line hmiddle]
  exact ⟨inner, hinner, rfl⟩

theorem eq_nil_of_otherLines {no : Node} (hno : no.isEmptyStatement = true)
    (h : otherLines standardIndent depth no = .ok ls) : ls = [] := by
  rw [otherLines, hno] at h
  cases h
  rfl

/-- The lines of a second arm, if it is shown, do not stand further to the right. -/
theorem not_isAt_of_otherLines {no : Node} (h : otherLines standardIndent depth no = .ok ls) :
    ∀ l ∈ ls.head?, ¬IsAt (depth + 1) l := by
  cases hno : no.isEmptyStatement with
  | true =>
    rw [eq_nil_of_otherLines hno h]
    exact nofun
  | false =>
    obtain ⟨inner, -, rfl⟩ := exists_of_otherLines hno h
    rintro l ⟨⟩
    exact not_isAt_succ (by decide)

/-- The lines of a second arm tell whether it does something. -/
theorem isEmptyStatement_of_otherLines {no : Node}
    (h : otherLines standardIndent depth no = .ok ls) : no.isEmptyStatement = ls.isEmpty := by
  cases hno : no.isEmptyStatement with
  | true =>
    rw [eq_nil_of_otherLines hno h]
    rfl
  | false =>
    obtain ⟨inner, -, rfl⟩ := exists_of_otherLines hno h
    rfl

/-- The nodes that keep to one line. -/
def isOneLine (op : Opcode) : Bool :=
  match op with
  | .blockContainer | .block | .ifInstruction => false
  | _ => true

theorem eq_of_nodeLines {n : Node} (hn : n.IsLegible) (hop : isOneLine n.opcode = true)
    (h : nodeLines standardIndent depth n = .ok ls) : ls = [spaces depth ++ n.text] := by
  have hone : oneLine standardIndent depth n = .ok ls := by
    cases n with
    | bare op => exact hn.elim
    | block | container | cond => cases hop
    | _ => exact h
  obtain ⟨only, honly, hone⟩ := bind_eq_ok.1 hone
  cases hone
  rw [eq_of_line honly]

/-! ### Nodes -/

theorem openContainer_eq (head : ContainerHead) : openContainer head =
    "BlockContainer" ++ (" " ++ (head.label.text ++ (" " ++ ("(" ++ head.kind.name ++ ")"))))
      ++ " \x7b" := by
  simp only [openContainer, ContainerHead.text, List.append_assoc]
  rfl

theorem openBlock_eq (head : BlockHead) : openBlock head =
    "Block" ++ (" " ++ (head.label.text ++ (" " ++ ("(" ++ head.kind.name ++ ")"))))
      ++ " \x7b" := by
  simp only [openBlock, ofString_append, List.append_assoc]
  rfl

theorem openCond_eq (c : Node) :
    openCond c = "if" ++ (" " ++ ("(" ++ c.text ++ ")")) ++ " \x7b" := by
  simp only [openCond, List.append_assoc]
  rfl

/-- The first line of a node begins with its keyword. -/
theorem begins_nodeLines {n : Node} (hn : n.IsLegible)
    (h : nodeLines standardIndent depth n = .ok ls) :
    ∃ t rest, ls = (spaces depth ++ t) :: rest ∧ n.opcode.Begins t := by
  cases n with
  | container head blocks =>
    obtain ⟨inner, -, rfl⟩ := exists_of_nodeLines_container h
    refine ⟨_, _, rfl, ?_⟩
    rw [openContainer_eq]
    exact ⟨_, List.append_assoc .., by rintro p ⟨⟩; decide⟩
  | block b =>
    obtain ⟨inner, -, rfl⟩ := exists_of_nodeLines_block h
    refine ⟨_, _, rfl, ?_⟩
    rw [openBlock_eq]
    exact ⟨_, List.append_assoc .., by rintro p ⟨⟩; decide⟩
  | cond c yes no =>
    obtain ⟨inner, other, -, -, rfl⟩ := exists_of_nodeLines_cond h
    refine ⟨_, _, rfl, ?_⟩
    rw [openCond_eq]
    exact ⟨_, List.append_assoc .., by rintro p ⟨⟩; decide⟩
  | bare op => exact hn.elim
  | _ => exact ⟨_, [], eq_of_nodeLines hn rfl h, Node.begins_text hn⟩

/-- **The sort of a node** can be told from its lines. -/
theorem opcode_eq_of_nodeLines {n m : Node} (hn : n.IsLegible) (hm : m.IsLegible)
    (h : nodeLines standardIndent depth n = .ok ls)
    (h' : nodeLines standardIndent depth m = .ok ls) : n.opcode = m.opcode := by
  obtain ⟨t, rest, hls, ht⟩ := begins_nodeLines hn h
  obtain ⟨t', rest', hls', ht'⟩ := begins_nodeLines hm h'
  obtain rfl := List.append_cancel_left (List.cons.inj (hls.symm.trans hls')).1
  exact ht.inj ht'

theorem text_eq_of_nodeLines {n m : Node} (hn : n.IsLegible) (hm : m.IsLegible)
    (hop : isOneLine n.opcode = true) (h : nodeLines standardIndent depth n = .ok ls)
    (h' : nodeLines standardIndent depth m = .ok ls) : n.text = m.text := by
  have hop' : isOneLine m.opcode = true := opcode_eq_of_nodeLines hn hm h h' ▸ hop
  have hlines := (eq_of_nodeLines hn hop h).symm.trans (eq_of_nodeLines hm hop' h')
  exact List.append_cancel_left (List.cons.inj hlines).1

/-- The line that opens a container tells its label and its kind. -/
theorem openContainer_inj {head head' : ContainerHead} (hhead : head.label.IsName)
    (hhead' : head'.label.IsName) (h : openContainer head = openContainer head') :
    head.label = head'.label ∧ head.kind = head'.kind := by
  rw [openContainer_eq, openContainer_eq] at h
  obtain ⟨hlabel, hkind⟩ := Node.heading_inj hhead.isIdentifier hhead'.isIdentifier
    (List.append_cancel_right h)
  exact ⟨hhead.eq_of_text hhead' hlabel, Vocabulary.name_inj (ofString_inj.1 hkind)⟩

/-- The line that opens a block tells its kind. -/
theorem kind_eq_of_openBlock {head head' : BlockHead} (hhead : head.label.IsName)
    (hhead' : head'.label.IsName) (h : openBlock head = openBlock head') :
    head.kind = head'.kind := by
  rw [openBlock_eq, openBlock_eq] at h
  obtain ⟨-, hkind⟩ := Node.heading_inj hhead.isIdentifier hhead'.isIdentifier
    (List.append_cancel_right h)
  exact Vocabulary.name_inj (ofString_inj.1 hkind)

/-- The line that opens a conditional tells the notation of its condition. -/
theorem text_eq_of_openCond {c c' : Node} (h : openCond c = openCond c') : c.text = c'.text := by
  rw [openCond_eq, openCond_eq] at h
  have hcondition := List.append_cancel_left (List.append_cancel_right h)
  exact eq_of_brackets (List.append_cancel_left hcondition)

theorem exists_of_nodesLines_cons {n : Node} {rest : List Node}
    (h : nodesLines standardIndent depth (n :: rest) = .ok ls) :
    ∃ first others, nodeLines standardIndent depth n = .ok first ∧
      nodesLines standardIndent depth rest = .ok others ∧ ls = first ++ others := by
  rw [nodesLines] at h
  obtain ⟨first, hfirst, h⟩ := bind_eq_ok.1 h
  obtain ⟨others, hothers, h⟩ := bind_eq_ok.1 h
  cases h
  exact ⟨first, others, hfirst, hothers, rfl⟩

/-- Where there are no lines there are no nodes. -/
theorem eq_nil_of_nodesLines {ns : List Node} (hns : ∀ n ∈ ns, ∀ k ∈ n.nodes, k.IsLegible)
    (h : nodesLines standardIndent depth ns = .ok []) : ns = [] := by
  cases ns with
  | nil => rfl
  | cons n rest =>
    obtain ⟨first, others, hfirst, -, hlines⟩ := exists_of_nodesLines_cons h
    have hroot := (Node.forall_nodes_iff.1 (hns n (List.mem_cons_self ..))).1
    obtain ⟨t, inner, rfl, -⟩ := begins_nodeLines hroot hfirst
    cases hlines

theorem isAt_of_nodesLines {ns : List Node}
    (ih : ∀ n ∈ ns, ∀ {ls}, nodeLines standardIndent depth n = .ok ls → IsSection depth ls)
    (h : nodesLines standardIndent depth ns = .ok ls) : ∀ l ∈ ls, IsAt depth l := by
  induction ns generalizing ls with
  | nil =>
    cases h
    exact nofun
  | cons n rest ihrest =>
    obtain ⟨first, others, hfirst, hothers, rfl⟩ := exists_of_nodesLines_cons h
    intro l hl
    rcases List.mem_append.1 hl with hl | hl
    · exact (ih n (List.mem_cons_self ..) hfirst).isAt l hl
    · exact ihrest (fun m hm ↦ ih m (List.mem_cons_of_mem n hm)) hothers l hl

/-- **The lines of a node are a section.** -/
theorem isSection_nodeLines {n : Node} (hn : ∀ k ∈ n.nodes, k.IsLegible)
    (h : nodeLines standardIndent depth n = .ok ls) : IsSection depth ls := by
  refine Node.induction_of_forall_nodes (motive := fun n ↦ ∀ {depth : Nat} {ls},
    nodeLines standardIndent depth n = .ok ls → IsSection depth ls) ?_ hn h
  intro n hroot hbelow ih depth ls h
  cases n with
  | container head blocks =>
    obtain ⟨inner, hinner, rfl⟩ := exists_of_nodeLines_container h
    have hkind := (Node.whole_containerKind head.kind).inside
    have hinside := isAt_of_nodesLines (fun i hi _ h ↦ ih i hi h) hinner
    rw [openContainer_eq]
    exact .opens (Node.whole_heading (by decide) hroot.isIdentifier hkind).avoids (.closes hinside)
  | block b =>
    obtain ⟨inner, hinner, rfl⟩ := exists_of_nodeLines_block h
    have hkind : Inside b.head.kind.name :=
      (whole_of_avoids (by cases b.head.kind <;> exact avoids_ofList (by decide))).inside
    have hinside := isAt_of_nodesLines (fun i hi _ h ↦ ih i hi h) hinner
    rw [openBlock_eq]
    exact .opens (Node.whole_heading (by decide) hroot.isIdentifier hkind).avoids (.closes hinside)
  | cond c yes no =>
    obtain ⟨inner, other, hinner, hother, rfl⟩ := exists_of_nodeLines_cond h
    have hcondition := (Node.whole_text (hbelow c (by simp [Node.children]))).inside.whole
    have hyes := (ih yes (by simp [Node.children]) hinner).isAt
    rw [openCond_eq]
    refine .opens ((hcondition.behind_word (by decide)).behind_word (by decide)).avoids ?_
    cases hno : no.isEmptyStatement with
    | true =>
      rw [eq_nil_of_otherLines hno hother, List.append_nil]
      exact .closes hyes
    | false =>
      obtain ⟨inner', hinner', rfl⟩ := exists_of_otherLines hno hother
      rw [List.append_assoc]
      exact .reopens hyes (.closes (ih no (by simp [Node.children]) hinner').isAt)
  | bare op => exact hroot.elim
  | _ =>
    rw [eq_of_nodeLines hroot rfl h]
    exact .line (Node.whole_text (Node.forall_nodes_iff.2 ⟨hroot, hbelow⟩)).avoids

/-! ### Nodes of one list of lines -/

section

variable {m : Node}

theorem exists_of_lines_container {head : ContainerHead} {blocks : List Block}
    (hn : (Node.container head blocks).IsLegible) (hm : m.IsLegible)
    (h : nodeLines standardIndent depth (.container head blocks) = .ok ls)
    (h' : nodeLines standardIndent depth m = .ok ls) :
    ∃ head' blocks' inner, m = .container head' blocks' ∧
      head.label = head'.label ∧ head.kind = head'.kind ∧
      nodesLines standardIndent (depth + 1 : Nat) (blocks.map .block) = .ok inner ∧
      nodesLines standardIndent (depth + 1 : Nat) (blocks'.map .block) = .ok inner := by
  have hop := opcode_eq_of_nodeLines hn hm h h'
  cases m with
  | container head' blocks' =>
    obtain ⟨inner, hinner, rfl⟩ := exists_of_nodeLines_container h
    obtain ⟨inner', hinner', heq⟩ := exists_of_nodeLines_container h'
    obtain ⟨hopen, hlines⟩ := List.cons.inj heq
    obtain rfl := List.append_cancel_right hlines
    obtain ⟨hlabel, hkind⟩ := openContainer_inj hn hm (List.append_cancel_left hopen)
    exact ⟨head', blocks', inner, rfl, hlabel, hkind, hinner, hinner'⟩
  | bare op => exact hm.elim
  | _ => cases hop

theorem exists_of_lines_block {b : Block} (hn : (Node.block b).IsLegible) (hm : m.IsLegible)
    (h : nodeLines standardIndent depth (.block b) = .ok ls)
    (h' : nodeLines standardIndent depth m = .ok ls) :
    ∃ b' inner, m = .block b' ∧ b.head.kind = b'.head.kind ∧
      nodesLines standardIndent (depth + 1 : Nat) b.instructions = .ok inner ∧
      nodesLines standardIndent (depth + 1 : Nat) b'.instructions = .ok inner := by
  have hop := opcode_eq_of_nodeLines hn hm h h'
  cases m with
  | block b' =>
    obtain ⟨inner, hinner, rfl⟩ := exists_of_nodeLines_block h
    obtain ⟨inner', hinner', heq⟩ := exists_of_nodeLines_block h'
    obtain ⟨hopen, hlines⟩ := List.cons.inj heq
    obtain rfl := List.append_cancel_right hlines
    have hkind := kind_eq_of_openBlock hn hm (List.append_cancel_left hopen)
    exact ⟨b', inner, rfl, hkind, hinner, hinner'⟩
  | bare op => exact hm.elim
  | _ => cases hop

/-- The first arms stand further to the right than what follows them, so the lines of two
conditionals come apart at the same place. -/
theorem exists_of_lines_cond {c yes no : Node}
    (hn : ∀ k ∈ (Node.cond c yes no).nodes, k.IsLegible) (hm : ∀ k ∈ m.nodes, k.IsLegible)
    (h : nodeLines standardIndent depth (.cond c yes no) = .ok ls)
    (h' : nodeLines standardIndent depth m = .ok ls) :
    ∃ c' yes' no' inner other, m = .cond c' yes' no' ∧ c.text = c'.text ∧
      nodeLines standardIndent (depth + 1 : Nat) yes = .ok inner ∧
      nodeLines standardIndent (depth + 1 : Nat) yes' = .ok inner ∧
      otherLines standardIndent depth no = .ok other ∧
      otherLines standardIndent depth no' = .ok other := by
  obtain ⟨hroot, hbelow⟩ := Node.forall_nodes_iff.1 hn
  obtain ⟨hroot', hbelow'⟩ := Node.forall_nodes_iff.1 hm
  have hop := opcode_eq_of_nodeLines hroot hroot' h h'
  cases m with
  | cond c' yes' no' =>
    obtain ⟨inner, other, hinner, hother, rfl⟩ := exists_of_nodeLines_cond h
    obtain ⟨inner', other', hinner', hother', heq⟩ := exists_of_nodeLines_cond h'
    obtain ⟨hopen, hlines⟩ := List.cons.inj heq
    have hyes := isSection_nodeLines (hbelow yes (by simp [Node.children])) hinner
    have hyes' := isSection_nodeLines (hbelow' yes' (by simp [Node.children])) hinner'
    obtain ⟨rfl, rfl⟩ := append_inj_of_forall hyes.isAt hyes'.isAt (not_isAt_of_otherLines hother)
      (not_isAt_of_otherLines hother') (List.append_cancel_right hlines)
    have hcondition := text_eq_of_openCond (List.append_cancel_left hopen)
    exact ⟨c', yes', no', inner, other, rfl, hcondition, hinner, hinner', hother, hother'⟩
  | bare op => exact hroot'.elim
  | _ => cases hop

/-- Second arms of one list of lines are both shown, with one list of lines, or both left out. -/
theorem exists_of_lines_other {no no' : Node} {other : List Text}
    (h : otherLines standardIndent depth no = .ok other)
    (h' : otherLines standardIndent depth no' = .ok other) :
    no.isEmptyStatement = no'.isEmptyStatement ∧ (no.isEmptyStatement = false →
      ∃ arm, nodeLines standardIndent (depth + 1 : Nat) no = .ok arm ∧
        nodeLines standardIndent (depth + 1 : Nat) no' = .ok arm) := by
  have hempty : no.isEmptyStatement = no'.isEmptyStatement :=
    (isEmptyStatement_of_otherLines h).trans (isEmptyStatement_of_otherLines h').symm
  refine ⟨hempty, fun hno ↦ ?_⟩
  obtain ⟨arm, harm, rfl⟩ := exists_of_otherLines hno h
  obtain ⟨arm', harm', heq⟩ := exists_of_otherLines (hempty ▸ hno) h'
  obtain rfl := (List.cons.inj heq).2
  exact ⟨arm, harm, harm'⟩

end

end Dump

end StructuredIL
