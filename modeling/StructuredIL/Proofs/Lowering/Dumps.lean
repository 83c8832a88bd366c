import StructuredIL.Proofs.Loading.Legibility
import StructuredIL.Proofs.Lowering.Likeness
import StructuredIL.Proofs.Lowering.Modes
import StructuredIL.Proofs.Tree.Lines

/-!
# Dumps tell the C code

Two loaded functions with one dump are lowered alike (`C.seen_eq_of_dump_eq`), although a dump does
not tell the tree: a leave is shown with the label of its target, a second arm that does nothing is
left out, and of a block or a container in the place of an operand only the head is shown. What is
lowered is told by what is shown. A dump is cut into the lines of its parts, each line tells the
sort of its node and the operands that are lowered, and the kind of the target of a leave is that of
the innermost container of its label, which is shown further up.
-/

namespace StructuredIL

open Text Dump

namespace C

/-! ### Lines of statements -/

variable {mode : Mode} {depth : Nat} {ls : List Text}

/-- Statements of one text. -/
def SameText (s t : Stmt) : Prop := s.text = t.text

theorem texts_eq_of_forall₂ {ss ts : List Stmt} (h : List.Forall₂ SameText ss ts) :
    Stmt.texts ss = Stmt.texts ts := by
  induction h with
  | nil => rfl
  | cons hs _ ih => rw [Stmt.texts, Stmt.texts, ih, hs]

theorem sameText_sequence {ss ts : List Stmt} (h : List.Forall₂ SameText ss ts) :
    SameText (.sequence ss) (.sequence ts) := by
  have htexts := texts_eq_of_forall₂ h
  cases h with
  | nil => rfl
  | cons _ _ => exact congrArg Stmt.onLines htexts

/-- Two nodes of one sort that are not supported in the place of a statement. -/
theorem alike_statement {n m : Node} (hn : n.IsLegible) (hm : m.IsLegible)
    (h : n.opcode = m.opcode) :
    Alike SameText (Stmt.diagnostic <$> recover mode (.statement n))
      (Stmt.diagnostic <$> recover mode (.statement m)) := by
  have hwhat : (Unsupported.statement n).what = (Unsupported.statement m).what := by
    rw [Unsupported.what, Unsupported.what, className_eq hn, className_eq hm, h]
  exact (alike_recover hwhat rfl).map fun _ _ htext ↦ htext

/-- Nodes with one list of lines are as many, and correspond one by one. -/
theorem alike_lowerAll {ns ms : List Node} (hns : ∀ n ∈ ns, ∀ k ∈ n.nodes, k.IsLegible)
    (hms : ∀ m ∈ ms, ∀ k ∈ m.nodes, k.IsLegible)
    (hall : ∀ n ∈ ns, ∀ m ∈ ms, ∀ {ls}, nodeLines standardIndent depth n = .ok ls →
      nodeLines standardIndent depth m = .ok ls →
      Alike SameText (lowerStmt mode n) (lowerStmt mode m))
    (h : nodesLines standardIndent depth ns = .ok ls)
    (h' : nodesLines standardIndent depth ms = .ok ls) :
    Alike (List.Forall₂ SameText) (lowerAll mode ns) (lowerAll mode ms) := by
  induction ns generalizing ms ls with
  | nil =>
    cases h
    obtain rfl := eq_nil_of_nodesLines hms h'
    exact .pure .nil
  | cons n ns ih =>
    cases ms with
    | nil =>
      cases h'
      cases eq_nil_of_nodesLines hns h
    | cons m ms =>
      obtain ⟨first, others, hfirst, hothers, rfl⟩ := exists_of_nodesLines_cons h
      obtain ⟨first', others', hfirst', hothers', hlines⟩ := exists_of_nodesLines_cons h'
      obtain ⟨hn, hns⟩ := List.forall_mem_cons.1 hns
      obtain ⟨hm, hms⟩ := List.forall_mem_cons.1 hms
      obtain ⟨rfl, rfl⟩ := (isSection_nodeLines hn hfirst).append_inj
        (isSection_nodeLines hm hfirst') hlines
      have hhead := hall n (List.mem_cons_self ..) m (List.mem_cons_self ..) hfirst hfirst'
      have htail := ih hns hms
        (fun k hk l hl ↦ hall k (List.mem_cons_of_mem n hk) l (List.mem_cons_of_mem m hl))
        hothers hothers'
      rw [lowerAll, lowerAll]
      exact hhead.bind fun s t hst ↦ htail.bind fun ss ts hsts ↦ .pure (.cons hst hsts)

/-- The part of the induction that is common to blocks and containers. -/
theorem alike_lowerBlock {b b' : Block} (hb : ∀ k ∈ (Node.block b).nodes, k.IsLegible)
    (hb' : ∀ k ∈ (Node.block b').nodes, k.IsLegible)
    (hall : ∀ i ∈ b.instructions, ∀ j ∈ b'.instructions, ∀ {depth : Nat} {ls},
      nodeLines standardIndent depth i = .ok ls → nodeLines standardIndent depth j = .ok ls →
      Alike SameText (lowerStmt mode i) (lowerStmt mode j))
    (h : nodeLines standardIndent depth (.block b) = .ok ls)
    (h' : nodeLines standardIndent depth (.block b') = .ok ls) :
    Alike SameText (lowerBlock mode b) (lowerBlock mode b') := by
  obtain ⟨hroot, hbelow⟩ := Node.forall_nodes_iff.1 hb
  obtain ⟨hroot', hbelow'⟩ := Node.forall_nodes_iff.1 hb'
  obtain ⟨_, inner, ⟨⟩, hkind, hinner, hinner'⟩ := exists_of_lines_block hroot hroot' h h'
  obtain ⟨head, instructions⟩ := b
  obtain ⟨head', instructions'⟩ := b'
  dsimp only at hkind
  rw [lowerBlock, lowerBlock, hkind]
  split
  · exact (alike_lowerAll hbelow hbelow' (fun i hi j hj _ ↦ hall i hi j hj) hinner hinner').map
      fun _ _ hparts ↦ sameText_sequence hparts
  · exact (alike_recover rfl rfl).map fun _ _ htext ↦ htext

/-- Calls of one notation are lowered alike: they have as many arguments, and if there is one only,
it has one notation in both. -/
theorem alike_call {arguments arguments' : List Node} {method : Value}
    (hn : ∀ a ∈ arguments, ∀ k ∈ a.nodes, k.IsLegible)
    (hm : ∀ a ∈ arguments', ∀ k ∈ a.nodes, k.IsLegible)
    (h : arguments.map Node.text = arguments'.map Node.text) :
    Alike SameText (lowerStmt mode (.call arguments method))
      (lowerStmt mode (.call arguments' method)) := by
  have hlength : arguments.length = arguments'.length := by
    simpa using congrArg List.length h
  rw [lowerStmt.eq_def, lowerStmt.eq_def]
  dsimp only
  split
  · rename_i argument
    obtain ⟨argument', rfl⟩ := List.length_eq_one_iff.1 hlength.symm
    have harguments : Alike (·.text = ·.text) (lowerExpr mode argument)
        (lowerExpr mode argument') :=
      alike_lowerExpr (hn argument (List.mem_singleton_self _))
        (hm argument' (List.mem_singleton_self _)) (List.cons.inj h).1
    exact harguments.map fun a a' ha ↦ by rw [SameText, Stmt.text, Stmt.text, ha]
  · rename_i hother
    have hwhat : (Unsupported.call method arguments.length).what =
        (Unsupported.call method arguments'.length).what := by rw [hlength]
    split
    · obtain ⟨argument, rfl⟩ := List.length_eq_one_iff.1 hlength
      exact absurd rfl (hother argument)
    · exact (alike_recover hwhat rfl).map fun _ _ htext ↦ htext

/-- Leaves of one notation are lowered alike if their targets are of one kind. -/
theorem alike_leave {target target' : ContainerHead} {value value' : Node}
    (hn : ∀ k ∈ value.nodes, k.IsLegible) (hm : ∀ k ∈ value'.nodes, k.IsLegible)
    (hkind : target.kind = target'.kind) (hvalue : value.text = value'.text) :
    Alike SameText (lowerStmt mode (.leave target value))
      (lowerStmt mode (.leave target' value')) := by
  have hwhat (kind : ContainerKind) :
      (Unsupported.leave kind value).what = (Unsupported.leave kind value').what := by
    rw [Unsupported.what, Unsupported.what, hvalue]
  have hwritable (kind : ContainerKind) :
      (Unsupported.leave kind value).isWritable = (Unsupported.leave kind value').isWritable :=
    (Node.isWritable_of_isLegible hn).trans (Node.isWritable_of_isLegible hm).symm
  rw [lowerStmt.eq_def, lowerStmt.eq_def]
  dsimp only
  rw [hkind]
  split
  · exact .pure rfl
  · exact .pure rfl
  · exact (alike_recover (hwhat _) (hwritable _)).map fun _ _ htext ↦ htext

/-- Conditionals are lowered alike if their parts are, and both or none show a second arm. -/
theorem alike_cond {c yes no c' yes' no' : Node}
    (hc : Alike (·.text = ·.text) (lowerExpr mode c) (lowerExpr mode c'))
    (hyes : Alike SameText (lowerStmt mode yes) (lowerStmt mode yes'))
    (hempty : no.isEmptyStatement = no'.isEmptyStatement)
    (hno : no.isEmptyStatement = false → Alike SameText (lowerStmt mode no) (lowerStmt mode no')) :
    Alike SameText (lowerStmt mode (.cond c yes no)) (lowerStmt mode (.cond c' yes' no')) := by
  rw [lowerStmt, lowerStmt, ← hempty]
  refine hc.bind fun e e' he ↦ hyes.bind fun s s' hs ↦ ?_
  rw [SameText] at hs
  split
  · exact .pure (by rw [SameText, Stmt.text, Stmt.text, he, hs])
  · refine (hno (eq_false_of_ne_true ‹_›)).bind fun t t' ht ↦ .pure ?_
    rw [SameText] at ht
    rw [SameText, Stmt.text, Stmt.text, he, hs, ht]

/-- Containers of one kind are lowered alike if their blocks are. -/
theorem alike_container {head head' : ContainerHead} {blocks blocks' : List Block}
    (hkind : head.kind = head'.kind)
    (hblocks : Alike (List.Forall₂ SameText) (lowerBlocks mode blocks)
      (lowerBlocks mode blocks')) :
    Alike SameText (lowerStmt mode (.container head blocks))
      (lowerStmt mode (.container head' blocks')) := by
  rw [lowerStmt.eq_def, lowerStmt.eq_def]
  dsimp only
  rw [hkind]
  split
  · exact hblocks.map fun ss ts h ↦ by rw [SameText, Stmt.text, Stmt.text, texts_eq_of_forall₂ h]
  · exact hblocks.map fun ss ts h ↦ by rw [SameText, Stmt.text, Stmt.text, texts_eq_of_forall₂ h]
  · exact (alike_recover rfl rfl).map fun _ _ htext ↦ htext

/-- **Nodes of one list of lines** are lowered alike in the place of a statement, if the containers
around them have the same labels and kinds. -/
theorem alike_lowerStmt {n m : Node} {around around' : List OpenContainer}
    (hn : n.IsReadable around) (hm : m.IsReadable around')
    (haround : openHeads around = openHeads around')
    (h : nodeLines standardIndent depth n = .ok ls)
    (h' : nodeLines standardIndent depth m = .ok ls) :
    Alike SameText (lowerStmt mode n) (lowerStmt mode m) := by
  induction n using Node.induction generalizing m around around' depth ls with
  | bare op => exact hn.root.elim
  | store v value ih =>
    obtain ⟨v', value', rfl, hname, hvalue⟩ := Node.exists_of_text_store hn.legible hm.legible
      (text_eq_of_nodeLines hn.root hm.root rfl h h')
    have hvalues : Alike (·.text = ·.text) (lowerExpr mode value) (lowerExpr mode value') :=
      alike_lowerExpr (hn.below (by simp [Node.children]))
        (hm.below (by simp [Node.children])) hvalue
    rw [lowerStmt, lowerStmt]
    exact hvalues.bind fun e e' he ↦ .pure (by rw [SameText, Stmt.text, Stmt.text, he, hname])
  | branch target =>
    have hop := opcode_eq_of_nodeLines hn.root hm.root h h'
    cases m with
    | branch target' => exact .pure rfl
    | bare op => exact hm.root.elim
    | _ => cases hop
  | cond c yes no _ ihyes ihno =>
    obtain ⟨c', yes', no', inner, other, rfl, hcondition, hinner, hinner', hother, hother'⟩ :=
      exists_of_lines_cond hn.legible hm.legible h h'
    obtain ⟨hempty, harms⟩ := exists_of_lines_other hother hother'
    refine alike_cond (alike_lowerExpr (hn.below (by simp [Node.children]))
      (hm.below (by simp [Node.children])) hcondition)
      (ihyes hn.yes hm.yes haround hinner hinner') hempty fun hno ↦ ?_
    obtain ⟨arm, harm, harm'⟩ := harms hno
    exact ihno (hn.no hno) (hm.no (hempty ▸ hno)) haround harm harm'
  | call arguments method ih =>
    obtain ⟨arguments', rfl, harguments⟩ := Node.exists_of_text_call hn.legible hm.legible
      (text_eq_of_nodeLines hn.root hm.root rfl h h')
    exact alike_call (fun _ ha ↦ hn.below ha) (fun _ ha ↦ hm.below ha) harguments
  | leave target value ih =>
    obtain ⟨target', value', rfl, hlabel, hvalue⟩ := Node.exists_of_text_leave hn.legible
      hm.legible (text_eq_of_nodeLines hn.root hm.root rfl h h')
    have hkind := hn.kind_of_leave
    rw [haround, hlabel, hm.kind_of_leave] at hkind
    exact alike_leave (hn.below (by simp [Node.children])) (hm.below (by simp [Node.children]))
      (Option.some.inj hkind).symm hvalue
  | block b ih =>
    obtain ⟨b', -, rfl, -⟩ := exists_of_lines_block hn.root hm.root h h'
    rw [lowerStmt, lowerStmt]
    exact alike_lowerBlock hn.legible hm.legible (fun i hi j hj _ _ hlines hlines' ↦
      ih i hi (hn.instruction hi) (hm.instruction hj) haround hlines hlines') h h'
  | container head blocks ih =>
    obtain ⟨head', blocks', inner, rfl, hlabel, hkind, hinner, hinner'⟩ :=
      exists_of_lines_container hn.root hm.root h h'
    have hinside : openHeads (.ofBlocks head blocks :: around) =
        openHeads (.ofBlocks head' blocks' :: around') := by
      show (head.label, head.kind) :: openHeads around =
        (head'.label, head'.kind) :: openHeads around'
      rw [hlabel, hkind, haround]
    refine alike_container hkind ?_
    rw [lowerBlocks_eq_lowerAll, lowerBlocks_eq_lowerAll]
    refine alike_lowerAll (fun _ hb ↦ hn.below hb) (fun _ hb ↦ hm.below hb) ?_ hinner hinner'
    intro n hn' m hm' ls hlines hlines'
    obtain ⟨b, hb, rfl⟩ := List.mem_map.1 hn'
    obtain ⟨b', hb', rfl⟩ := List.mem_map.1 hm'
    rw [lowerStmt, lowerStmt]
    exact alike_lowerBlock (hn.below hn') (hm.below hm') (fun i hi j hj _ _ hlines hlines' ↦
      ih b hb i hi (hn.inside hb hi) (hm.inside hb' hj) hinside hlines hlines') hlines hlines'
  | _ =>
    have hop := opcode_eq_of_nodeLines hn.root hm.root h h'
    cases m with
    | nop | constant | load | compare | binary => exact alike_statement hn.root hm.root hop
    | bare op => exact hm.root.elim
    | _ => cases hop

/-! ### Functions -/

/-- The line of a variable. -/
def variableText (v : Variable) : Text :=
  spaces 1 ++ ("var" ++ (" " ++ (v.name ++ (": " ++ v.type.name))))

theorem variableLine_standard (v : Variable) :
    variableLine standardIndent v = .ok (variableText v) := by
  have hline : standardIndent.text ++ "var " ++ v.name ++ ": " ++ v.type.name = variableText v := by
    simp only [List.append_assoc]
    rfl
  rw [variableLine, hline]
  rfl

/-- The lines of a dump: that of the name, those of the variables and those of the body. -/
theorem exists_of_dumpLines {f : Function} (h : f.dumpLines standardIndent = .ok ls) :
    ∃ body, nodeLines standardIndent (1 : Nat) f.body = .ok body ∧
      ls = ("function " ++ f.name) :: (f.locals.map variableText ++ body) := by
  have hlocals : f.locals.mapM (variableLine standardIndent) =
      .ok (f.locals.map variableText) := by
    rw [funext variableLine_standard]
    exact List.mapM_pure
  obtain ⟨locals, hlines, h⟩ := bind_eq_ok.1 h
  obtain ⟨body, hbody, h⟩ := bind_eq_ok.1 h
  rw [hlocals] at hlines
  cases hlines
  cases h
  exact ⟨body, hbody, rfl⟩

theorem variableText_inj {v w : Variable} (hv : C.isIdentifier v.name = true)
    (hw : C.isIdentifier w.name = true) (h : variableText v = variableText w) :
    v.name = w.name ∧ v.type = w.type := by
  have hrest := List.append_cancel_left (List.append_cancel_left (List.append_cancel_left h))
  obtain ⟨hname, htype⟩ := name_append_inj hv hw [':'] (by decide)
    (by rintro p ⟨⟩; decide) (by rintro p ⟨⟩; decide) hrest
  exact ⟨hname, Vocabulary.name_inj (ofString_inj.1 (List.append_cancel_left htype))⟩

/-- The first line of a body is not that of a variable. -/
theorem ne_variableText {n : Node} (hn : n.IsLegible)
    (h : nodeLines standardIndent (1 : Nat) n = .ok ls) :
    ∀ l ∈ ls.head?, ¬∃ v, l = variableText v := by
  obtain ⟨t, rest, rfl, keywordRest, rfl, hends⟩ := begins_nodeLines hn h
  rintro l ⟨⟩ ⟨v, heq⟩
  obtain ⟨hword, -⟩ := name_append_inj (Opcode.isIdentifier_keyword n.opcode) (by decide)
    [' ', '(', '.'] (by decide) hends (by rintro p ⟨⟩; decide) (List.append_cancel_left heq)
  revert hword
  cases n.opcode <;> decide

theorem forall₂_of_map_variableText {vs ws : List Variable}
    (hvs : ∀ v ∈ vs, C.isIdentifier v.name = true) (hws : ∀ w ∈ ws, C.isIdentifier w.name = true)
    (h : vs.map variableText = ws.map variableText) :
    List.Forall₂ (fun v w ↦ v.name = w.name ∧ v.type = w.type) vs ws := by
  induction vs generalizing ws with
  | nil =>
    obtain rfl := List.map_eq_nil_iff.1 h.symm
    exact .nil
  | cons v vs ih =>
    cases ws with
    | nil => cases h
    | cons w ws =>
      obtain ⟨hhead, htail⟩ := List.cons.inj h
      obtain ⟨hv, hvs⟩ := List.forall_mem_cons.1 hvs
      obtain ⟨hw, hws⟩ := List.forall_mem_cons.1 hws
      exact .cons (variableText_inj hv hw hhead) (ih hvs hws htail)

/-- No line of a dump has a line end in it. -/
theorem not_mem_of_dumpLines {f : Function} (hname : C.isIdentifier f.name = true)
    (hlocals : ∀ v ∈ f.locals, C.isIdentifier v.name = true)
    (hbody : ∀ m ∈ f.body.nodes, m.IsLegible) (h : f.dumpLines standardIndent = .ok ls) :
    ∀ l ∈ ls, CodePoint.char '\n' ∉ l := by
  have hnone {t u : Text} (ht : CodePoint.char '\n' ∉ t) (hu : CodePoint.char '\n' ∉ u) :
      CodePoint.char '\n' ∉ t ++ u := fun hmem ↦ (List.mem_append.1 hmem).elim ht hu
  have hidentifier {t : Text} (ht : C.isIdentifier t = true) : CodePoint.char '\n' ∉ t := by
    have havoids : Avoids ['\n'] t := avoids_of_isIdentifier ht (by decide)
    exact havoids _ (by decide)
  obtain ⟨body, hlines, rfl⟩ := exists_of_dumpLines h
  refine List.forall_mem_cons.2 ⟨hnone (by decide) (hidentifier hname), ?_⟩
  refine List.forall_mem_append.2 ⟨List.forall_mem_map.2 fun v hv ↦ ?_, fun l hl ↦ ?_⟩
  · exact hnone (by decide) (hnone (by decide) (hnone (by decide)
      (hnone (hidentifier (hlocals v hv)) (hnone (by decide) (by cases v.type <;> decide)))))
  · exact ((isSection_nodeLines hbody hlines).isAt l hl).2

/-- Variables of one name and type are declared alike. -/
theorem alike_lowerDeclaration {v w : Variable} (h : v.name = w.name ∧ v.type = w.type) :
    Alike (·.text = ·.text) (lowerDeclaration mode v) (lowerDeclaration mode w) := by
  have hwhat : (Unsupported.variableType v).what = (Unsupported.variableType w).what := by
    rw [Unsupported.what, Unsupported.what, h.1, h.2]
  rw [lowerDeclaration, lowerDeclaration, h.2]
  split
  · exact .pure (by rw [Declaration.text, Declaration.text, h.1])
  · exact (alike_recover hwhat rfl).map fun _ _ htext ↦ htext

/-- Functions with one name, variables of one name and type each, and bodies that are lowered
alike. -/
theorem alike_generate {f g : Function} (hname : f.name = g.name)
    (hlocals : List.Forall₂ (fun v w ↦ v.name = w.name ∧ v.type = w.type) f.locals g.locals)
    (hbody : Alike SameText (lowerStmt mode f.body) (lowerStmt mode g.body)) :
    Alike (· = ·) (generate mode f) (generate mode g) := by
  have hdeclarations : Alike (List.Forall₂ (·.text = ·.text))
      (f.locals.mapM (lowerDeclaration mode)) (g.locals.mapM (lowerDeclaration mode)) :=
    .mapM (hlocals.imp fun _ _ h ↦ alike_lowerDeclaration h)
  have hfile : Alike (·.text = ·.text) (lowerFunction mode f) (lowerFunction mode g) := by
    rw [lowerFunction, lowerFunction, hname]
    refine (Alike.refl _).bind fun _ _ _ ↦ hdeclarations.bind fun ds es hds ↦ ?_
    refine hbody.bind fun s t hst ↦ .pure ?_
    have htexts : ds.map Declaration.text = es.map Declaration.text := by
      induction hds with
      | nil => rfl
      | cons hd _ ih => rw [List.map_cons, List.map_cons, hd, ih]
    rw [SameText] at hst
    rw [SourceFile.text, SourceFile.text, SourceFile.lines, SourceFile.lines, htexts, hst]
    rfl
  exact hfile.map fun _ _ h ↦ h

/-- The lines of a dump can be told from its text. -/
theorem exists_of_dump {f : Function} {t : Text} (h : f.dump standardIndent = .ok t) :
    ∃ ls, f.dumpLines standardIndent = .ok ls ∧ joined "\n" ls = t := by
  rw [Function.dump] at h
  cases hlines : f.dumpLines standardIndent with
  | error e =>
    rw [hlines] at h
    cases h
  | ok ls =>
    rw [hlines] at h
    cases h
    exact ⟨ls, rfl, rfl⟩

/-- **The dump tells the C code.** Two loaded functions, in which all that is named is a name, are
lowered to one text with one log, or both fail in one way, if they have one dump. Best effort does
not fail. -/
theorem seen_eq_of_dump_eq {f g : Function} (hf : f.IsLoaded) (hg : g.IsLoaded)
    (hfnames : f.HasNames) (hgnames : g.HasNames) {t : Text}
    (h : f.dump (.string "    ") = .ok t) (h' : g.dump (.string "    ") = .ok t) :
    (∃ text, (generate .bestEffort f).outcome = .ok text) ∧
      ∀ mode, seen (generate mode f) = seen (generate mode g) := by
  have hfbody := hf.isReadable hfnames
  have hgbody := hg.isReadable hgnames
  obtain ⟨ls, hls, htext⟩ := exists_of_dump h
  obtain ⟨ls', hls', htext'⟩ := exists_of_dump h'
  have hlines := not_mem_of_dumpLines hfnames.name hfnames.locals hfbody.legible hls
  have hlines' := not_mem_of_dumpLines hgnames.name hgnames.locals hgbody.legible hls'
  obtain ⟨body, hbody, rfl⟩ := exists_of_dumpLines hls
  obtain ⟨body', hbody', rfl⟩ := exists_of_dumpLines hls'
  have hall := eq_of_joined_lines hlines hlines' (List.cons_ne_nil _ _) (List.cons_ne_nil _ _)
    (htext.trans htext'.symm)
  obtain ⟨hname, hrest⟩ := List.cons.inj hall
  obtain ⟨hlocals, rfl⟩ := append_inj_of_forall (P := fun l ↦ ∃ v, l = variableText v)
    (List.forall_mem_map.2 fun v _ ↦ ⟨v, rfl⟩) (List.forall_mem_map.2 fun v _ ↦ ⟨v, rfl⟩)
    (ne_variableText hfbody.root hbody) (ne_variableText hgbody.root hbody') hrest
  refine ⟨?_, fun mode ↦ (alike_generate (List.append_cancel_left hname)
    (forall₂_of_map_variableText hfnames.locals hgnames.locals hlocals)
    (alike_lowerStmt hfbody hgbody rfl hbody hbody')).seen_eq⟩
  cases accord_generate fun m hm ↦ (hfbody.legible m hm).isOrdinary with
  | silent text hbest => exact ⟨text, hbest⟩
  | warned text _ _ hbest => exact ⟨text, hbest⟩

namespace EmptyArm

/-- A loop that is left if a variable is true; `other` is what else is said of the conditional. -/
def document (other : List (String × Value)) : List (Text × Value) :=
  [("name", .string "Main"),
    ("variables", .list [.ofFields [("name", .string "x"), ("type", .string "BOOL")]]),
    ("body", .ofContainer "Loop" "loop" [("head", [.ofOperation "if"
      (("condition", .ofOperation "ldloc" [("var", .string "x")]) ::
        ("true", .ofOperation "leave" []) :: other)])])]

/-- A second arm in which nothing is done. -/
def emptyBlock : Value :=
  .ofOperation "Block" [("label", .string "skip"), ("instructions", .list [])]

/-- The variable of the function. -/
def x : Variable := ⟨"x", .bool, some 0⟩

/-- The function with this second arm. -/
def function (no : Node) : Function :=
  ⟨"Main", [x], .container ⟨0, .loop, .string "loop"⟩ [⟨⟨1, .controlFlow, .string "head"⟩,
    [.cond (.load x) (.leave ⟨0, .loop, .string "loop"⟩ .nop) no]⟩]⟩

/-- The tree of the second arm. -/
def skip : Node := .block ⟨⟨2, .controlFlow, .string "skip"⟩, []⟩

theorem isLoaded_nop : (function .nop).IsLoaded := by
  obtain ⟨w, h⟩ : ∃ w, Build.buildFunction .standard (.object (document [])) .empty =
      .ok (function .nop) w :=
    Build.buildFunction_eq_ok 10 (by decide) rfl rfl rfl rfl rfl rfl
  exact .byItself h

theorem isLoaded_skip : (function skip).IsLoaded := by
  obtain ⟨w, h⟩ : ∃ w, Build.buildFunction .standard
      (.object (document [("false", emptyBlock)])) .empty = .ok (function skip) w :=
    Build.buildFunction_eq_ok 10 (by decide) rfl rfl rfl rfl rfl rfl
  exact .byItself h

theorem hasNames_function {no : Node} (hno : ∀ m ∈ no.nodes, m.HasName) :
    (function no).HasNames where
  name := show isIdentifier "Main" = true by decide
  locals := show ∀ v ∈ [x], isIdentifier v.name = true by decide
  body := by
    have hloop : (Value.string "loop").IsName := ⟨_, rfl, by decide⟩
    have hhead : (Value.string "head").IsName := ⟨_, rfl, by decide⟩
    simp only [function, Node.nodes, Node.nodesOfBlocks, Node.nodesOfBlock, Node.nodesOfAll,
      Node.HasName, List.append_nil, List.forall_mem_cons, List.forall_mem_append, List.not_mem_nil,
      false_implies, implies_true, and_true, true_and]
    exact ⟨hloop, hhead, hno⟩

theorem hasName_skip : ∀ m ∈ skip.nodes, m.HasName := by
  have hlabel : (Value.string "skip").IsName := ⟨_, rfl, by decide⟩
  exact Node.forall_nodes_of_leaf rfl hlabel

/-- The dump of both. -/
def dump : Text :=
  Text.joined "\n" ["function Main", "    var x: BOOL", "    BlockContainer loop (LOOP) \x7b",
    "        Block head (CONTROL_FLOW) \x7b", "            if (ldloc x) \x7b",
    "                leave loop", "            \x7d", "        \x7d", "    \x7d"]

end EmptyArm

open EmptyArm in
/-- A second arm with nothing in it and none at all are not told apart by the dump, so they are
lowered alike. -/
theorem seen_eq_of_emptyArm : function .nop ≠ function skip ∧
    (function .nop).IsLoaded ∧ (function skip).IsLoaded ∧
    (function .nop).dump (.string "    ") = .ok dump ∧
    (function skip).dump (.string "    ") = .ok dump ∧
    ∀ mode, seen (generate mode (function .nop)) = seen (generate mode (function skip)) := by
  have hdump : (function .nop).dump (.string "    ") = .ok dump := rfl
  have hdump' : (function skip).dump (.string "    ") = .ok dump := rfl
  refine ⟨nofun, isLoaded_nop, isLoaded_skip, hdump, hdump', ?_⟩
  have hnop : (function .nop).HasNames :=
    hasNames_function (Node.forall_nodes_of_leaf rfl trivial)
  have hskip : (function skip).HasNames := hasNames_function hasName_skip
  exact (seen_eq_of_dump_eq isLoaded_nop isLoaded_skip hnop hskip hdump hdump').2

end C

end StructuredIL
