import StructuredIL.Proofs.Text.Nesting
import StructuredIL.Proofs.Tree.Nodes

/-!
# What the notation tells

The notation of a node begins with a keyword, from which the sort of the node is known
(`Node.opcode_eq_of_text`), and it has the notations of the operands in brackets. If all that a tree
names is a name, its notation is whole (`Node.whole_text`), so each operand can be found in it: two
comparisons of one notation have one kind and operands of one notation each, and so on, one lemma
for each sort of node.

The notation does not tell the tree. What is in a block or a container is not in it, a leave names
its target by the label only, and where the second arm of a conditional belongs, if conditionals
stand in one another, cannot be known.
-/

namespace StructuredIL

open Text

/-! ### Names -/

/-- A value that is a name. -/
def Value.IsName (v : Value) : Prop := ∃ t, v = .string t ∧ C.isIdentifier t = true

theorem Value.IsName.isIdentifier {v : Value} (h : v.IsName) : C.isIdentifier v.text = true := by
  obtain ⟨t, rfl, ht⟩ := h
  exact ht

theorem Value.IsName.eq_of_text {v w : Value} (hv : v.IsName) (hw : w.IsName)
    (h : v.text = w.text) : v = w := by
  obtain ⟨t, rfl, -⟩ := hv
  obtain ⟨u, rfl, -⟩ := hw
  exact congrArg Value.string h

/-- Two names, each in front of what no name has, can be told from the texts. -/
theorem Text.name_append_inj {t u v w : Text} (ht : C.isIdentifier t = true)
    (hu : C.isIdentifier u = true) (ends : List Char)
    (hends : ends.any C.isWordChar = false) (hv : ∀ p ∈ v.head?, p ∈ ends.map .char)
    (hw : ∀ p ∈ w.head?, p ∈ ends.map .char) (h : t ++ v = u ++ w) : t = u ∧ v = w := by
  have hnone {t : Text} (ht : C.isIdentifier t = true) : ∀ p ∈ t, p ∉ ends.map .char := by
    intro p hp hmem
    obtain ⟨c, hc, rfl⟩ := List.mem_map.1 hmem
    exact avoids_of_isIdentifier ht hends c hc hp
  exact append_inj_of_forall (hnone ht) (hnone hu) (fun p hp hnot ↦ hnot (hv p hp))
    (fun p hp hnot ↦ hnot (hw p hp)) h

/-! ### Words of the notation -/

theorem Vocabulary.mem_members {α : Type} [Vocabulary α] (a : α) : a ∈ members (α := α) :=
  List.mem_of_find?_eq_some (find_name a)

theorem Vocabulary.name_inj {α : Type} [Vocabulary α] {a b : α} (h : name a = name b) : a = b := by
  have hfind := find_name a
  rw [h] at hfind
  exact Option.some.inj (hfind.symm.trans (find_name b))

theorem ComparisonKind.symbol_inj {kind kind' : ComparisonKind} (h : kind.symbol = kind'.symbol) :
    kind = kind' := by
  have hall : ∀ kind ∈ all, ∀ kind' ∈ all, kind.symbol = kind'.symbol → kind = kind' := by decide
  exact hall kind (Vocabulary.mem_members kind) kind' (Vocabulary.mem_members kind') h

theorem BinaryOperator.lower_name_inj {op op' : BinaryOperator}
    (h : lower op.name = lower op'.name) : op = op' := by
  have hall : ∀ op ∈ all, ∀ op' ∈ all, lower op.name = lower op'.name → op = op' := by decide
  exact hall op (Vocabulary.mem_members op) op' (Vocabulary.mem_members op') h

namespace Opcode

/-- The word that the notation of a node begins with. -/
def keyword : Opcode → String
  | .nop => "nop"
  | .stloc => "stloc"
  | .branch => "br"
  | .leave => "leave"
  | .ifInstruction => "if"
  | .call => "call"
  | .block => "Block"
  | .blockContainer => "BlockContainer"
  | .ldcI4 => "ldc"
  | .ldloc => "ldloc"
  | .comp => "comp"
  | .binaryNumeric => "binary"

/-- A text begins with the keyword of an opcode, and the keyword ends where it should. -/
def Begins (op : Opcode) (t : Text) : Prop :=
  ∃ rest, t = op.keyword ++ rest ∧ ∀ p ∈ rest.head?, p ∈ [' ', '(', '.'].map CodePoint.char

theorem isIdentifier_keyword (op : Opcode) : C.isIdentifier op.keyword = true := by
  cases op <;> decide

theorem keyword_inj {op op' : Opcode} (h : op.keyword = op'.keyword) : op = op' := by
  have hall : ∀ op ∈ all, ∀ op' ∈ all, op.keyword = op'.keyword → op = op' := by decide
  exact hall op (Vocabulary.mem_members op) op' (Vocabulary.mem_members op') h

/-- A text begins with one keyword only. -/
theorem Begins.inj {op op' : Opcode} {t : Text} (h : op.Begins t) (h' : op'.Begins t) :
    op = op' := by
  obtain ⟨rest, rfl, hrest⟩ := h
  obtain ⟨rest', heq, hrest'⟩ := h'
  obtain ⟨hwords, -⟩ := name_append_inj (isIdentifier_keyword op) (isIdentifier_keyword op')
    [' ', '(', '.'] (by decide) hrest hrest' heq
  exact keyword_inj (ofString_inj.1 hwords)

end Opcode

namespace Node

/-! ### Legible nodes -/

/-- A node that comes from a document and names things by names only. -/
def IsLegible : Node → Prop
  | bare _ => False
  | constant value => Build.minInt32 ≤ value ∧ value ≤ Build.maxInt32
  | load v => C.isIdentifier v.name = true
  | store v _ => C.isIdentifier v.name = true
  | branch target => target.label.IsName
  | call _ method => method.IsName
  | leave target _ => target.label.IsName
  | block b => b.head.label.IsName
  | container head _ => head.label.IsName
  | _ => True

theorem IsLegible.isOrdinary {n : Node} (h : n.IsLegible) : n.IsOrdinary := by
  cases n with
  | bare op => exact h.elim
  | constant value => exact h
  | branch | call | leave | block | container =>
    obtain ⟨t, ht, -⟩ := h
    exact ⟨t, ht⟩
  | _ => trivial

/-- What is legible may be written. -/
theorem isWritable_of_isLegible {n : Node} (h : ∀ m ∈ n.nodes, m.IsLegible) :
    n.isWritable = true :=
  isWritable_of_isOrdinary fun m hm ↦ (h m hm).isOrdinary

/-! ### Notations in parts -/

theorem text_constant (value : Int) :
    (constant value).text = "ldc" ++ (".i4 " ++ ofString (toString value)) :=
  ofString_append "ldc.i4 " (toString value)

theorem text_load (v : Variable) : (load v).text = "ldloc" ++ (" " ++ v.name) := rfl

theorem text_compare (kind : ComparisonKind) (l r : Node) : (compare kind l r).text =
    "comp" ++ ("(" ++ (l.text ++ " " ++ (kind.symbol ++ (" " ++ r.text))) ++ ")") := by
  have htext : (compare kind l r).text =
    "comp(" ++ l.text ++ " " ++ kind.symbol ++ " " ++ r.text ++ ")" := rfl
  simp only [htext, List.append_assoc]
  rfl

theorem text_binary (op : BinaryOperator) (l r : Node) : (binary op l r).text =
    "binary" ++ ("." ++ (lower op.name ++ ("(" ++ (l.text ++ (", " ++ r.text)) ++ ")"))) := by
  have htext : (binary op l r).text =
    "binary." ++ lower op.name ++ "(" ++ l.text ++ ", " ++ r.text ++ ")" := rfl
  simp only [htext, List.append_assoc]
  rfl

theorem text_store (v : Variable) (value : Node) :
    (store v value).text = "stloc" ++ (" " ++ (v.name ++ ("(" ++ value.text ++ ")"))) := by
  have htext : (store v value).text = "stloc " ++ v.name ++ "(" ++ value.text ++ ")" := rfl
  simp only [htext, List.append_assoc]
  rfl

theorem text_branch (target : BlockHead) :
    (branch target).text = "br" ++ (" " ++ target.label.text) := rfl

/-- What stands behind the first arm of a conditional. -/
def otherText (no : Node) : Text :=
  if no.isEmptyStatement then [] else " else " ++ no.text

theorem text_cond (c yes no : Node) : (cond c yes no).text =
    "if" ++ (" " ++ ("(" ++ c.text ++ ")" ++ (" " ++ yes.text ++ no.otherText))) := by
  rw [text, otherText]
  split
  · simp only [List.append_assoc, List.append_nil]
    rfl
  · simp only [List.append_assoc]
    rfl

theorem text_call (arguments : List Node) (method : Value) : (call arguments method).text =
    "call" ++ (" " ++ (method.text ++ ("(" ++ joined ", " (texts arguments) ++ ")"))) := by
  have htext : (call arguments method).text =
    "call " ++ method.text ++ "(" ++ joined ", " (texts arguments) ++ ")" := rfl
  simp only [htext, List.append_assoc]
  rfl

/-- What stands behind the label of a leave. -/
def valueText (value : Node) : Text :=
  if value.isNop then [] else " " ++ ("(" ++ value.text ++ ")")

theorem text_leave (target : ContainerHead) (value : Node) :
    (leave target value).text = "leave" ++ (" " ++ (target.label.text ++ value.valueText)) := by
  rw [text, valueText]
  split
  · rw [List.append_nil]
    rfl
  · simp only [List.append_assoc]
    rfl

theorem text_block (b : Block) : (block b).text = "Block" ++ (" " ++ (b.head.label.text ++ (" " ++
    ("(" ++ (ofString (toString b.instructions.length) ++ " instructions") ++ ")")))) := by
  have htext : (block b).text = "Block " ++ b.head.label.text ++
    ofString (" (" ++ toString b.instructions.length ++ " instructions)") := rfl
  simp only [htext, ofString_append, List.append_assoc]
  rfl

theorem text_container (head : ContainerHead) (blocks : List Block) :
    (container head blocks).text = "BlockContainer" ++ (" " ++ (head.label.text ++ (" " ++
      ("(" ++ head.kind.name ++ ")")))) := by
  have htext : (container head blocks).text =
    "BlockContainer " ++ head.label.text ++ " (" ++ head.kind.name ++ ")" := rfl
  simp only [htext, List.append_assoc]
  rfl

/-- A notation begins with the keyword. -/
theorem begins_text {n : Node} (h : n.IsLegible) : n.opcode.Begins n.text := by
  cases n with
  | bare op => exact h.elim
  | nop => exact ⟨[], rfl, nofun⟩
  | constant value => exact ⟨_, text_constant value, by rintro p ⟨⟩; decide⟩
  | load v => exact ⟨_, text_load v, by rintro p ⟨⟩; decide⟩
  | compare kind l r => exact ⟨_, text_compare kind l r, by rintro p ⟨⟩; decide⟩
  | binary op l r => exact ⟨_, text_binary op l r, by rintro p ⟨⟩; decide⟩
  | store v value => exact ⟨_, text_store v value, by rintro p ⟨⟩; decide⟩
  | branch target => exact ⟨_, text_branch target, by rintro p ⟨⟩; decide⟩
  | cond c yes no => exact ⟨_, text_cond c yes no, by rintro p ⟨⟩; decide⟩
  | call arguments method => exact ⟨_, text_call arguments method, by rintro p ⟨⟩; decide⟩
  | leave target value => exact ⟨_, text_leave target value, by rintro p ⟨⟩; decide⟩
  | block b => exact ⟨_, text_block b, by rintro p ⟨⟩; decide⟩
  | container head blocks => exact ⟨_, text_container head blocks, by rintro p ⟨⟩; decide⟩

/-- **The sort of a node** can be told from its notation. -/
theorem opcode_eq_of_text {n m : Node} (hn : n.IsLegible) (hm : m.IsLegible)
    (h : n.text = m.text) : n.opcode = m.opcode :=
  (begins_text hn).inj (h ▸ begins_text hm)

/-! ### Whole notations -/

theorem whole_name {t : Text} (h : C.isIdentifier t = true) : Whole t :=
  whole_of_avoids (avoids_of_isIdentifier h (by decide))

theorem whole_containerKind (kind : ContainerKind) : Whole kind.name :=
  whole_of_avoids (by cases kind <;> exact avoids_ofList (by decide))

theorem whole_otherText {no : Node} (h : Whole no.text) : Whole no.otherText := by
  rw [otherText]
  split
  · exact fun _ ↦ rfl
  · exact (whole_literal (by decide)).append h

theorem whole_valueText {value : Node} (h : Whole value.text) : Whole value.valueText := by
  rw [valueText]
  split
  · exact fun _ ↦ rfl
  · exact (whole_literal (by decide)).append h.inside.whole

/-- The notation of a block or a container, and the line that opens it. -/
theorem whole_heading {cs : List Char} {label rest : Text} (h : marks.any cs.contains = false)
    (hlabel : C.isIdentifier label = true) (hrest : Inside rest) :
    Whole (String.ofList cs ++ (" " ++ (label ++ (" " ++ ("(" ++ rest ++ ")"))))) := by
  have hbrackets : Whole (" " ++ ("(" ++ rest ++ ")")) := hrest.whole.behind_word (by decide)
  exact (((whole_name hlabel).append hbrackets).behind_word (by decide)).behind_word h

/-- Two headings with one word in front tell the label and what is in the brackets. -/
theorem heading_inj {word label label' rest rest' : Text} (hlabel : C.isIdentifier label = true)
    (hlabel' : C.isIdentifier label' = true)
    (h : word ++ (" " ++ (label ++ (" " ++ ("(" ++ rest ++ ")")))) =
      word ++ (" " ++ (label' ++ (" " ++ ("(" ++ rest' ++ ")"))))) :
    label = label' ∧ rest = rest' := by
  obtain ⟨hsame, hbrackets⟩ := name_append_inj hlabel hlabel' [' '] (by decide)
    (by rintro p ⟨⟩; decide) (by rintro p ⟨⟩; decide)
    (List.append_cancel_left (List.append_cancel_left h))
  exact ⟨hsame, eq_of_brackets (List.append_cancel_left hbrackets)⟩

theorem texts_eq_map (ns : List Node) : texts ns = ns.map text := by
  induction ns with
  | nil => rfl
  | cons n rest ih => rw [texts, ih, List.map_cons]

/-- **A notation is whole** if all that the tree names is a name. -/
theorem whole_text {n : Node} (h : ∀ m ∈ n.nodes, m.IsLegible) : Whole n.text := by
  refine induction_of_forall_nodes (motive := fun n ↦ Whole n.text) ?_ h
  intro n hn _ ih
  cases n with
  | nop => exact whole_of_avoids (by decide)
  | bare op => exact hn.elim
  | constant value =>
    have hvalue : Whole (toString value) :=
      whole_of_avoids (avoids_integer_of value (by decide) (by decide))
    rw [text_constant]
    exact (hvalue.behind_word (by decide)).behind_word (by decide)
  | load v =>
    rw [text_load]
    exact ((whole_name hn).behind_word (by decide)).behind_word (by decide)
  | compare kind l r =>
    have hsymbol : Inside kind.symbol := 
      inside_of_avoids (by cases kind <;> exact avoids_ofList (by decide))
    have hleft : Whole (l.text ++ " ") :=
      (ih l (by simp [children])).append (whole_literal (by decide))
    have hright : Whole (" " ++ r.text) := (ih r (by simp [children])).behind_word (by decide)
    rw [text_compare]
    exact (hleft.inside.append (hsymbol.append hright.inside)).whole.behind_word (by decide)
  | binary op l r =>
    have hcomma : Inside (", " : Text) := inside_of_avoids (by decide)
    have hoperands : Inside (l.text ++ (", " ++ r.text)) :=
      (ih l (by simp [children])).inside.append (hcomma.append (ih r (by simp [children])).inside)
    rw [text_binary]
    have hname : Whole (lower op.name) := whole_of_avoids (by cases op <;> decide)
    exact ((hname.append hoperands.whole).behind_word (by decide)).behind_word (by decide)
  | store v value =>
    have hvalue := (ih value (by simp [children])).inside.whole
    rw [text_store]
    exact (((whole_name hn).append hvalue).behind_word (by decide)).behind_word (by decide)
  | branch target =>
    rw [text_branch]
    exact ((whole_name hn.isIdentifier).behind_word (by decide)).behind_word (by decide)
  | cond c yes no =>
    have hyes : Whole (" " ++ yes.text) := (ih yes (by simp [children])).behind_word (by decide)
    have harms := hyes.append (whole_otherText (ih no (by simp [children])))
    have hcondition := (ih c (by simp [children])).inside.whole
    rw [text_cond]
    exact ((hcondition.append harms).behind_word (by decide)).behind_word (by decide)
  | call arguments method =>
    have harguments : Inside (joined ", " (texts arguments)) := by
      rw [texts_eq_map]
      exact inside_joined (List.forall_mem_map.2 ih)
    have hrest := (whole_name hn.isIdentifier).append harguments.whole
    rw [text_call]
    exact (hrest.behind_word (by decide)).behind_word (by decide)
  | leave target value =>
    have hvalue := whole_valueText (ih value (by simp [children]))
    have hrest := (whole_name hn.isIdentifier).append hvalue
    rw [text_leave]
    exact (hrest.behind_word (by decide)).behind_word (by decide)
  | block b =>
    have hnumber : Whole (toString b.instructions.length) :=
      whole_of_avoids (avoids_of_isDigits (C.isDigits_repr _) (by decide))
    have hcount : Inside (ofString (toString b.instructions.length) ++ " instructions") :=
      (hnumber.append (whole_literal (by decide))).inside
    rw [text_block]
    exact whole_heading (by decide) hn.isIdentifier hcount
  | container head blocks =>
    rw [text_container]
    exact whole_heading (by decide) hn.isIdentifier (whole_containerKind head.kind).inside

theorem text_ne_nil {n : Node} (h : n.IsLegible) : n.text ≠ [] := by
  obtain ⟨rest, hrest, -⟩ := begins_text h
  have hkeyword : ofString n.opcode.keyword ≠ [] := by cases n.opcode <;> decide
  rw [hrest]
  exact List.append_ne_nil_of_left_ne_nil hkeyword rest

/-! ### Nodes of one notation -/

section

variable {l r value m : Node}

theorem exists_of_text_constant {n : Int} (hn : ∀ k ∈ (constant n).nodes, k.IsLegible)
    (hm : ∀ k ∈ m.nodes, k.IsLegible) (h : (constant n).text = m.text) :
    ∃ n', m = constant n' ∧ ofString (toString n) = ofString (toString n') := by
  have hroot := (forall_nodes_iff.1 hm).1
  have hop := opcode_eq_of_text (forall_nodes_iff.1 hn).1 hroot h
  cases m with
  | constant n' =>
    rw [text_constant, text_constant] at h
    exact ⟨n', rfl, List.append_cancel_left (List.append_cancel_left h)⟩
  | bare op => exact hroot.elim
  | _ => cases hop

theorem exists_of_text_load {v : Variable} (hn : ∀ k ∈ (load v).nodes, k.IsLegible)
    (hm : ∀ k ∈ m.nodes, k.IsLegible) (h : (load v).text = m.text) :
    ∃ v', m = load v' ∧ v.name = v'.name := by
  have hroot := (forall_nodes_iff.1 hm).1
  have hop := opcode_eq_of_text (forall_nodes_iff.1 hn).1 hroot h
  cases m with
  | load v' =>
    rw [text_load, text_load] at h
    exact ⟨v', rfl, List.append_cancel_left (List.append_cancel_left h)⟩
  | bare op => exact hroot.elim
  | _ => cases hop

theorem exists_of_text_compare {kind : ComparisonKind}
    (hn : ∀ k ∈ (compare kind l r).nodes, k.IsLegible) (hm : ∀ k ∈ m.nodes, k.IsLegible)
    (h : (compare kind l r).text = m.text) :
    ∃ l' r', m = compare kind l' r' ∧ l.text = l'.text ∧ r.text = r'.text := by
  have hroot := (forall_nodes_iff.1 hm).1
  have hop := opcode_eq_of_text (forall_nodes_iff.1 hn).1 hroot h
  cases m with
  | compare kind' l' r' =>
    have hleft {kind : ComparisonKind} {l r : Node}
        (hn : ∀ k ∈ (compare kind l r).nodes, k.IsLegible) : Whole (l.text ++ " ") :=
      (whole_text ((forall_nodes_iff.1 hn).2 l (by simp [children]))).append
        (whole_literal (by decide))
    have hstops (kind : ComparisonKind) (t : Text) : Stops (kind.symbol ++ t) := by
      cases kind <;> (rintro p ⟨⟩; decide)
    have hsymbol (kind : ComparisonKind) : ∀ p ∈ ofString kind.symbol, p ≠ .char ' ' := by
      cases kind <;> decide
    rw [text_compare, text_compare] at h
    obtain ⟨hl, hrest⟩ := (hleft hn).append_inj (hleft hm) (hstops kind _) (hstops kind' _)
      (eq_of_brackets (List.append_cancel_left h))
    obtain ⟨hkind, hr⟩ := append_inj_of_forall (hsymbol kind) (hsymbol kind')
      (by rintro p ⟨⟩; decide) (by rintro p ⟨⟩; decide) hrest
    obtain rfl := ComparisonKind.symbol_inj (ofString_inj.1 hkind)
    exact ⟨l', r', rfl, List.append_cancel_right hl, List.append_cancel_left hr⟩
  | bare op => exact hroot.elim
  | _ => cases hop

theorem exists_of_text_binary {op : BinaryOperator}
    (hn : ∀ k ∈ (binary op l r).nodes, k.IsLegible) (hm : ∀ k ∈ m.nodes, k.IsLegible)
    (h : (binary op l r).text = m.text) :
    ∃ l' r', m = binary op l' r' ∧ l.text = l'.text ∧ r.text = r'.text := by
  have hroot := (forall_nodes_iff.1 hm).1
  have hop := opcode_eq_of_text (forall_nodes_iff.1 hn).1 hroot h
  cases m with
  | binary op' l' r' =>
    have hleft {op : BinaryOperator} {l r : Node}
        (hn : ∀ k ∈ (binary op l r).nodes, k.IsLegible) : Whole l.text :=
      whole_text ((forall_nodes_iff.1 hn).2 l (by simp [children]))
    have hname (op : BinaryOperator) : ∀ p ∈ lower op.name, p ≠ .char '(' := by
      cases op <;> decide
    rw [text_binary, text_binary] at h
    obtain ⟨hsame, hoperands⟩ := append_inj_of_forall (hname op) (hname op')
      (by rintro p ⟨⟩; decide) (by rintro p ⟨⟩; decide)
      (List.append_cancel_left (List.append_cancel_left h))
    obtain ⟨hl, hr⟩ := (hleft hn).append_inj (hleft hm) (by rintro p ⟨⟩; decide)
      (by rintro p ⟨⟩; decide) (eq_of_brackets hoperands)
    obtain rfl := BinaryOperator.lower_name_inj hsame
    exact ⟨l', r', rfl, hl, List.append_cancel_left hr⟩
  | bare op => exact hroot.elim
  | _ => cases hop

theorem exists_of_text_store {v : Variable} (hn : ∀ k ∈ (store v value).nodes, k.IsLegible)
    (hm : ∀ k ∈ m.nodes, k.IsLegible) (h : (store v value).text = m.text) :
    ∃ v' value', m = store v' value' ∧ v.name = v'.name ∧ value.text = value'.text := by
  have hroot := (forall_nodes_iff.1 hm).1
  have hop := opcode_eq_of_text (forall_nodes_iff.1 hn).1 hroot h
  cases m with
  | store v' value' =>
    rw [text_store, text_store] at h
    obtain ⟨hname, hvalue⟩ := name_append_inj (forall_nodes_iff.1 hn).1 hroot ['(']
      (by decide) (by rintro p ⟨⟩; decide) (by rintro p ⟨⟩; decide)
      (List.append_cancel_left (List.append_cancel_left h))
    exact ⟨v', value', rfl, hname, eq_of_brackets hvalue⟩
  | bare op => exact hroot.elim
  | _ => cases hop

theorem exists_of_text_call {arguments : List Node} {method : Value}
    (hn : ∀ k ∈ (call arguments method).nodes, k.IsLegible) (hm : ∀ k ∈ m.nodes, k.IsLegible)
    (h : (call arguments method).text = m.text) :
    ∃ arguments', m = call arguments' method ∧ arguments.map text = arguments'.map text := by
  have hroot := (forall_nodes_iff.1 hm).1
  have hop := opcode_eq_of_text (forall_nodes_iff.1 hn).1 hroot h
  cases m with
  | call arguments' method' =>
    have htexts {ns : List Node} (hns : ∀ a ∈ ns, ∀ k ∈ a.nodes, k.IsLegible) :
        ∀ t ∈ ns.map text, Whole t ∧ t ≠ [] :=
      List.forall_mem_map.2 fun a ha ↦
        ⟨whole_text (hns a ha), text_ne_nil (forall_nodes_iff.1 (hns a ha)).1⟩
    have hmethod : method.IsName := (forall_nodes_iff.1 hn).1
    have hmethod' : method'.IsName := hroot
    rw [text_call, text_call, texts_eq_map, texts_eq_map] at h
    obtain ⟨hname, hbrackets⟩ := name_append_inj hmethod.isIdentifier hmethod'.isIdentifier
      ['('] (by decide) (by rintro p ⟨⟩; decide) (by rintro p ⟨⟩; decide)
      (List.append_cancel_left (List.append_cancel_left h))
    obtain rfl := hmethod.eq_of_text hmethod' hname
    exact ⟨arguments', rfl, eq_of_joined_commas (htexts (forall_nodes_iff.1 hn).2)
      (htexts (forall_nodes_iff.1 hm).2) (eq_of_brackets hbrackets)⟩
  | bare op => exact hroot.elim
  | _ => cases hop

/-- What stands behind the label of a leave tells its value, also if there is none. -/
theorem text_eq_of_valueText {value' : Node} (h : value.valueText = value'.valueText) :
    value.text = value'.text := by
  have hnop {value : Node} (hvalue : value.isNop = true) : value.text = nop.text := by
    cases value <;> first | rfl | cases hvalue
  rw [valueText, valueText] at h
  split at h <;> split at h
  · rename_i hvalue hvalue'
    rw [hnop hvalue, hnop hvalue']
  · cases h
  · cases h
  · exact eq_of_brackets (List.append_cancel_left h)

theorem exists_of_text_leave {target : ContainerHead}
    (hn : ∀ k ∈ (leave target value).nodes, k.IsLegible) (hm : ∀ k ∈ m.nodes, k.IsLegible)
    (h : (leave target value).text = m.text) :
    ∃ target' value', m = leave target' value' ∧ target.label = target'.label ∧
      value.text = value'.text := by
  have hroot := (forall_nodes_iff.1 hm).1
  have hop := opcode_eq_of_text (forall_nodes_iff.1 hn).1 hroot h
  cases m with
  | leave target' value' =>
    have hends (value : Node) : ∀ p ∈ value.valueText.head?, p ∈ [' '].map CodePoint.char := by
      rw [valueText]
      split
      · exact nofun
      · rintro p ⟨⟩
        decide
    have hlabel : target.label.IsName := (forall_nodes_iff.1 hn).1
    have hlabel' : target'.label.IsName := hroot
    rw [text_leave, text_leave] at h
    obtain ⟨hsame, hvalue⟩ := name_append_inj hlabel.isIdentifier hlabel'.isIdentifier [' ']
      (by decide) (hends value) (hends value') (List.append_cancel_left (List.append_cancel_left h))
    exact ⟨target', value', rfl, hlabel.eq_of_text hlabel' hsame, text_eq_of_valueText hvalue⟩
  | bare op => exact hroot.elim
  | _ => cases hop

end

end Node

end StructuredIL
