import StructuredIL.Proofs.C.Skeleton
import StructuredIL.Proofs.Lowering.Modes
import StructuredIL.Proofs.Tree.Notation

/-!
# The layout of a generated text

What best effort writes is made of words of the library, names of the document and diagnostics, put
one after the other and into brackets. `C.Laid` says so of a text, and lists its diagnostics in the
order in which they stand there. It says nothing of what a lowering is made from, so what can be
told of a generated text from its layout alone is told by induction over `C.Laid`.

What is laid out is tied to what is logged by `C.Warns`: a lowering that gives a result warns of the
diagnostics in it, in the order of the text (`C.isLaidOut_generate`). No text that a diagnostic
has been put into is ever thrown away. A diagnostic that shows the notation of a leave's value has
no diagnostic in it, since a notation has none (`Node.laid_text`).

The names of a document may be anything that is free of certain characters, some of those that
diagnostics begin with and brackets are made of. It is left open which ones.
-/

namespace StructuredIL

/-! ### Names -/

/-- What a node names is free of certain characters. -/
def Node.NamesAvoid (chars : List Char) : Node → Prop
  | .load v => v.name.Avoids chars
  | .store v _ => v.name.Avoids chars
  | .branch target => target.label.text.Avoids chars
  | .call _ method => method.text.Avoids chars
  | .leave target _ => target.label.text.Avoids chars
  | .block b => b.head.label.text.Avoids chars
  | .container head _ => head.label.text.Avoids chars
  | _ => True

/-- What a function names is free of certain characters. -/
structure Function.NamesAvoid (chars : List Char) (f : Function) : Prop where
  /-- Its own name is. -/
  name : f.name.Avoids chars
  /-- The names of its variables are. -/
  locals : ∀ v ∈ f.locals, v.name.Avoids chars
  /-- The names in its body are. -/
  body : ∀ n ∈ f.body.nodes, n.NamesAvoid chars

namespace C

/-! ### Layouts -/

/-- A text that is put together from words, names and diagnostics, with its diagnostics in order. -/
inductive Laid (chars : List Char) : Text → List Text → Prop
  | word {t : Text} : t.Avoids Text.framing → Laid chars t []
  | name {t : Text} : t.Avoids chars → Laid chars t []
  | append {t u : Text} {ds es : List Text} : Laid chars t ds → Laid chars u es →
      Laid chars (t ++ u) (ds ++ es)
  | parens {t : Text} {ds : List Text} : Laid chars t ds → Laid chars ("(" ++ t ++ ")") ds
  | braces {t : Text} {ds : List Text} : Laid chars t ds → Laid chars ("\x7b" ++ t ++ "\x7d") ds
  | diagnostic {t : Text} : Laid chars t [] →
      Laid chars (Unsupported.marker ++ t) [Unsupported.marker ++ t]

variable {chars : List Char} {t u : Text} {ds es : List Text}

/-- What stands behind a text and holds no diagnostic. -/
theorem Laid.before (ht : Laid chars t ds) (hu : Laid chars u []) : Laid chars (t ++ u) ds := by
  have h := ht.append hu
  rwa [List.append_nil] at h

/-- What stands in front of a text and holds no diagnostic. -/
theorem Laid.behind (hu : Laid chars u ds) (ht : Laid chars t []) : Laid chars (t ++ u) ds :=
  ht.append hu

section

variable {cs : List Char}

theorem Laid.literal (h : Text.framing.any cs.contains = false) :
    Laid chars (String.ofList cs) [] :=
  .word (Text.avoids_ofList h)

theorem Laid.before_word (ht : Laid chars t ds) (h : Text.framing.any cs.contains = false) :
    Laid chars (t ++ String.ofList cs) ds := ht.before (.literal h)

theorem Laid.behind_word (ht : Laid chars t ds) (h : Text.framing.any cs.contains = false) :
    Laid chars (String.ofList cs ++ t) ds := ht.behind (.literal h)

end

/-- Where there is no text there is no diagnostic. -/
theorem Laid.eq_nil_of_text (h : Laid chars t ds) (ht : t = []) : ds = [] := by
  induction h with
  | word h => rfl
  | name h => rfl
  | append _ _ iht ihu =>
    obtain ⟨ht, hu⟩ := List.append_eq_nil_iff.1 ht
    rw [iht ht, ihu hu, List.append_nil]
  | parens => cases ht
  | braces => cases ht
  | diagnostic => cases ht

/-- Texts that are laid out may each have a text in front. -/
theorem Laid.flatMap {front : Text} (hfront : Laid chars front []) {ts : List Text}
    {dss : List (List Text)} (h : List.Forall₂ (Laid chars) ts dss) :
    Laid chars (ts.flatMap (front ++ ·)) dss.flatten := by
  induction h with
  | nil => exact .word Text.avoids_nil
  | cons h _ ih =>
    rw [List.flatMap_cons, List.flatten_cons]
    exact (h.behind hfront).append ih

theorem Laid.joined {between : Text} (hbetween : Laid chars between []) {ts : List Text}
    {dss : List (List Text)} (h : List.Forall₂ (Laid chars) ts dss) :
    Laid chars (Text.joined between ts) dss.flatten := by
  cases h with
  | nil => exact .word Text.avoids_nil
  | cons h hrest =>
    rw [Text.joined_cons, List.flatten_cons]
    exact h.append (.flatMap hbetween hrest)

end C

/-! ### Notations -/

namespace Node

open C Text

variable {chars : List Char}

theorem avoids_opcode (op : Opcode) : Avoids framing (lower op.name) := by
  have hname : Avoids framing op.name := by cases op <;> exact avoids_ofList (by decide)
  exact hname.lower (List.Subset.refl _)

theorem avoids_symbol (kind : ComparisonKind) : Avoids framing kind.symbol := by
  cases kind <;> exact avoids_ofList (by decide)

theorem avoids_operator (op : BinaryOperator) : Avoids framing op.name := by
  cases op <;> exact avoids_ofList (by decide)

theorem avoids_containerKind (kind : ContainerKind) : Avoids framing kind.name := by
  cases kind <;> exact avoids_ofList (by decide)

theorem laid_texts {ns : List Node} (h : ∀ n ∈ ns, Laid chars n.text []) :
    Laid chars (joined ", " (texts ns)) [] := by
  have hparts : ∃ dss, dss.flatten = [] ∧ List.Forall₂ (Laid chars) (texts ns) dss := by
    induction ns with
    | nil => exact ⟨[], rfl, .nil⟩
    | cons n rest ih =>
      obtain ⟨dss, hnone, hdss⟩ := ih fun m hm ↦ h m (List.mem_cons_of_mem n hm)
      exact ⟨[] :: dss, hnone, .cons (h n (List.mem_cons_self ..)) hdss⟩
  obtain ⟨dss, hnone, hdss⟩ := hparts
  exact hnone ▸ Laid.joined (.literal (by decide)) hdss

theorem laid_otherText {no : Node} (h : Laid chars no.text []) : Laid chars no.otherText [] := by
  rw [otherText]
  split
  · exact .word avoids_nil
  · exact h.behind_word (by decide)

theorem laid_valueText {value : Node} (h : Laid chars value.text []) :
    Laid chars value.valueText [] := by
  rw [valueText]
  split
  · exact .word avoids_nil
  · exact h.parens.behind_word (by decide)

/-- The heading of a block or a container. -/
theorem laid_heading {cs : List Char} {label rest : Text} (h : framing.any cs.contains = false)
    (hlabel : label.Avoids chars) (hrest : Laid chars rest []) :
    Laid chars (String.ofList cs ++ (" " ++ (label ++ (" " ++ ("(" ++ rest ++ ")"))))) [] := by
  have hbrackets : Laid chars (" " ++ ("(" ++ rest ++ ")")) [] :=
    hrest.parens.behind_word (by decide)
  exact ((hbrackets.behind (.name hlabel)).behind_word (by decide)).behind_word h

/-- **The notation of a node** holds no diagnostic. -/
theorem laid_text {n : Node} (h : ∀ m ∈ n.nodes, m.NamesAvoid chars) : Laid chars n.text [] := by
  refine induction_of_forall_nodes (motive := fun n ↦ Laid chars n.text []) ?_ h
  intro n hn _ ih
  cases n with
  | nop => exact .word (avoids_opcode .nop)
  | bare op => exact .word (avoids_opcode op)
  | constant value =>
    rw [text_constant]
    exact ((Laid.word (avoids_integer value)).behind_word (by decide)).behind_word (by decide)
  | load v =>
    rw [text_load]
    exact ((Laid.name hn).behind_word (by decide)).behind_word (by decide)
  | compare kind l r =>
    have hleft : Laid chars (l.text ++ " ") [] :=
      (ih l (by simp [children])).before_word (by decide)
    have hright : Laid chars (kind.symbol ++ (" " ++ r.text)) [] :=
      ((ih r (by simp [children])).behind_word (by decide)).behind (.word (avoids_symbol kind))
    rw [text_compare]
    exact (hleft.before hright).parens.behind_word (by decide)
  | binary op l r =>
    have hright : Laid chars (", " ++ r.text) [] :=
      (ih r (by simp [children])).behind_word (by decide)
    have hoperands := ((ih l (by simp [children])).before hright).parens
    rw [text_binary]
    have hname : Avoids framing (lower op.name) := (avoids_operator op).lower (List.Subset.refl _)
    exact ((hoperands.behind (.word hname)).behind_word (by decide)).behind_word (by decide)
  | store v value =>
    have hvalue := (ih value (by simp [children])).parens
    rw [text_store]
    exact ((hvalue.behind (.name hn)).behind_word (by decide)).behind_word (by decide)
  | branch target =>
    rw [text_branch]
    exact ((Laid.name hn).behind_word (by decide)).behind_word (by decide)
  | cond c yes no =>
    have hcondition := (ih c (by simp [children])).parens
    have hyes : Laid chars (" " ++ yes.text) [] :=
      (ih yes (by simp [children])).behind_word (by decide)
    have harms := hyes.before (laid_otherText (ih no (by simp [children])))
    rw [text_cond]
    exact ((hcondition.before harms).behind_word (by decide)).behind_word (by decide)
  | call arguments method =>
    have harguments := (laid_texts ih).parens
    rw [text_call]
    exact ((harguments.behind (.name hn)).behind_word (by decide)).behind_word (by decide)
  | leave target value =>
    have hvalue := laid_valueText (ih value (by simp [children]))
    rw [text_leave]
    exact ((hvalue.behind (.name hn)).behind_word (by decide)).behind_word (by decide)
  | block b =>
    rw [text_block]
    exact laid_heading (by decide) hn ((Laid.word (avoids_natural _)).before_word (by decide))
  | container head blocks =>
    rw [text_container]
    exact laid_heading (by decide) hn (.word (avoids_containerKind head.kind))

end Node

namespace C

open Logged Text

/-! ### Warnings -/

/-- What the lowering warns of, in a log. -/
def warnings (log : List Record) : List Text :=
  (log.filter fun r ↦ r.level == .warning && r.component == .generator).map Record.text

/-- A lowering that gives a result and warns of these diagnostics, in this order. -/
structure Warns {α : Type} (x : Lower α) (a : α) (ds : List Text) : Prop where
  /-- It gives the result. -/
  outcome : x.outcome = .ok a
  /-- It warns of the diagnostics. -/
  log : warnings x.log = ds

section

variable {α β : Type} {x : Lower α} {a : α} {b : β} {ds es : List Text}

theorem warns_pure (a : α) : Warns (pure a : Lower α) a [] := ⟨rfl, rfl⟩

theorem warns_say {level : Level} {component : Component} {text : Text} (h : level ≠ .warning) :
    Warns (say level component text : Lower Unit) () [] := by
  refine ⟨rfl, ?_⟩
  simp [say, warnings, h]

theorem Warns.bind {f : α → Lower β} (hx : Warns x a ds) (hf : Warns (f a) b es) :
    Warns (x >>= f) b (ds ++ es) := by
  rw [bind_of_ok hx.outcome]
  refine ⟨hf.outcome, ?_⟩
  rw [warnings, List.filter_append, List.map_append]
  exact congrArg₂ (· ++ ·) hx.log hf.log

theorem Warns.map (hx : Warns x a ds) (f : α → β) : Warns (f <$> x) (f a) ds := by
  rw [map_eq_pure_bind, ← List.append_nil ds]
  exact hx.bind (warns_pure (f a))

theorem warns_recover {u : Unsupported} (h : u.isWritable) :
    Warns (recover .bestEffort u) u.diagnostic [u.diagnostic] := by
  rw [recover, if_pos h]
  exact ⟨rfl, rfl⟩

/-- Of a list, each part may be lowered by itself. -/
theorem exists_warns_mapM {f : α → Lower β} {R : β → List Text → Prop} {as : List α}
    (h : ∀ a ∈ as, ∃ b ds, Warns (f a) b ds ∧ R b ds) :
    ∃ bs dss, Warns (as.mapM f) bs dss.flatten ∧ List.Forall₂ R bs dss := by
  induction as with
  | nil => exact ⟨[], [], warns_pure [], .nil⟩
  | cons a as ih =>
    obtain ⟨b, ds, hb, hR⟩ := h a (List.mem_cons_self ..)
    obtain ⟨bs, dss, hbs, hall⟩ := ih fun c hc ↦ h c (List.mem_cons_of_mem a hc)
    refine ⟨b :: bs, ds :: dss, ?_, .cons hR hall⟩
    have hpure := hbs.bind (f := fun bs ↦ pure (b :: bs)) (warns_pure (b :: bs))
    rw [List.append_nil] at hpure
    rw [List.mapM_cons, List.flatten_cons]
    exact hb.bind hpure

end

/-- A lowering in best effort that gives a result, whose text is laid out with the diagnostics that
are warned of. -/
def IsLaidOut {α : Type} (chars : List Char) (text : α → Text) (x : Lower α) : Prop :=
  ∃ a ds, Warns x a ds ∧ Laid chars (text a) ds

variable {chars : List Char} {α : Type} {text : α → Text}

theorem isLaidOut_pure {a : α} (h : Laid chars (text a) []) :
    IsLaidOut chars text (pure a : Lower α) :=
  ⟨a, [], warns_pure a, h⟩

/-- What is made of a result is laid out if it holds the diagnostics of the result. -/
theorem IsLaidOut.map {β : Type} {text' : β → Text} {x : Lower α} {f : α → β}
    (h : IsLaidOut chars text x)
    (hf : ∀ a ds, Laid chars (text a) ds → Laid chars (text' (f a)) ds) :
    IsLaidOut chars text' (f <$> x) := by
  obtain ⟨a, ds, hwarns, hlaid⟩ := h
  exact ⟨f a, ds, hwarns.map f, hf a ds hlaid⟩

/-- **What is not supported** is laid out as its diagnostic. -/
theorem isLaidOut_recover {u : Unsupported} (hwritable : u.isWritable)
    (hwhat : Laid chars u.what []) {f : Text → α} (hf : ∀ t, text (f t) = t) :
    IsLaidOut chars text (f <$> recover .bestEffort u) := by
  refine ⟨f u.diagnostic, [u.diagnostic], (warns_recover hwritable).map f, ?_⟩
  rw [hf]
  exact .diagnostic hwhat

theorem isLaidOut_mapM {β : Type} {f : β → Lower α} {bs : List β} {between : Text}
    (hbetween : Laid chars between []) (h : ∀ b ∈ bs, IsLaidOut chars text (f b)) :
    IsLaidOut chars (fun as ↦ joined between (as.map text)) (bs.mapM f) := by
  obtain ⟨as, dss, hwarns, hall⟩ := exists_warns_mapM h
  exact ⟨as, dss.flatten, hwarns, .joined hbetween (List.forall₂_map_left_iff.2 hall)⟩

/-! ### Expressions -/

/-- What the layout of a tree is about: its nodes are ordinary, and what they name is free of the
characters. -/
def IsPlain (chars : List Char) (n : Node) : Prop := n.IsOrdinary ∧ n.NamesAvoid chars

/-- A word with a literal in front. -/
theorem avoids_phrase {cs : List Char} {word : String} (h : framing.any cs.contains = false)
    (hword : Avoids framing word) : Avoids framing (ofString (String.ofList cs ++ word)) := by
  rw [ofString_append]
  exact avoids_append.2 ⟨avoids_ofList h, hword⟩

theorem avoids_relation (rel : Relation) : Avoids framing rel.symbol := by
  cases rel <;> exact avoids_ofList (by decide)

theorem avoids_comparison (kind : ComparisonKind) :
    Avoids framing (Unsupported.comparison kind).what :=
  avoids_phrase (by decide) (by cases kind <;> exact avoids_ofList (by decide))

theorem avoids_unknownOperator (op : BinaryOperator) :
    Avoids framing (Unsupported.operator op).what :=
  avoids_phrase (by decide) (Node.avoids_operator op)

theorem avoids_className (n : Node) : Avoids framing n.className := by
  cases n <;> exact avoids_ofList (by decide)

theorem avoids_expression (n : Node) : Avoids framing (Unsupported.expression n).what :=
  avoids_phrase (by decide) (avoids_className n)

theorem isLaidOut_lowerExpr {n : Node} (h : ∀ m ∈ n.nodes, IsPlain chars m) :
    IsLaidOut chars Expr.text (lowerExpr .bestEffort n) := by
  refine lowerExpr_induction (motive := fun n x ↦ (∀ m ∈ n.nodes, IsPlain chars m) →
    IsLaidOut chars Expr.text (x .bestEffort))
    ?constant ?tooLong ?load ?relation ?sum ?comparison ?operator ?other n h
  case constant => exact fun value _ _ ↦ isLaidOut_pure (.word (avoids_integer value))
  case tooLong =>
    intro value hlong h
    have hordinary := (Node.forall_nodes_iff.1 h).1.1
    cases hlong.symm.trans (Node.isWritable_of_int32 hordinary)
  case load => exact fun v h ↦ isLaidOut_pure (.name (Node.forall_nodes_iff.1 h).1.2)
  case relation =>
    intro kind rel l r _ ihl ihr h
    obtain ⟨-, hbelow⟩ := Node.forall_nodes_iff.1 h
    obtain ⟨a, ds, ha, hlaid⟩ := ihl (hbelow l (by simp [Node.children]))
    obtain ⟨b, es, hb, hlaid'⟩ := ihr (hbelow r (by simp [Node.children]))
    have hleft : Laid chars (a.text ++ " " ++ rel.symbol ++ " ") ds :=
      ((hlaid.before_word (by decide)).before (.word (avoids_relation rel))).before_word
        (by decide)
    exact ⟨.relation rel a b, ds ++ es, ha.bind (hb.map _), hleft.append hlaid'⟩
  case sum =>
    intro l r ihl ihr h
    obtain ⟨-, hbelow⟩ := Node.forall_nodes_iff.1 h
    obtain ⟨a, ds, ha, hlaid⟩ := ihl (hbelow l (by simp [Node.children]))
    obtain ⟨b, es, hb, hlaid'⟩ := ihr (hbelow r (by simp [Node.children]))
    exact ⟨.sum a b, ds ++ es, ha.bind (hb.map _), (hlaid.before_word (by decide)).append hlaid'⟩
  case comparison =>
    exact fun kind _ _ _ _ ↦ isLaidOut_recover rfl (.word (avoids_comparison kind)) fun _ ↦ rfl
  case operator =>
    intro op _ _ _ _
    exact isLaidOut_recover rfl (.word (avoids_unknownOperator op)) fun _ ↦ rfl
  case other =>
    exact fun n _ _ ↦ isLaidOut_recover rfl (.word (avoids_expression n)) fun _ ↦ rfl

/-! ### Statements -/

theorem avoids_statement (n : Node) : Avoids framing (Unsupported.statement n).what :=
  avoids_phrase (by decide) (avoids_className n)

theorem avoids_container (kind : ContainerKind) :
    Avoids framing (Unsupported.container kind).what :=
  avoids_phrase (by decide) (Node.avoids_containerKind kind)

theorem avoids_block (kind : BlockKind) : Avoids framing (Unsupported.block kind).what :=
  avoids_phrase (by decide) (by cases kind <;> exact avoids_ofList (by decide))

theorem laid_call (method : Text) (count : Nat) (h : method.Avoids chars) :
    Laid chars (Unsupported.call (.string method) count).what [] := by
  have hwhat : (Unsupported.call (.string method) count).what =
      "call " ++ method ++ (" with " ++ ofString (toString count) ++ " arguments") := by
    simp only [Unsupported.what, ofString_append]
    rfl
  have hcount : Laid chars (" with " ++ ofString (toString count) ++ " arguments") [] :=
    ((Laid.word (avoids_natural count)).behind_word (by decide)).before_word (by decide)
  rw [hwhat]
  exact ((Laid.name h).behind_word (by decide)).before hcount

theorem laid_leave (kind : ContainerKind) {value : Node} (h : ∀ m ∈ value.nodes, IsPlain chars m) :
    Laid chars (Unsupported.leave kind value).what [] := by
  have hfront : Laid chars ("leave " ++ ofString kind.name ++ " ") [] :=
    ((Laid.literal (by decide)).before (.word (Node.avoids_containerKind kind))).before_word
      (by decide)
  exact hfront.before (Node.laid_text fun m hm ↦ (h m hm).2)

theorem Laid.braced (h : Laid chars t ds) : Laid chars (braced t) ds := by
  have htext : C.braced t = "\x7b" ++ (" " ++ t ++ " ") ++ "\x7d" := by
    simp only [C.braced, List.append_assoc]
    rfl
  rw [htext]
  exact ((h.behind_word (by decide)).before_word (by decide)).braces

theorem laid_print {e : Expr} (h : Laid chars e.text ds) : Laid chars (Stmt.print e).text ds := by
  have htext : (Stmt.print e).text =
      "printf" ++ ("(" ++ ("\"%d\\n\", " ++ e.text) ++ ")") ++ ";" := by
    simp only [Stmt.text, List.append_assoc]
    rfl
  rw [htext]
  exact ((h.behind_word (by decide)).parens.behind_word (by decide)).before_word (by decide)

/-- A condition stands in brackets. -/
theorem laid_condition {c : Text} (h : Laid chars c ds) : Laid chars ("if (" ++ c ++ ") ") ds := by
  have htext : "if (" ++ c ++ ") " = "if " ++ ("(" ++ c ++ ")") ++ " " := by
    simp only [List.append_assoc]
    rfl
  rw [htext]
  exact (h.parens.behind_word (by decide)).before_word (by decide)

theorem laid_ifThen {c : Expr} {yes : Stmt} (hc : Laid chars c.text ds)
    (hyes : Laid chars yes.text es) : Laid chars (Stmt.ifThen c yes).text (ds ++ es) := by
  rw [Stmt.text_ifThen]
  exact (laid_condition hc).append hyes.braced

theorem laid_ifElse {c : Expr} {yes no : Stmt} {fs : List Text} (hc : Laid chars c.text ds)
    (hyes : Laid chars yes.text es) (hno : Laid chars no.text fs) :
    Laid chars (Stmt.ifElse c yes no).text (ds ++ (es ++ fs)) := by
  rw [Stmt.text_ifElse, ← List.append_assoc]
  exact (((laid_condition hc).append hyes.braced).before_word (by decide)).append hno.braced

theorem laid_loop {parts : List Stmt} (h : Laid chars (Stmt.onLines (Stmt.texts parts)) ds) :
    Laid chars (Stmt.loop parts).text ds := by
  have hone : Laid chars (ofString "1") [] := .literal (by decide)
  have htext : ofString "while (1) " = "while " ++ ("(" ++ ofString "1" ++ ")") ++ " " := rfl
  rw [Stmt.text_loop, htext]
  exact h.braced.behind ((hone.parens.behind_word (by decide)).before_word (by decide))

theorem laid_sequence {parts : List Stmt} (h : Laid chars (Stmt.onLines (Stmt.texts parts)) ds) :
    Laid chars (Stmt.sequence parts).text ds := by
  cases parts with
  | nil =>
    obtain rfl : ds = [] := h.eq_nil_of_text rfl
    exact .literal (by decide)
  | cons s rest => exact h

theorem isLaidOut_lowerAll {ns : List Node}
    (h : ∀ n ∈ ns, IsLaidOut chars Stmt.text (lowerStmt .bestEffort n)) :
    IsLaidOut chars (fun ss ↦ Stmt.onLines (Stmt.texts ss)) (lowerAll .bestEffort ns) := by
  simp only [lowerAll_eq_mapM, Stmt.texts_eq_map, Stmt.onLines]
  exact isLaidOut_mapM (.literal (by decide)) h

theorem isLaidOut_lowerStmt {n : Node} (h : ∀ m ∈ n.nodes, IsPlain chars m) :
    IsLaidOut chars Stmt.text (lowerStmt .bestEffort n) := by
  refine lowerStmt_induction (motive := fun n x ↦ (∀ m ∈ n.nodes, IsPlain chars m) →
    IsLaidOut chars Stmt.text (x .bestEffort))
    ?store ?branch ?ifThen ?ifElse ?print ?exitLoop ?exitFunction ?sequence ?loop ?scope
    ?call ?leave ?block ?container ?other n h
  case store =>
    intro v value h
    obtain ⟨⟨-, hname⟩, hbelow⟩ := Node.forall_nodes_iff.1 h
    have hfront : Laid chars (v.name ++ " = ") [] := (Laid.name hname).before_word (by decide)
    exact (isLaidOut_lowerExpr (hbelow value (by simp [Node.children]))).map fun e ds hlaid ↦
      (hlaid.behind hfront).before_word (by decide)
  case branch => exact fun _ _ ↦ isLaidOut_pure (.literal (by decide))
  case ifThen =>
    intro c yes no _ ihyes h
    obtain ⟨-, hbelow⟩ := Node.forall_nodes_iff.1 h
    obtain ⟨e, ds, he, hlaid⟩ := isLaidOut_lowerExpr (hbelow c (by simp [Node.children]))
    obtain ⟨s, es, hs, hlaids⟩ := ihyes (hbelow yes (by simp [Node.children]))
    exact ⟨.ifThen e s, ds ++ es, he.bind (hs.map _), laid_ifThen hlaid hlaids⟩
  case ifElse =>
    intro c yes no _ ihyes ihno h
    obtain ⟨-, hbelow⟩ := Node.forall_nodes_iff.1 h
    obtain ⟨e, ds, he, hlaid⟩ := isLaidOut_lowerExpr (hbelow c (by simp [Node.children]))
    obtain ⟨s, es, hs, hlaids⟩ := ihyes (hbelow yes (by simp [Node.children]))
    obtain ⟨t, fs, ht, hlaidt⟩ := ihno (hbelow no (by simp [Node.children]))
    exact ⟨.ifElse e s t, ds ++ (es ++ fs), he.bind (hs.bind (ht.map _)),
      laid_ifElse hlaid hlaids hlaidt⟩
  case print =>
    intro argument method h
    obtain ⟨-, hbelow⟩ := Node.forall_nodes_iff.1 h
    exact (isLaidOut_lowerExpr (hbelow argument (List.mem_singleton_self _))).map
      fun _ _ hlaid ↦ laid_print hlaid
  case exitLoop | exitFunction => exact fun _ _ _ _ ↦ isLaidOut_pure (.literal (by decide))
  case sequence =>
    intro head instructions _ ih h
    obtain ⟨-, hbelow⟩ := Node.forall_nodes_iff.1 h
    exact (isLaidOut_lowerAll fun i hi ↦ ih i hi (hbelow i hi)).map
      fun _ _ hlaid ↦ laid_sequence hlaid
  case loop =>
    intro head blocks _ ih h
    obtain ⟨-, hbelow⟩ := Node.forall_nodes_iff.1 h
    exact (isLaidOut_lowerAll fun b hb ↦ ih b hb (hbelow b hb)).map fun _ _ hlaid ↦ laid_loop hlaid
  case scope =>
    intro head blocks _ ih h
    obtain ⟨-, hbelow⟩ := Node.forall_nodes_iff.1 h
    exact (isLaidOut_lowerAll fun b hb ↦ ih b hb (hbelow b hb)).map fun _ _ hlaid ↦ hlaid.braced
  case call =>
    intro arguments method _ h
    obtain ⟨⟨⟨t, rfl⟩, hmethod⟩, -⟩ := Node.forall_nodes_iff.1 h
    exact isLaidOut_recover (u := .call (.string t) _) (Value.isShowable_string t)
      (laid_call t _ hmethod) fun _ ↦ rfl
  case leave =>
    intro target value _ _ h
    have hvalue := (Node.forall_nodes_iff.1 h).2 value (List.mem_singleton_self _)
    have hwritable : value.isWritable := Node.isWritable_of_isOrdinary fun m hm ↦ (hvalue m hm).1
    exact isLaidOut_recover (u := .leave _ value) hwritable (laid_leave _ hvalue) fun _ ↦ rfl
  case block =>
    exact fun head _ _ _ ↦ isLaidOut_recover rfl (.word (avoids_block head.kind)) fun _ ↦ rfl
  case container =>
    exact fun head _ _ _ _ ↦
      isLaidOut_recover rfl (.word (avoids_container head.kind)) fun _ ↦ rfl
  case other =>
    exact fun n _ _ ↦ isLaidOut_recover rfl (.word (avoids_statement n)) fun _ ↦ rfl

/-! ### Functions -/

theorem avoids_type (type : PrimitiveType) : Avoids framing type.name := by
  cases type <;> exact avoids_ofList (by decide)

theorem avoids_cType (type : CType) : Avoids framing type.text := by
  cases type <;> exact avoids_ofList (by decide)

theorem isLaidOut_lowerDeclaration {v : Variable} (h : v.name.Avoids chars) :
    IsLaidOut chars Declaration.text (lowerDeclaration .bestEffort v) := by
  rw [lowerDeclaration]
  cases typeOf? v.type with
  | some type =>
    have hfront : Laid chars (ofString type.text ++ " ") [] :=
      (Laid.word (avoids_cType type)).before_word (by decide)
    exact isLaidOut_pure ((hfront.before (.name h)).before_word (by decide))
  | none =>
    have hfront : Laid chars ("variable type " ++ ofString v.type.name ++ " ") [] :=
      ((Laid.literal (by decide)).before (.word (avoids_type v.type))).before_word (by decide)
    exact isLaidOut_recover rfl (hfront.before (.name h)) fun _ ↦ rfl

theorem SourceFile.laid_text {file : SourceFile} {dss : List (List Text)} {ds : List Text}
    (hname : Laid chars file.name [])
    (hdeclarations : List.Forall₂ (fun d ↦ Laid chars d.text) file.declarations dss)
    (hbody : Laid chars file.body.text ds) : Laid chars file.text (dss.flatten ++ ds) := by
  have htext : file.text = prologue ++ file.name ++ ("(" ++ ([] : Text) ++ ")") ++ " " ++ ("\x7b" ++
      ((file.declarations.map Declaration.text).flatMap (ofString "\n" ++ ·) ++
        (ofString "\n" ++ file.body.text) ++ "\n") ++ "\x7d") := by
    have hopen : ofString "() \x7b" = "(" ++ ofString ")" ++ " " ++ "\x7b" := by decide
    have hclose : ofString "\n\x7d" = "\n" ++ ofString "\x7d" := by decide
    simp only [text_eq, hopen, hclose, List.flatMap_map, List.append_assoc, List.nil_append]
  have hline : Laid chars (ofString "\n") [] := .literal (by decide)
  have hinside := ((Laid.flatMap hline (List.forall₂_map_left_iff.2 hdeclarations)).append
    (hbody.behind hline)).before hline
  have hincludes : Laid chars prologue [] :=
    (((Laid.literal (by decide)).before_word (by decide)).before_word (by decide)).before_word
      (by decide)
  have hparens : Laid chars ("(" ++ ([] : Text) ++ ")") [] := (Laid.word avoids_nil).parens
  have hfront : Laid chars (prologue ++ file.name ++ ("(" ++ ([] : Text) ++ ")") ++ " ") [] :=
    ((hname.behind hincludes).before hparens).before_word (by decide)
  rw [htext]
  exact (Laid.braces hinside).behind hfront

/-- **What best effort writes** is laid out with the diagnostics that it warns of. -/
theorem isLaidOut_generate {f : Function} (hordinary : f.IsOrdinary)
    (hchars : chars ⊆ framing) (hnames : f.NamesAvoid chars) :
    IsLaidOut chars id (generate .bestEffort f) := by
  obtain ⟨declarations, dss, hds, hdeclarations⟩ := exists_warns_mapM fun v hv ↦
    isLaidOut_lowerDeclaration (hnames.locals v hv)
  obtain ⟨body, es, hbody, hlaid⟩ := isLaidOut_lowerStmt (n := f.body) fun m hm ↦
    ⟨hordinary m hm, hnames.body m hm⟩
  have hsay : Warns (say .debug .generator ("Generating C for " ++ f.name)) () [] :=
    warns_say (by decide)
  have hfile : Warns (lowerFunction .bestEffort f) ⟨lower f.name, declarations, body⟩
    (dss.flatten ++ es) := hsay.bind (hds.bind (hbody.map _))
  refine ⟨_, _, hfile.map SourceFile.text, ?_⟩
  exact SourceFile.laid_text (.name (hnames.name.lower hchars)) hdeclarations hlaid

end C

end StructuredIL
