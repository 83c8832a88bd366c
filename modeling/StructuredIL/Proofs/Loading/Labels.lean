import StructuredIL.Proofs.Document.Sameness
import StructuredIL.Proofs.Loading.Evaluation
import StructuredIL.Proofs.Loading.Legibility

/-!
# Labels of blocks

A block is named by its label, and a branch goes to the first block of the label that it names. A
block without a label is given one that tells its place. No two places have one label
(`Build.placeLabel_injective`), but a block may be labelled by the document as another one is by its
place, and then there are two blocks of one label.

So labels that differ in the document differ in the tree exactly if no block is labelled as one
without a label is by its place, and exactly then every branch to a label goes to the one block that
has it (`Function.IsLoadedFrom.labels_differ_iff`). That a branch is told the same label as two
blocks is excluded by `Value.same_of_same`.
-/

namespace StructuredIL

/-! ### Places -/

theorem Document.digitsValue_append (digits : List Char) (c : Char) :
    digitsValue 16 (digits ++ [c]) = digitsValue 16 digits * 16 + (hexValue? c).getD 0 := by
  rw [digitsValue, digitsValue, List.foldl_append]
  rfl

theorem Document.hexValue?_digitChar {d : Nat} (h : d < 16) :
    hexValue? (Nat.digitChar d) = some d := by
  revert d
  decide

/-- Hexadecimal digits are read back as the number that they are written for. -/
theorem Document.digitsValue_hexDigits (width n : Nat) :
    digitsValue 16 (Text.hexDigits width n) = n := by
  have hdigits : digitsValue 16 (Nat.toDigits 16 n) = n := by
    induction n using Nat.strong_induction_on with
    | _ n ih =>
      by_cases hn : n < 16
      · rw [Nat.toDigits_of_lt_base hn, ← List.nil_append [_], digitsValue_append,
          hexValue?_digitChar hn]
        exact Nat.zero_add n
      · rw [Nat.toDigits_of_base_le (by omega) (by omega), digitsValue_append,
          hexValue?_digitChar (Nat.mod_lt n (by omega)), ih (n / 16) (by omega)]
        exact Nat.div_add_mod' n 16
  rw [Text.hexDigits, digitsValue, List.foldl_append]
  have hzeros (k : Nat) : (List.replicate k '0').foldl
      (fun n c ↦ n * 16 + (hexValue? c).getD 0) 0 = 0 := by
    induction k with
    | zero => rfl
    | succ k ih => exact ih
  rw [hzeros]
  exact hdigits

/-- **No two places have one label.** -/
theorem Build.placeLabel_injective : Function.Injective Build.placeLabel := by
  intro i j h
  have hchars := congrArg String.toList h
  rw [placeLabel, placeLabel, String.toList_append, String.toList_append,
    List.append_cancel_left_eq, String.toList_ofList, String.toList_ofList] at hchars
  calc
    i = Document.digitsValue 16 (Text.hexDigits 4 i) := (Document.digitsValue_hexDigits 4 i).symm
    _ = Document.digitsValue 16 (Text.hexDigits 4 j) := by rw [hchars]
    _ = j := Document.digitsValue_hexDigits 4 j

namespace Value

/-! ### Labels that differ -/

/-- No two of some labels are the same. -/
def Differ (labels : List Value) : Prop := labels.Pairwise fun v w ↦ v.same w = false

/-- The label that the document gives a block. -/
def explicitLabel? (data : Value) : Option Value := (data.get? "label").filter isTruthy

/-- The labels that the document gives some blocks. -/
def explicitLabels (items : List Value) : List Value := items.filterMap explicitLabel?

/-- No block, from an index on, is labelled by the document as one without a label is by its
place. -/
def AvoidPlaces (items : List Value) : Prop :=
  ∀ i item, items[i]? = some item → item.explicitLabel? = none →
    .string (Build.placeLabel i) ∉ explicitLabels items

theorem labelOr_eq (data : Value) (unlabelled : String) :
    data.labelOr unlabelled = data.explicitLabel?.getD (.string unlabelled) := by
  rw [labelOr, orElse.eq_def, explicitLabel?]
  cases data.get? "label" with
  | none => rfl
  | some v => cases hv : v.isTruthy <;> simp [Option.filter_some, hv]

theorem blockLabels_getElem? (index : Nat) (items : List Value) (i : Nat) :
    (blockLabels index items)[i]? =
      items[i]?.map fun item ↦ item.labelOr (Build.placeLabel (index + i)) := by
  induction items generalizing index i with
  | nil => rfl
  | cons item rest ih =>
    cases i with
    | zero => rfl
    | succ i =>
      rw [blockLabels, List.getElem?_cons_succ, ih, List.getElem?_cons_succ]
      simp only [Nat.add_assoc, Nat.add_comm 1]

/-- Only a text is the same as a text. -/
theorem eq_of_same_string {v : Value} {t : Text} (h : v.same (.string t) = true) :
    v = .string t := by
  obtain ⟨_, _, -, h, -⟩ | ⟨_, _, -, h, -⟩ | ⟨-, h⟩ := same_cases h
  · cases h
  · cases h
  · cases v with
    | string s =>
      cases h
      rfl
    | float x => cases x <;> cases h
    | _ => cases h

theorem differ_iff {labels : List Value} :
    Differ labels ↔ ∀ (i j : Nat) (v w : Value), i < j → labels[i]? = some v →
      labels[j]? = some w → v.same w = false := by
  rw [Differ, List.pairwise_iff_getElem]
  constructor
  · intro h i j v w hij hv hw
    obtain ⟨hi, rfl⟩ := List.getElem?_eq_some_iff.1 hv
    obtain ⟨hj, rfl⟩ := List.getElem?_eq_some_iff.1 hw
    exact h i j hi hj hij
  · intro h i j hi hj hij
    exact h i j _ _ hij (List.getElem?_eq_getElem hi) (List.getElem?_eq_getElem hj)

theorem differ_explicitLabels_iff {items : List Value} :
    Differ (explicitLabels items) ↔ ∀ (i j : Nat) (c d v w : Value), i < j →
      items[i]? = some c → items[j]? = some d → c.explicitLabel? = some v →
      d.explicitLabel? = some w → v.same w = false := by
  rw [Differ, explicitLabels, List.pairwise_filterMap, List.pairwise_iff_getElem]
  constructor
  · intro h i j c d v w hij hc hd hv hw
    obtain ⟨hi, rfl⟩ := List.getElem?_eq_some_iff.1 hc
    obtain ⟨hj, rfl⟩ := List.getElem?_eq_some_iff.1 hd
    exact h i j hi hj hij v hv w hw
  · intro h i j hi hj hij v hv w hw
    exact h i j _ _ v w hij (List.getElem?_eq_getElem hi) (List.getElem?_eq_getElem hj) hv hw

/-- **The labels of all blocks differ**, if those in the document do, exactly if no block is
labelled as another one by its place. -/
theorem differ_blockLabels_iff {items : List Value} (hexplicit : Differ (explicitLabels items)) :
    Differ (blockLabels 0 items) ↔ AvoidPlaces items := by
  have hlabel {i : Nat} {item : Value} (hi : items[i]? = some item) :
      (blockLabels 0 items)[i]? =
        some (item.explicitLabel?.getD (.string (Build.placeLabel i))) := by
    rw [blockLabels_getElem?, hi, Option.map_some, labelOr_eq, Nat.zero_add]
  constructor
  · intro h i c hc hnone hmem
    obtain ⟨d, hd, hsome⟩ := List.mem_filterMap.1 hmem
    obtain ⟨j, hj⟩ := List.mem_iff_getElem?.1 hd
    have hci := hlabel hc
    have hdj := hlabel hj
    rw [hnone, Option.getD_none] at hci
    rw [hsome, Option.getD_some] at hdj
    have hsame := same_string (Build.placeLabel i) (Build.placeLabel i)
    rw [beq_self_eq_true] at hsame
    obtain hij | rfl | hji := Nat.lt_trichotomy i j
    · exact absurd hsame (by simp [differ_iff.1 h i j _ _ hij hci hdj])
    · rw [hc] at hj
      cases hj
      rw [hnone] at hsome
      cases hsome
    · exact absurd hsame (by simp [differ_iff.1 h j i _ _ hji hdj hci])
  · intro h
    refine differ_iff.2 fun i j v w hij hv hw ↦ ?_
    rw [blockLabels_getElem?, Nat.zero_add] at hv hw
    obtain ⟨c, hc, rfl⟩ := Option.map_eq_some_iff.1 hv
    obtain ⟨d, hd, rfl⟩ := Option.map_eq_some_iff.1 hw
    rw [labelOr_eq, labelOr_eq]
    refine Bool.eq_false_iff.2 fun hsame ↦ ?_
    cases hcl : c.explicitLabel? with
    | some v =>
      rw [hcl, Option.getD_some] at hsame
      cases hdl : d.explicitLabel? with
      | some w =>
        rw [hdl, Option.getD_some] at hsame
        have := differ_explicitLabels_iff.1 hexplicit i j c d v w hij hc hd hcl hdl
        rw [hsame] at this
        cases this
      | none =>
        rw [hdl, Option.getD_none] at hsame
        rw [eq_of_same_string hsame] at hcl
        exact h j d hd hdl (List.mem_filterMap.2 ⟨c, List.mem_of_getElem? hc, hcl⟩)
    | none =>
      rw [hcl, Option.getD_none] at hsame
      cases hdl : d.explicitLabel? with
      | some w =>
        rw [hdl, Option.getD_some] at hsame
        rw [eq_of_string_same hsame] at hdl
        exact h i c hc hcl (List.mem_filterMap.2 ⟨d, List.mem_of_getElem? hd, hdl⟩)
      | none =>
        rw [hdl, Option.getD_none, same_string, beq_iff_eq] at hsame
        have := Build.placeLabel_injective (Text.ofString_inj.1 hsame)
        omega

/-! ### Parts of a document -/

/-- What a load may come to from a value: its members, and what a walk over it meets, and so on. -/
inductive HasPart : Value → Value → Prop
  | refl (v : Value) : HasPart v v
  | member {v w u : Value} {key : Text} : v.get? key = some w → HasPart w u → HasPart v u
  | element {v w u : Value} {items : List Value} : v.elements? = some items → w ∈ items →
      HasPart w u → HasPart v u

theorem hasUniqueNames_of_get? {v w : Value} {key : Text} (h : v.get? key = some w)
    (hv : v.hasUniqueNames = true) : w.hasUniqueNames = true := by
  cases v with
  | object members => exact (hasUniqueNames_object.1 hv).2 _ (mem_of_member? h)
  | _ => cases h

theorem hasUniqueNames_of_elements? {v w : Value} {items : List Value}
    (h : v.elements? = some items) (hw : w ∈ items) (hv : v.hasUniqueNames = true) :
    w.hasUniqueNames = true := by
  cases v with
  | list xs =>
    cases h
    exact hasUniqueNames_list.1 hv w hw
  | string s =>
    cases h
    obtain ⟨p, -, rfl⟩ := List.mem_map.1 hw
    rfl
  | object members =>
    cases h
    obtain ⟨m, -, rfl⟩ := List.mem_map.1 hw
    rfl
  | _ => cases h

theorem HasPart.hasUniqueNames {v u : Value} (h : v.HasPart u) (hv : v.hasUniqueNames = true) :
    u.hasUniqueNames = true := by
  induction h with
  | refl => exact hv
  | member hget _ ih => exact ih (hasUniqueNames_of_get? hget hv)
  | element helements hw _ ih => exact ih (hasUniqueNames_of_elements? helements hw hv)

theorem HasPart.trans {v w u : Value} (hvw : v.HasPart w) (hwu : w.HasPart u) : v.HasPart u := by
  induction hvw with
  | refl => exact hwu
  | member hget _ ih => exact .member hget (ih hwu)
  | element helements hw _ ih => exact .element helements hw (ih hwu)

theorem HasPart.of_mem_walkOf? {data item u : Value} {key : String} {items : List Value}
    (h : data.walkOf? key = some items) (hitem : item ∈ items) (hu : item.HasPart u) :
    data.HasPart u := by
  cases hget : data.get? key with
  | none => simp_all [walkOf?]
  | some v =>
    rw [walkOf?, hget] at h
    exact .member hget (.element h hitem hu)

theorem hasUniqueNames_labelOr {data : Value} (unlabelled : String)
    (h : data.hasUniqueNames = true) : (data.labelOr unlabelled).hasUniqueNames = true := by
  rw [labelOr, orElse.eq_def]
  cases hlabel : data.get? "label" with
  | none => rfl
  | some v =>
    dsimp only
    split
    · exact hasUniqueNames_of_get? hlabel h
    · rfl

theorem hasUniqueNames_of_mem_blockLabels {index : Nat} {items : List Value}
    (h : ∀ item ∈ items, item.hasUniqueNames = true) {label : Value}
    (hlabel : label ∈ blockLabels index items) : label.hasUniqueNames = true := by
  obtain ⟨i, hi⟩ := List.mem_iff_getElem?.1 hlabel
  rw [blockLabels_getElem?] at hi
  obtain ⟨item, hitem, rfl⟩ := Option.map_eq_some_iff.1 hi
  exact hasUniqueNames_labelOr _ (h item (List.mem_of_getElem? hitem))

end Value

/-! ### Containers of a loaded tree -/

section

variable {s : LoadSettings} {locals : List Variable} {around : List OpenContainer}

/-- A container is what a part of a value describes. -/
def Node.IsDescribedIn (s : LoadSettings) (locals : List Variable) (data : Value) (n : Node) :
    Prop :=
  ∃ inner d, data.HasPart d ∧ n.Realizes s locals inner d

namespace Node.IsDescribedIn

variable {n : Node} {data item : Value} {key : String}

theorem of_get? (hget : data.get? key = some item) (h : n.IsDescribedIn s locals item) :
    n.IsDescribedIn s locals data := by
  obtain ⟨inner, d, hd, hn⟩ := h
  exact ⟨inner, d, .member hget hd, hn⟩

theorem of_given? (hgiven : data.given? key = some item) (h : n.IsDescribedIn s locals item) :
    n.IsDescribedIn s locals data :=
  h.of_get? (Value.given?_eq_some.1 hgiven).1

theorem of_walkOf? {items : List Value} (hitems : data.walkOf? key = some items)
    (hitem : item ∈ items) (h : n.IsDescribedIn s locals item) :
    n.IsDescribedIn s locals data := by
  obtain ⟨inner, d, hd, hn⟩ := h
  exact ⟨inner, d, .of_mem_walkOf? hitems hitem hd, hn⟩

end Node.IsDescribedIn

/-- **Every container of a tree** is what a part of its document describes. -/
theorem Node.Realizes.isDescribedIn {n : Node} {data : Value}
    (h : n.Realizes s locals around data) {head : ContainerHead} {blocks : List Block}
    (hmem : Node.container head blocks ∈ n.nodes) :
    (Node.container head blocks).IsDescribedIn s locals data := by
  induction n using Node.induction generalizing around data with
  | nop | bare | constant | load | branch => simp [Node.nodes] at hmem
  | compare kind l r ihl ihr =>
    obtain ⟨-, -, ⟨_, hgetl, hl⟩, ⟨_, hgetr, hr⟩⟩ := h
    obtain hmem | hmem : _ ∈ l.nodes ∨ _ ∈ r.nodes := by simpa [Node.nodes] using hmem
    · exact (ihl hl hmem).of_get? hgetl
    · exact (ihr hr hmem).of_get? hgetr
  | binary op l r ihl ihr =>
    obtain ⟨-, -, ⟨_, hgetl, hl⟩, ⟨_, hgetr, hr⟩⟩ := h
    obtain hmem | hmem : _ ∈ l.nodes ∨ _ ∈ r.nodes := by simpa [Node.nodes] using hmem
    · exact (ihl hl hmem).of_get? hgetl
    · exact (ihr hr hmem).of_get? hgetr
  | store v value ih =>
    obtain ⟨-, -, -, _, hget, hvalue⟩ := h
    exact (ih hvalue (by simpa [Node.nodes] using hmem)).of_get? hget
  | cond c yes no ihc ihyes ihno =>
    obtain ⟨-, ⟨_, hgetc, hc⟩, ⟨_, hgetyes, hyes⟩, hno⟩ := h
    obtain hmem | hmem | hmem : _ ∈ c.nodes ∨ _ ∈ yes.nodes ∨ _ ∈ no.nodes := by
      simpa [Node.nodes] using hmem
    · exact (ihc hc hmem).of_get? hgetc
    · exact (ihyes hyes hmem).of_get? hgetyes
    · split at hno
      · rw [hno] at hmem
        simp [Node.nodes] at hmem
      · exact (ihno hno hmem).of_given? ‹_›
  | call arguments method ih =>
    obtain ⟨-, -, items, hitems, hall⟩ := h
    obtain ⟨a, ha, hmem⟩ : ∃ a ∈ arguments, _ ∈ a.nodes := by
      simpa [Node.nodes, Node.nodesOfAll_eq] using hmem
    obtain ⟨d, hd, hrealizes⟩ := exists_of_forall₂ (Node.allRealize_iff.1 hall) ha
    exact (ih a ha hrealizes hmem).of_walkOf? (Value.walkOf?_of_listOf? hitems) hd
  | leave target value ih =>
    obtain ⟨-, hvalue, -⟩ := h
    have hmem : Node.container head blocks ∈ value.nodes := by simpa [Node.nodes] using hmem
    split at hvalue
    · rw [hvalue] at hmem
      simp [Node.nodes] at hmem
    · exact (ih hvalue hmem).of_given? ‹_›
  | block b ih =>
    obtain ⟨i, hi, hmem⟩ : ∃ i ∈ b.instructions, _ ∈ i.nodes := by
      simpa [Node.nodes_block] using hmem
    obtain ⟨items, hitems, d, hd, hrealizes⟩ := h.2.exists_item hi
    exact (ih i hi hrealizes hmem).of_walkOf? hitems hd
  | container outer parts ih =>
    rw [Node.nodes_eq, List.mem_cons] at hmem
    obtain hself | hmem := hmem
    · cases hself
      exact ⟨around, data, .refl data, h⟩
    obtain ⟨-, -, -, items, hitems, hall⟩ := h
    obtain ⟨b, hb, i, hi, hmem⟩ : ∃ b ∈ parts, ∃ i ∈ b.instructions, _ ∈ i.nodes := by
      simpa [Node.children, Node.nodes_block] using hmem
    obtain ⟨_, item, hitem, hblock⟩ := hall.exists_item hb
    obtain ⟨inside, hinside, d, hd, hrealizes⟩ := hblock.exists_item hi
    exact ((ih b hb i hi hrealizes hmem).of_walkOf? hinside hd).of_walkOf?
      (Value.walkOf?_of_listOf? hitems) hitem

end

/-! ### Branches to a label -/

/-- Of blocks whose labels differ only one can be meant by a label. -/
theorem find?_label_of_differ {blocks : List Block}
    (hdiffer : Value.Differ (blocks.map fun b ↦ b.head.label))
    (hnames : ∀ b ∈ blocks, b.head.label.hasUniqueNames = true) {b : Block} (hb : b ∈ blocks)
    {target : Value} (htarget : b.head.label.same target = true) :
    (blocks.find? fun c ↦ c.head.label.same target) = some b := by
  induction blocks with
  | nil => exact absurd hb List.not_mem_nil
  | cons c rest ih =>
    rw [List.map_cons, Value.Differ, List.pairwise_cons] at hdiffer
    obtain ⟨hnamesc, hnames⟩ := List.forall_mem_cons.1 hnames
    obtain rfl | hb := List.mem_cons.1 hb
    · exact List.find?_cons_of_pos htarget
    · have hne : ¬c.head.label.same target = true := by
        intro hc
        have hsame := Value.same_of_same (hnames b hb) hc htarget
        rw [hdiffer.1 _ (List.mem_map_of_mem hb)] at hsame
        cases hsame
      have hrest := ih hdiffer.2 hnames hb
      simpa [List.find?_cons, hne] using hrest

/-! ### Loaded functions -/

/-- A function that is loaded from a document: by itself, as one of a module, or as one of the
module that a text is written for. A document is a value in which no object has a name twice. -/
inductive Function.IsLoadedFrom (f : Function) (data : Value) : Prop
  | byItself {s : LoadSettings} {w w' : Workspace} : data.hasUniqueNames = true →
      Build.buildFunction s data w = .ok f w' → f.IsLoadedFrom data
  | inModule {s : LoadSettings} {w w' : Workspace} {fs : List Function} :
      data.hasUniqueNames = true → Build.buildModule s data w = .ok fs w' → f ∈ fs →
      f.IsLoadedFrom data
  | inText {s : LoadSettings} {text : List Char} {fs : List Function} :
      Document.readDocument? text = some data → (load s text).outcome = .ok fs → f ∈ fs →
      f.IsLoadedFrom data

namespace Function.IsLoadedFrom

variable {f : Function} {data : Value}

theorem hasUniqueNames (h : f.IsLoadedFrom data) : data.hasUniqueNames = true := by
  cases h with
  | byItself hdata | inModule hdata => exact hdata
  | inText hread => exact Document.hasUniqueNames_of_readDocument? hread

/-- What is loaded from a document is what a part of it describes. -/
theorem exists_realizes (h : f.IsLoadedFrom data) :
    ∃ s item, data.HasPart item ∧ f.Realizes s item := by
  have hpart {items : List Value} {s : LoadSettings} {fs : List Function}
      (hitems : data.get? "functions" = some (.list items)) (hf : f ∈ fs)
      (hall : List.Forall₂ (fun f item ↦ f.Realizes s item) fs (items.filter s.wants)) :
      ∃ s item, data.HasPart item ∧ f.Realizes s item := by
    obtain ⟨item, hitem, hrealizes⟩ := exists_of_forall₂ hall hf
    exact ⟨s, item, .member hitems (.element rfl (List.mem_of_mem_filter hitem) (.refl item)),
      hrealizes⟩
  cases h with
  | byItself _ hbuild =>
    cases data with
    | object members =>
      exact ⟨_, _, .refl _, ((Build.ends_buildFunction _ members).of_ok trivial hbuild).1⟩
    | _ => cases hbuild
  | inModule _ hbuild hf =>
    obtain ⟨items, hitems, hall⟩ := Build.realizes_of_buildModule hbuild
    exact hpart hitems hf hall
  | inText hread hload hf =>
    obtain ⟨_, items, hread', hitems, hall⟩ := exists_realizes_of_load hload
    rw [hread] at hread'
    cases hread'
    exact hpart hitems hf hall

/-- **When labels identify blocks.** Every container of a loaded function is what a part of its
document describes. Where the labels that this part gives the blocks differ, the labels of all
blocks differ and a branch that is told the label of a block is resolved to that block, exactly if
no block is labelled as one without a label is by its place. -/
theorem labels_differ_iff (h : f.IsLoadedFrom data) {head : ContainerHead} {blocks : List Block}
    (hmem : Node.container head blocks ∈ f.body.nodes) :
    (∃ s inner d, data.HasPart d ∧ (Node.container head blocks).Realizes s f.locals inner d) ∧
      ∀ s inner d items, data.HasPart d →
        (Node.container head blocks).Realizes s f.locals inner d →
        d.listOf? "blocks" = some items → Value.Differ (Value.explicitLabels items) →
        ((Value.Differ (blocks.map fun b ↦ b.head.label) ∧
            ∀ b ∈ blocks, ∀ target, b.head.label.same target = true →
              (blocks.find? fun c ↦ c.head.label.same target) = some b) ↔
          Value.AvoidPlaces items) := by
  constructor
  · obtain ⟨s, item, hitem, hrealizes⟩ := h.exists_realizes
    obtain ⟨body, hbody, hnode⟩ := hrealizes.body
    obtain ⟨inner, d, hd, hcontainer⟩ := hnode.isDescribedIn hmem
    exact ⟨s, inner, d, hitem.trans (.member hbody hd), hcontainer⟩
  · intro s inner d items hd hcontainer hitems hexplicit
    obtain ⟨-, -, -, items', hitems', hall⟩ := hcontainer
    obtain rfl : items = items' := Option.some.inj (hitems.symm.trans hitems')
    rw [hall.labels_eq, Value.differ_blockLabels_iff hexplicit]
    refine ⟨And.left, fun havoid ↦ ⟨havoid, fun b hb target htarget ↦ ?_⟩⟩
    have hnames : ∀ item ∈ items, item.hasUniqueNames = true := by
      intro item hitem
      have hpart : d.HasPart item :=
        .of_mem_walkOf? (Value.walkOf?_of_listOf? hitems) hitem (.refl item)
      exact (hd.trans hpart).hasUniqueNames h.hasUniqueNames
    refine find?_label_of_differ ?_ (fun c hc ↦ ?_) hb htarget
    · rw [hall.labels_eq]
      exact (Value.differ_blockLabels_iff hexplicit).2 havoid
    · have hlabel : c.head.label ∈ Value.blockLabels 0 items := by
        rw [← hall.labels_eq]
        exact List.mem_map_of_mem hc
      exact Value.hasUniqueNames_of_mem_blockLabels hnames hlabel

end Function.IsLoadedFrom

namespace SecondLabelled

/-- The blocks of a container. The second has a label and the first, which goes to it, has none. -/
def items (label : String) : List Value :=
  [.ofFields [("instructions", .list [.ofOperation "br" [("target", .string label)]])],
    .ofFields [("label", .string label), ("instructions", .list [.ofOperation "leave" []])]]

/-- The container. -/
def body (label : String) : Value :=
  .ofOperation "BlockContainer" [("kind", .string "Loop"), ("label", .string "loop"),
    ("blocks", .list (items label))]

/-- The document. -/
def document (label : String) : List (Text × Value) :=
  [("name", .string "f"), ("body", body label)]

/-- The container that is loaded. -/
def loop : ContainerHead := ⟨0, .loop, .string "loop"⟩

/-- The first block. -/
def first : BlockHead := ⟨1, .controlFlow, .string "IL_0000"⟩

/-- The second block. -/
def second (label : String) : BlockHead := ⟨2, .controlFlow, .string label⟩

/-- The blocks that are loaded, if the branch goes to this one. -/
def blocks (label : String) (target : BlockHead) : List Block :=
  [⟨first, [.branch target]⟩, ⟨second label, [.leave loop .nop]⟩]

/-- The function that is loaded. -/
def function (label : String) (target : BlockHead) : Function :=
  ⟨"f", [], .container loop (blocks label target)⟩

/-- The document labels one block only. -/
theorem differ_explicitLabels (label : String) :
    Value.Differ (Value.explicitLabels (items label)) := by
  refine Value.differ_explicitLabels_iff.2 fun i j c d v w hij hc hd hv hw ↦ ?_
  match i, j with
  | 0, _ =>
    cases hc
    simp [Value.explicitLabel?, Value.get?, Value.ofFields, Value.member?, Text.ofString_inj] at hv
  | 1, 0 | 1, 1 => omega
  | 1, _ + 2 => cases hd
  | _ + 2, _ => cases hc

end SecondLabelled

open SecondLabelled in
/-- A label that is not that of the first place identifies the second block. -/
theorem labels_differ_of_second_place : ∃ w',
    Build.buildFunction .standard (.object (document "IL_0001")) .empty =
        .ok (function "IL_0001" (second "IL_0001")) w' ∧
      Value.Differ ((blocks "IL_0001" (second "IL_0001")).map fun b ↦ b.head.label) ∧
      ∀ b ∈ blocks "IL_0001" (second "IL_0001"), ∀ target, b.head.label.same target = true →
        ((blocks "IL_0001" (second "IL_0001")).find? fun c ↦ c.head.label.same target) =
          some b := by
  obtain ⟨w', hbuilt⟩ : ∃ w', Build.buildFunction .standard (.object (document "IL_0001")) .empty =
      .ok (function "IL_0001" (second "IL_0001")) w' :=
    Build.buildFunction_eq_ok 10 (by decide) rfl rfl rfl rfl rfl rfl
  have hloaded : (function "IL_0001" (second "IL_0001")).IsLoadedFrom
      (.object (document "IL_0001")) := .byItself (by decide) hbuilt
  have hrealizes := ((Build.ends_buildFunction _ _).of_ok trivial hbuilt).1
  obtain ⟨d, hd, hbody⟩ := hrealizes.body
  obtain rfl : d = body "IL_0001" := Option.some.inj (hd.symm.trans rfl)
  have hpart : (Value.object (document "IL_0001")).HasPart (body "IL_0001") :=
    .member hd (.refl _)
  have havoid : Value.AvoidPlaces (items "IL_0001") := by
    intro i item hi hnone
    match i with
    | 0 =>
      have hne : (Build.placeLabel 0 : Text) ≠ "IL_0001" := by decide
      have hlabels : Value.explicitLabels (items "IL_0001") = [.string "IL_0001"] := rfl
      simpa [hlabels] using hne
    | 1 =>
      cases hi
      cases hnone
    | i + 2 => cases hi
  exact ⟨w', hbuilt, ((hloaded.labels_differ_iff (List.mem_cons_self ..)).2 _ _ _ _
    hpart hbody rfl (differ_explicitLabels _)).2 havoid⟩

open SecondLabelled in
/-- **Two blocks of one label.** The document labels only the second block, but with the label that
the first has by its place, and the branch that names the second goes to the first. -/
theorem two_blocks_of_first_place : ∃ w',
    Build.buildFunction .standard (.object (document "IL_0000")) .empty =
        .ok (function "IL_0000" first) w' ∧
      (body "IL_0000").listOf? "blocks" = some (items "IL_0000") ∧
      Value.Differ (Value.explicitLabels (items "IL_0000")) ∧
      ¬Value.Differ ((blocks "IL_0000" first).map fun b ↦ b.head.label) ∧
      first ≠ second "IL_0000" := by
  obtain ⟨w', hbuilt⟩ : ∃ w', Build.buildFunction .standard (.object (document "IL_0000")) .empty =
      .ok (function "IL_0000" first) w' :=
    Build.buildFunction_eq_ok 10 (by decide) rfl rfl rfl rfl rfl rfl
  refine ⟨w', hbuilt, rfl, differ_explicitLabels _, fun hdiffer ↦ ?_, fun h ↦ ?_⟩
  · have hsame : (Value.string "IL_0000").same (.string "IL_0000") = false :=
      Value.differ_iff.1 hdiffer 0 1 _ _ Nat.zero_lt_one rfl rfl
    rw [Value.same_string, beq_self_eq_true] at hsame
    cases hsame
  · cases congrArg BlockHead.serial h

end StructuredIL
