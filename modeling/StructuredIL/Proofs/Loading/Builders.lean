import Mathlib.Data.List.Flatten
import StructuredIL.Proofs.Loading.Scope

/-!
# What the builders yield

Every builder of a node gives a node that realizes its document, with numbers that are its own, and
fails with the first fault of the document (`Build.yields_buildNode`). There is one lemma for each
builder, and in each of them the parts of the node are taken to be built in this way already.
-/

namespace StructuredIL

/-- Heads of blocks, from an index on, are what some values describe. -/
def BlockHead.AllRealize (index : Nat) : List BlockHead → List Value → Prop
  | [], [] => True
  | b :: bs, data :: rest =>
    ((data.kindOr "ControlFlow").Spells b.kind ∧
      b.label = data.labelOr (Build.placeLabel index)) ∧ BlockHead.AllRealize (index + 1) bs rest
  | _, _ => False

theorem BlockHead.AllRealize.labels_eq {index : Nat} {heads : List BlockHead}
    {items : List Value} (h : BlockHead.AllRealize index heads items) :
    heads.map BlockHead.label = Value.blockLabels index items := by
  induction heads generalizing index items with
  | nil =>
    obtain _ | ⟨data, rest⟩ := items
    · rfl
    · exact h.elim
  | cons b heads ih =>
    obtain _ | ⟨data, rest⟩ := items
    · exact h.elim
    · rw [List.map_cons, h.1.2, ih h.2, Value.blockLabels]

/-- Inside a container its label and those of its blocks are in scope. -/
theorem Scope.labels_inside {S : Scope} {serial depth : Nat} {kind : ContainerKind} {data : Value}
    {heads : List BlockHead} {items : List Value} (h : BlockHead.AllRealize 0 heads items) :
    (S.inside ⟨⟨serial, kind, data.containerLabel depth⟩, heads⟩).labels =
      .ofContainer depth data items :: S.labels := by
  rw [Labels.ofContainer, ← h.labels_eq]
  rfl

namespace Build

open Value (faults FaultsBelow)

variable {α β : Type} {S : Scope} {Q : β → Nat → Prop} {F G : List LoadFault}
  {s : LoadSettings} {data : Value}

/-- What every builder gives: a node that realizes its document in the scope that it is built in,
with numbers of its own. -/
structure IsBuilt (s : LoadSettings) (S : Scope) (data : Value) (n : Node) (next : Nat) : Prop where
  /-- The node is what the document describes. -/
  realizes : n.Realizes s S.locals S.containers data
  /-- Its numbers have been given out for it. -/
  numbers : Numbers S.used n.serials next

/-- The faults of a part of a node. -/
def partFaults (S : Scope) {bound : Nat} : FaultsBelow bound := fun v _ ↦
  faults S.names S.labels v

theorem partFaults_inside {serial depth bound : Nat} {kind : ContainerKind} {heads : List BlockHead}
    {items : List Value} (h : BlockHead.AllRealize 0 heads items) :
    partFaults (S.inside ⟨⟨serial, kind, data.containerLabel depth⟩, heads⟩) =
      fun v (_ : v.height < bound) ↦
        faults S.names (.ofContainer depth data items :: S.labels) v := by
  funext v _
  rw [partFaults, Scope.labels_inside h]
  rfl

/-- Parts of a node are built as they should be, in whatever scope. -/
def BuildsParts (s : LoadSettings) {bound : Nat} (build : Below bound) : Prop :=
  ∀ (S : Scope) (v : Value) (h : v.height < bound),
    Yields S (build v h) (IsBuilt s S v) (faults S.names S.labels v)

/-! ### Members -/

section Members

variable {build : Below data.height} {bound : Nat}

theorem yields_buildMember (hb : BuildsParts s build) {operation : Operation} {key : String} :
    Yields S (buildMember data build operation key)
      (fun n next ↦ ∃ d, data.get? key = some d ∧ IsBuilt s S d n next)
      (data.memberFaults (partFaults S) operation key) := by
  rw [buildMember]
  split
  · rename_i v hv
    rw [Value.memberFaults_of_some hv]
    exact (hb S v _).mono fun n next hn ↦ ⟨v, hv, hn⟩
  · rename_i hv
    rw [Value.memberFaults_of_none hv]
    exact .reject

/-- An optional member is built if it is given; the empty node stands for it otherwise. -/
def IsBuilt? (s : LoadSettings) (S : Scope) (data : Value) (key : String) (n : Node)
    (next : Nat) : Prop :=
  Numbers S.used n.serials next ∧
    match data.given? key with
    | none => n = .nop
    | some d => n.Realizes s S.locals S.containers d

theorem yields_buildMember? (hb : BuildsParts s build) {key : String} :
    Yields S (buildMember? data build key)
      (fun n? next ↦ IsBuilt? s S data key (n?.getD .nop) next)
      (data.memberFaults? (partFaults S) key) := by
  have habsent (hgiven : data.given? key = none) : Yields S (pure none)
      (fun n? next ↦ IsBuilt? s S data key (n?.getD .nop) next)
      (data.memberFaults? (partFaults S) key) := by
    rw [Value.memberFaults?_of_none hgiven]
    refine .pure fun next hnext ↦ ⟨.nil hnext, ?_⟩
    rw [hgiven]
    rfl
  rw [buildMember?]
  split
  · rename_i hv
    exact habsent (by rw [Value.given?, hv])
  · rename_i hv
    exact habsent (by rw [Value.given?, hv])
  · rename_i v hnull hv
    have hgiven := Value.given?_eq_some.2 ⟨hv, hnull⟩
    rw [Value.memberFaults?_of_some hgiven]
    refine (hb S v _).map fun n next hn ↦ ⟨hn.numbers, ?_⟩
    rw [hgiven]
    exact hn.realizes

theorem yields_buildAll {build : Below bound} (hb : BuildsParts s build) (items : List Value)
    (h : ∀ v ∈ items, v.height < bound) :
    Yields S (buildAll build items h)
      (fun ns next ↦ Node.AllRealize s S.locals S.containers ns items ∧
        Numbers S.used (ns.flatMap Node.serials) next)
      (Value.allFaults (partFaults S) items h) := by
  induction items generalizing S with
  | nil => exact .pure fun next hnext ↦ ⟨trivial, .nil hnext⟩
  | cons v rest ih =>
    rw [buildAll, Value.allFaults]
    refine (hb S v _).bind_used fun n next hnext hn ↦ ?_
    rw [← map_eq_pure_bind]
    refine (ih _).map fun ns next' hns ↦ ⟨⟨hn.realizes, hns.1⟩, ?_⟩
    rw [List.flatMap_cons]
    exact hn.numbers.append hns.2

theorem elementsOf_eq_pure {key : String} {items : List Value}
    (h : data.walkOf? key = some items) :
    elementsOf data key = pure ⟨items, fun _ ↦ Value.height_lt_of_walkOf? h⟩ := by
  rw [Value.walkOf?] at h
  rw [elementsOf]
  split
  · simp_all
  · rename_i v hv
    rw [hv] at h
    split
    · cases h.symm.trans ‹_›
    · rename_i items' helements
      obtain rfl : items' = items := Option.some.inj (helements.symm.trans h)
      rfl

theorem elementsOf_eq_throw {key : String} (h : data.walkOf? key = none) :
    elementsOf data key = throw .notIterable := by
  rw [Value.walkOf?] at h
  rw [elementsOf]
  split
  · simp_all
  · rename_i v hv
    rw [hv] at h
    split
    · rfl
    · cases h.symm.trans ‹_›

theorem yields_spelled {α : Type} [Vocabulary α] (what : String) (v : Value) :
    Yields S (spelled what v) (fun (a : α) next ↦ v.Spells a ∧ S.used ≤ next)
      (Value.spellingFaults α what v) := by
  rw [spelled.eq_def, Value.spellingFaults.eq_def]
  cases v with
  | string name =>
    dsimp only
    cases hspelling : Vocabulary.ofSpelling (α := α) name with
    | ok a => exact .pure fun next hnext ↦ ⟨⟨name, rfl, hspelling⟩, hnext⟩
    | error e => exact .reject
  | _ => exact .reject

theorem Yields.spelledMember_bind {α : Type} [Vocabulary α] {operation : Operation}
    {key what : String} {f : α → Build β}
    (hf : ∀ a, (∃ v, data.get? key = some v ∧ v.Spells a) → Yields S (f a) Q G) :
    Yields S (require data operation key >>= fun v ↦ spelled what v >>= f) Q
      (data.requiredSpellingFaults α operation key what ++ G) := by
  rw [require, Value.requiredSpellingFaults]
  cases hv : data.get? key with
  | none => exact .reject_bind
  | some v =>
    rw [pure_bind]
    exact (yields_spelled what v).bind fun a ⟨_, ha⟩ ↦ hf a ⟨v, hv, ha.1⟩

/-- A variable is found exactly if its name is declared. -/
theorem yields_findVariable (name : Text) :
    Yields S (findVariable name)
      (fun v? next ↦ S.used ≤ next ∧
        match v? with
        | some v => v ∈ S.locals ∧ v.name = name
        | none => name ∉ S.names) [] := by
  refine .get_bind fun w hw ↦ .pure fun next hnext ↦ ⟨hnext, ?_⟩
  rw [hw.locals]
  cases hfind : S.locals.find? fun v ↦ v.name == name with
  | some v => exact ⟨List.mem_of_find?_eq_some hfind, by simpa using List.find?_some hfind⟩
  | none =>
    intro hmem
    obtain ⟨v, hv, rfl⟩ := List.mem_map.1 hmem
    simpa using List.find?_eq_none.1 hfind v hv

theorem yields_variableOf {operation : Operation} :
    Yields S (variableOf data operation)
      (fun v next ↦ (data.get? "var" = some (.string v.name) ∧ v ∈ S.locals) ∧ S.used ≤ next)
      (data.variableFaults S.names operation) := by
  rw [variableOf, require, Value.variableFaults]
  cases hv : data.get? "var" with
  | none => exact .reject_bind
  | some value =>
    rw [pure_bind]
    cases value with
    | string name =>
      refine (yields_findVariable name).bind_nil fun v? ⟨_, _, hfound⟩ ↦ ?_
      cases v? with
      | some v =>
        obtain ⟨hmem, rfl⟩ := hfound
        have hname : v.name ∈ S.names := List.mem_map_of_mem hmem
        simp only [if_pos hname]
        exact .pure fun next hnext ↦ ⟨⟨rfl, hmem⟩, hnext⟩
      | none =>
        simp only [if_neg hfound]
        exact .reject
    | _ => exact .reject

end Members

/-! ### Expressions -/

section Nodes

variable {build : Below data.height}

theorem yields_buildConstant (hop : data.operation? = some .constant) :
    Yields S (buildConstant data) (IsBuilt s S data) data.constantFaults := by
  rw [buildConstant, require, Value.constantFaults]
  cases hv : data.get? "value" with
  | none => exact .reject_bind
  | some value =>
    rw [pure_bind]
    cases value with
    | int n =>
      dsimp only
      split
      · rename_i hrange
        exact .pure fun next hnext ↦ ⟨⟨hop, hv, hrange⟩, .nil hnext⟩
      · exact .reject
    | _ => exact .reject

theorem yields_buildLoad (hop : data.operation? = some .load) :
    Yields S (buildLoad data) (IsBuilt s S data) (data.variableFaults S.names .load) := by
  rw [buildLoad, ← map_eq_pure_bind]
  exact yields_variableOf.map fun v next hv ↦ ⟨⟨hop, hv.1⟩, .nil hv.2⟩

theorem yields_buildStore (hb : BuildsParts s build) (hop : data.operation? = some .store) :
    Yields S (buildStore data build) (IsBuilt s S data)
      (data.variableFaults S.names .store ++ data.memberFaults (partFaults S) .store "value") := by
  rw [buildStore]
  refine yields_variableOf.bind fun v ⟨_, hv⟩ ↦ ?_
  rw [← map_eq_pure_bind]
  refine (yields_buildMember hb).map fun value next ⟨d, hd, hvalue⟩ ↦ ?_
  refine ⟨⟨hop, hv.1.1, hv.1.2, d, hd, hvalue.realizes⟩, ?_⟩
  simpa [Node.serials_eq, Node.serial?, Node.children] using hvalue.numbers

/-- Two operands are built one after the other. -/
theorem yields_operands {operation : Operation} {make : Node → Node → Node}
    (hb : BuildsParts s build)
    (hserials : ∀ l r, (make l r).serials = l.serials ++ r.serials)
    (hmake : ∀ l r, (∃ d, data.get? "left" = some d ∧ l.Realizes s S.locals S.containers d) →
      (∃ d, data.get? "right" = some d ∧ r.Realizes s S.locals S.containers d) →
      (make l r).Realizes s S.locals S.containers data) :
    Yields S
      (do
        let l ← buildMember data build operation "left"
        let r ← buildMember data build operation "right"
        return make l r)
      (IsBuilt s S data)
      (data.memberFaults (partFaults S) operation "left" ++
        data.memberFaults (partFaults S) operation "right") := by
  refine (yields_buildMember hb).bind_used fun l _ _ ⟨dl, hdl, hl⟩ ↦ ?_
  rw [← map_eq_pure_bind]
  refine (yields_buildMember hb).map fun r next ⟨dr, hdr, hr⟩ ↦ ?_
  refine ⟨hmake l r ⟨dl, hdl, hl.realizes⟩ ⟨dr, hdr, hr.realizes⟩, ?_⟩
  rw [hserials]
  exact hl.numbers.append hr.numbers

theorem yields_buildCompare (hb : BuildsParts s build) (hop : data.operation? = some .compare) :
    Yields S (buildCompare data build) (IsBuilt s S data)
      (data.requiredSpellingFaults ComparisonKind .compare "kind" "comparison kind" ++
        (data.memberFaults (partFaults S) .compare "left" ++
          data.memberFaults (partFaults S) .compare "right")) := by
  rw [buildCompare]
  refine .spelledMember_bind fun kind hkind ↦ yields_operands hb (fun l r ↦ ?_) fun l r hl hr ↦ ?_
  · simp [Node.serials_eq (.compare _ _ _), Node.serial?, Node.children]
  · exact ⟨hop, hkind, hl, hr⟩

theorem yields_buildBinary (hb : BuildsParts s build) (hop : data.operation? = some .binary) :
    Yields S (buildBinary data build) (IsBuilt s S data)
      (data.requiredSpellingFaults BinaryOperator .binary "operator" "binary operator" ++
        (data.memberFaults (partFaults S) .binary "left" ++
          data.memberFaults (partFaults S) .binary "right")) := by
  rw [buildBinary]
  refine .spelledMember_bind fun op hspelled ↦ yields_operands hb (fun l r ↦ ?_) fun l r hl hr ↦ ?_
  · simp [Node.serials_eq (.binary _ _ _), Node.serial?, Node.children]
  · exact ⟨hop, hspelled, hl, hr⟩

/-! ### Statements -/

theorem yields_buildCond (hb : BuildsParts s build) (hop : data.operation? = some .cond) :
    Yields S (buildCond data build) (IsBuilt s S data)
      (data.memberFaults (partFaults S) .cond "condition" ++
        (data.memberFaults (partFaults S) .cond "true" ++
          data.memberFaults? (partFaults S) "false")) := by
  rw [buildCond]
  refine (yields_buildMember hb).bind_used fun c _ _ ⟨dc, hdc, hc⟩ ↦ ?_
  refine (yields_buildMember hb).bind_used fun yes _ _ ⟨dyes, hdyes, hyes⟩ ↦ ?_
  rw [← map_eq_pure_bind]
  refine (yields_buildMember? hb).map fun no? next hno ↦ ?_
  refine ⟨⟨hop, ⟨dc, hdc, hc.realizes⟩, ⟨dyes, hdyes, hyes.realizes⟩, hno.2⟩, ?_⟩
  have hnumbers := hc.numbers.append (hyes.numbers.append hno.1)
  simpa [Node.serials_eq (.cond _ _ _), Node.serial?, Node.children] using hnumbers

theorem yields_buildCall (hb : BuildsParts s build) (hop : data.operation? = some .call) :
    Yields S (buildCall data build) (IsBuilt s S data)
      (data.argumentFaults (partFaults S)) := by
  have hcall {arguments : List Node} {items : List Value} {next : Nat}
      (hitems : data.listOf? "args" = some items)
      (hall : Node.AllRealize s S.locals S.containers arguments items)
      (hnumbers : Numbers S.used (arguments.flatMap Node.serials) next) :
      IsBuilt s S data (.call arguments ((data.get? "method").getD (.string "print"))) next := by
    refine ⟨⟨hop, rfl, items, hitems, hall⟩, ?_⟩
    simpa [Node.serials_eq (.call _ _), Node.serial?, Node.children] using hnumbers
  rw [buildCall]
  split
  · rename_i hv
    have hitems : data.listOf? "args" = some [] := by rw [Value.listOf?, hv]
    rw [pure_bind, Value.argumentFaults_of_list hitems]
    exact .pure fun next hnext ↦ hcall hitems (by trivial) (.nil hnext)
  · rename_i items hv
    have hitems : data.listOf? "args" = some items := by rw [Value.listOf?, hv]
    rw [← map_eq_pure_bind, Value.argumentFaults_of_list hitems]
    exact (yields_buildAll hb items _).map fun arguments next h ↦ hcall hitems h.1 h.2
  · rename_i v hv hget
    rw [Value.argumentFaults_of_not_list hget hv]
    exact .reject_bind

theorem yields_buildBranch (hop : data.operation? = some .branch) :
    Yields S (buildBranch data) (IsBuilt s S data) (data.branchFaults S.labels) := by
  rw [buildBranch, require, Value.branchFaults.eq_def]
  cases htarget : data.get? "target" with
  | none => exact .reject_bind
  | some target =>
    rw [pure_bind]
    refine .get_bind fun w hw ↦ ?_
    rw [hw.containers, Scope.labels]
    cases hc : S.containers with
    | nil => exact .reject
    | cons c outer =>
      have hany : (c.labels.blocks.any fun label ↦ label.same target) =
          (c.blocks.find? fun b ↦ b.label.same target).isSome := by
        rw [OpenContainer.labels, List.any_map, List.isSome_find?]
        rfl
      simp only [List.map_cons, hany]
      cases hfind : c.blocks.find? fun b ↦ b.label.same target with
      | none => exact .reject
      | some b =>
        refine .pure fun next hnext ↦ ⟨⟨hop, target, c, htarget, by rw [hc]; rfl, hfind⟩, ?_⟩
        exact .nil hnext

theorem yields_buildLeave (hb : BuildsParts s build) (hop : data.operation? = some .leave) :
    Yields S (buildLeave data build) (IsBuilt s S data)
      (match S.labels with
        | [] => [.ofFormat .leaveOutside]
        | _ :: _ =>
          data.memberFaults? (partFaults S) "value" ++ data.leaveFaults S.labels) := by
  rw [buildLeave]
  refine .get_bind fun w hw ↦ ?_
  rw [hw.containers]
  cases hc : S.containers with
  | nil =>
    rw [Scope.labels, hc]
    exact .reject
  | cons innermost outer =>
    simp only [Scope.labels, hc, List.map_cons]
    refine (yields_buildMember? hb).bind_used fun value next hnext hvalue ↦ ?_
    have hleave {c : OpenContainer} (htarget : match data.given? "target" with
        | none => S.containers.head? = some c
        | some label => (S.containers.find? fun c ↦ c.head.label.same label) = some c) :
        Yields (S.upTo next) (pure (.leave c.head (value.getD .nop))) (IsBuilt s S data) [] := by
      refine .pure fun next' hnext' ↦ ⟨⟨hop, hvalue.2, c, rfl, htarget⟩, ?_⟩
      simpa [Node.serials_eq (.leave _ _), Node.serial?, Node.children] using
        hvalue.1.mono hnext'
    have hany (label : Value) : (innermost.labels :: outer.map OpenContainer.labels).any
        (fun labels ↦ labels.container.same label) =
          ((innermost :: outer).find? fun c ↦ c.head.label.same label).isSome := by
      rw [← List.map_cons, List.any_map, List.isSome_find?]
      rfl
    cases hgiven : data.given? "target" with
    | none =>
      rw [Value.given?_eq_none.1 hgiven, Value.leaveFaults, hgiven]
      exact hleave (by rw [hgiven, hc]; rfl)
    | some label =>
      obtain ⟨hget, hnull⟩ := Value.given?_eq_some.1 hgiven
      simp only [hget, Option.getD_some, Value.leaveFaults, hgiven, hany]
      cases hfind : (innermost :: outer).find? fun c ↦ c.head.label.same label with
      | none => exact .reject_bind
      | some c => exact hleave (by rw [hgiven, hc]; exact hfind)

/-! ### Blocks and containers -/

/-- Leaving out the empty instructions is leaving out the empty items. -/
theorem allRealize_kept {ns : List Node} {items : List Value}
    (h : Node.AllRealize s S.locals S.containers ns items) :
    Node.AllRealize s S.locals S.containers
      (if s.removeDeadCode then ns.filter fun n ↦ !n.isNop else ns) (s.kept items) := by
  rw [LoadSettings.kept]
  split
  · induction ns generalizing items with
    | nil =>
      obtain _ | ⟨data, rest⟩ := items
      · exact h
      · exact h.elim
    | cons n ns ih =>
      obtain _ | ⟨data, rest⟩ := items
      · exact h.elim
      have hnop := Node.isNop_iff h.1
      by_cases hn : n.isNop
      · simpa [hn, hnop.1 hn] using ih h.2
      · have hdata : data.operation? ≠ some .nop := fun hdata ↦ hn (hnop.2 hdata)
        simpa [hn, hdata, Node.AllRealize] using ⟨h.1, ih h.2⟩
  · exact h

theorem yields_buildInstructions (hb : BuildsParts s build) :
    Yields S (buildInstructions s data build)
      (fun ns next ↦ (∃ items, data.walkOf? "instructions" = some items ∧
        Node.AllRealize s S.locals S.containers ns (s.kept items)) ∧
        Numbers S.used (ns.flatMap Node.serials) next)
      (data.walkFaults (partFaults S) "instructions") := by
  rw [buildInstructions]
  cases hwalk : data.walkOf? "instructions" with
  | none =>
    rw [elementsOf_eq_throw hwalk, Value.walkFaults_of_none hwalk]
    exact .throw_bind
  | some items =>
    rw [elementsOf_eq_pure hwalk, Value.walkFaults_of_some hwalk, pure_bind]
    dsimp only
    rw [← map_eq_pure_bind]
    refine (yields_buildAll hb items _).map fun ns next hns ↦ ?_
    refine ⟨⟨items, rfl, allRealize_kept hns.1⟩, hns.2.sublist ?_⟩
    split
    · exact List.filter_sublist.flatMap _
    · exact List.Sublist.refl _

theorem yields_blockHead {unlabelled : String} :
    Yields S (blockHead data unlabelled)
      (fun b next ↦ ((data.kindOr "ControlFlow").Spells b.kind ∧
        b.label = data.labelOr unlabelled) ∧ Numbers S.used [b.serial] next)
      data.blockHeadFaults := by
  rw [blockHead, ← List.append_nil data.blockHeadFaults]
  have hspelled := yields_spelled (α := BlockKind) (S := S) "block kind" (data.kindOr "ControlFlow")
  refine hspelled.bind fun kind ⟨_, hkind, _⟩ ↦ .fresh_bind fun i hi ↦ ?_
  exact .pure fun next hnext ↦ ⟨⟨hkind, rfl⟩, hi.mono hnext⟩

theorem yields_buildBlock (hb : BuildsParts s build) (hop : data.operation? = some .block) :
    Yields S (buildBlock s data build) (IsBuilt s S data)
      (data.blockHeadFaults ++ data.walkFaults (partFaults S) "instructions") := by
  rw [buildBlock]
  refine yields_blockHead.bind_used fun head _ _ ⟨⟨hkind, hlabel⟩, hhead⟩ ↦ ?_
  rw [← map_eq_pure_bind]
  refine (yields_buildInstructions hb).map fun ns next ⟨hns, hnumbers⟩ ↦ ?_
  refine ⟨⟨hop, hkind, hlabel, hns⟩, ?_⟩
  rw [Node.serials_block]
  exact hhead.append hnumbers

/-- The heads of the blocks of a container. -/
theorem yields_blockHeads {label : Value} {index : Nat} (items : List Value) :
    Yields S (blockHeads label index items)
      (fun heads next ↦ BlockHead.AllRealize index heads items ∧
        Numbers S.used (heads.map BlockHead.serial) next)
      (Value.blockHeadsFaults label index items) := by
  induction items generalizing S index with
  | nil => exact .pure fun next hnext ↦ ⟨trivial, .nil hnext⟩
  | cons data rest ih =>
    rw [blockHeads.eq_def, Value.blockHeadsFaults.eq_def]
    cases data with
    | object members =>
      refine yields_blockHead.bind_used fun b _ _ hhead ↦ ?_
      obtain ⟨hb, hnumber⟩ := hhead
      rw [← map_eq_pure_bind]
      refine ih.map fun heads next hrest ↦ ?_
      obtain ⟨hheads, hnumbers⟩ := hrest
      exact ⟨⟨hb, hheads⟩, hnumber.append hnumbers⟩
    | _ => exact .reject

/-- The blocks of a container have the heads that were made for them. -/
theorem yields_buildBlocks {bound : Nat} {build : Below bound} (hb : BuildsParts s build)
    {index : Nat} {heads : List BlockHead} (items : List Value)
    (h : ∀ v ∈ items, v.height < bound) (hheads : BlockHead.AllRealize index heads items) :
    Yields S (buildBlocks s build heads items h)
      (fun blocks next ↦ (blocks.map Block.head = heads ∧
        Block.AllRealize s S.locals S.containers index blocks items) ∧
        Numbers S.used (blocks.flatMap fun b ↦ b.instructions.flatMap Node.serials) next)
      (Value.blocksFaults (partFaults S) items h) := by
  induction items generalizing S heads index with
  | nil =>
    obtain _ | ⟨b, heads⟩ := heads
    · exact .pure fun next hnext ↦ ⟨⟨rfl, trivial⟩, .nil hnext⟩
    · exact hheads.elim
  | cons data rest ih =>
    obtain _ | ⟨b, heads⟩ := heads
    · exact hheads.elim
    rw [buildBlocks, Value.blocksFaults]
    refine (yields_buildInstructions fun S v _ ↦ hb S v _).bind_used fun ns _ _ hns ↦ ?_
    rw [← map_eq_pure_bind]
    refine (ih _ hheads.2).map fun blocks next hblocks ↦ ?_
    obtain ⟨⟨hmap, hall⟩, hnumbers⟩ := hblocks
    refine ⟨⟨congrArg (b :: ·) hmap, ⟨hheads.1.1, hheads.1.2, hns.1⟩, hall⟩, ?_⟩
    exact hns.2.append hnumbers

theorem yields_buildContainer (hb : BuildsParts s build)
    (hop : data.operation? = some .container) :
    Yields S (buildContainer s data build) (IsBuilt s S data)
      (Value.spellingFaults ContainerKind "container kind" (data.kindOr "Normal") ++
        Value.containerFaults S.labels.length data fun labels v _ ↦
          faults S.names (labels :: S.labels) v) := by
  have hdepth : S.labels.length = S.containers.length := List.length_map _
  rw [buildContainer, hdepth]
  refine (yields_spelled _ _).bind fun kind hspelled ↦ .get_bind fun w hw ↦ ?_
  obtain ⟨_, hkind, _⟩ := hspelled
  rw [hw.containers]
  refine .fresh_bind fun n hnumber ↦ ?_
  split
  · rename_i hv
    have hitems : data.listOf? "blocks" = some [] := by rw [Value.listOf?, hv]
    rw [Value.containerFaults_of_list hitems]
    refine .pure fun next' hnext' ↦ ⟨⟨hop, hkind, rfl, [], hitems, trivial⟩, ?_⟩
    rw [Node.serials_container]
    exact hnumber.mono hnext'
  · rename_i items hv
    have hitems : data.listOf? "blocks" = some items := by rw [Value.listOf?, hv]
    rw [Value.containerFaults_of_list hitems]
    refine (yields_blockHeads items).bind_used fun heads next _ h ↦ ?_
    obtain ⟨hheads, hheadNumbers⟩ := h
    rw [← map_eq_pure_bind]
    have hinside h := yields_buildBlocks (S := (S.upTo next).inside
      ⟨⟨n, kind, data.containerLabel S.containers.length⟩, heads⟩) hb items h hheads
    simp only [partFaults_inside hheads] at hinside
    refine (Yields.within (hinside _)).map fun blocks next' h ↦ ?_
    obtain ⟨⟨rfl, hall⟩, hnumbers⟩ := h
    rw [List.map_map] at hheadNumbers
    exact ⟨⟨hop, hkind, rfl, items, hitems, hall⟩, .container hnumber hheadNumbers hnumbers⟩
  · rename_i v hv hget
    rw [Value.containerFaults_of_not_list hget hv]
    exact .reject

/-! ### Nodes -/

theorem yields_buildOperation (hb : BuildsParts s build) {operation : Operation}
    (hop : data.operation? = some operation) :
    Yields S (buildOperation s data build operation) (IsBuilt s S data)
      (Value.operationFaults S.names S.labels data (fun scope v _ ↦ faults S.names scope v)
        operation) := by
  cases operation with
  | nop => exact .pure fun next hnext ↦ ⟨hop, .nil hnext⟩
  | constant => exact yields_buildConstant hop
  | load => exact yields_buildLoad hop
  | store => exact yields_buildStore hb hop
  | compare => exact yields_buildCompare hb hop
  | binary => exact yields_buildBinary hb hop
  | cond => exact yields_buildCond hb hop
  | call => exact yields_buildCall hb hop
  | branch => exact yields_buildBranch hop
  | leave => exact yields_buildLeave hb hop
  | block => exact yields_buildBlock hb hop
  | container => exact yields_buildContainer hb hop

theorem yields_buildWith (hb : BuildsParts s build) :
    Yields S (buildWith s data build) (IsBuilt s S data)
      (data.faultsWith S.names S.labels fun scope v _ ↦ faults S.names scope v) := by
  rw [buildWith.eq_def, Value.faultsWith.eq_def]
  cases hget : data.get? "op" with
  | none => exact .reject
  | some v =>
    cases v with
    | string name =>
      dsimp only
      cases hname : Operation.ofName? name with
      | none => exact .reject
      | some operation => exact yields_buildOperation hb (by rw [Value.operation?, hget, ← hname])
    | list items => exact .throw
    | object members => exact .throw
    | _ => exact .reject

end Nodes

/-- **Building a node** gives what the document describes if nothing is wrong with the document, and
fails with the first thing that is. -/
theorem yields_buildNode (s : LoadSettings) (data : Value) (S : Scope) :
    Yields S (buildNode s data) (IsBuilt s S data) (faults S.names S.labels data) := by
  rw [buildNode_eq, Value.faults_eq]
  exact yields_buildWith fun S v _ ↦ yields_buildNode s v S
termination_by data.height

end Build

end StructuredIL
