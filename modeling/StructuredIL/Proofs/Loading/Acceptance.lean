import StructuredIL.Proofs.Loading.Functions

/-!
# What is loaded

A load accepts what the grammar says, as long as there are lists where it walks over something. The
grammar knows of no order and of no messages, and the list of faults knows of nothing else, so the
two are compared part by part: nothing is wrong with a node, and there are lists in it, exactly if
it is a node of the grammar (`Value.isNode_iff`), and likewise for functions
(`Value.isFunction_iff`).
-/

namespace StructuredIL

namespace Value

variable {names : List Text} {scope : List Labels} {data : Value} {operation : Operation}
  {key : String} {F : Value → List LoadFault}

/-! ### Parts without faults -/

theorem spellingFaults_eq_nil {α : Type} [Vocabulary α] {what : String} {v : Value} :
    spellingFaults α what v = [] ↔ ∃ a : α, v.Spells a := by
  rw [spellingFaults.eq_def]
  cases v with
  | string name =>
    cases h : Vocabulary.ofSpelling (α := α) name with
    | ok a => exact iff_of_true (by simp [h]) ⟨a, name, rfl, h⟩
    | error e => simp [Spells, h]
  | _ => simp [Spells]

theorem requiredSpellingFaults_eq_nil {α : Type} [Vocabulary α] {what : String} :
    requiredSpellingFaults α data operation key what = [] ↔
      ∃ v, data.get? key = some v ∧ ∃ a : α, v.Spells a := by
  rw [requiredSpellingFaults]
  cases data.get? key <;> simp [spellingFaults_eq_nil]

theorem memberFaults_eq_nil :
    memberFaults data (fun v _ ↦ F v) operation key = [] ↔
      ∃ v, data.get? key = some v ∧ F v = [] := by
  cases h : data.get? key with
  | none => simp [memberFaults_of_none h]
  | some v => simp [memberFaults_of_some h]

theorem memberFaults?_eq_nil :
    memberFaults? data (fun v _ ↦ F v) key = [] ↔ ∀ v, data.given? key = some v → F v = [] := by
  cases h : data.given? key with
  | none => simp [memberFaults?_of_none h]
  | some v => simp [memberFaults?_of_some h]

theorem allFaults_eq_nil {bound : Nat} {items : List Value} {h : ∀ v ∈ items, v.height < bound} :
    allFaults (fun v _ ↦ F v) items h = [] ↔ ∀ v ∈ items, F v = [] := by
  induction items with
  | nil => simp [allFaults]
  | cons v rest ih => simp [allFaults, ih]

theorem walkFaults_eq_nil {items : List Value} (h : data.listOf? key = some items) :
    walkFaults data (fun v _ ↦ F v) key = [] ↔ ∀ v ∈ items, F v = [] := by
  rw [walkFaults_of_some (walkOf?_of_listOf? h), allFaults_eq_nil]

theorem variableFaults_eq_nil :
    variableFaults names data operation = [] ↔
      ∃ name, data.get? "var" = some (.string name) ∧ name ∈ names := by
  rw [variableFaults]
  split <;> simp_all

theorem constantFaults_eq_nil :
    constantFaults data = [] ↔
      ∃ n, data.get? "value" = some (.int n) ∧ Build.minInt32 ≤ n ∧ n ≤ Build.maxInt32 := by
  rw [constantFaults]
  split <;> simp_all

theorem branchFaults_eq_nil :
    branchFaults scope data = [] ↔ ∃ target labels outer, data.get? "target" = some target ∧
      scope = labels :: outer ∧ ∃ label ∈ labels.blocks, label.same target := by
  rw [branchFaults.eq_def]
  split <;> simp_all

theorem leaveFaults_eq_nil :
    leaveFaults scope data = [] ↔ ∀ target, data.given? "target" = some target →
      ∃ l ∈ scope, l.container.same target := by
  rw [leaveFaults]
  split <;> simp_all

theorem argumentFaults_eq_nil :
    argumentFaults data (fun v _ ↦ F v) = [] ↔
      ∃ items, data.listOf? "args" = some items ∧ ∀ v ∈ items, F v = [] := by
  cases hlist : data.listOf? "args" with
  | some items => simp [argumentFaults_of_list hlist, allFaults_eq_nil]
  | none =>
    obtain ⟨v, hget, hne⟩ := exists_of_listOf?_eq_none hlist
    simp [argumentFaults_of_not_list hget hne]

theorem blockHeadsFaults_eq_nil {label : Value} {index : Nat} {items : List Value} :
    blockHeadsFaults label index items = [] ↔ ∀ b ∈ items, (∃ members, b = .object members) ∧
      ∃ kind : BlockKind, (b.kindOr "ControlFlow").Spells kind := by
  induction items generalizing index with
  | nil => simp [blockHeadsFaults]
  | cons b rest ih =>
    rw [blockHeadsFaults.eq_def]
    cases b <;> simp [blockHeadFaults, spellingFaults_eq_nil, ih]

theorem blocksFaults_eq_nil {bound : Nat} {items : List Value}
    {h : ∀ v ∈ items, v.height < bound}
    (hlists : ∀ b ∈ items, ∃ parts, b.listOf? "instructions" = some parts) :
    blocksFaults (fun v _ ↦ F v) items h = [] ↔
      ∀ b ∈ items, ∀ parts, b.listOf? "instructions" = some parts → ∀ v ∈ parts, F v = [] := by
  induction items with
  | nil => simp [blocksFaults]
  | cons b rest ih =>
    obtain ⟨⟨parts, hparts⟩, hrest⟩ := List.forall_mem_cons.1 hlists
    rw [blocksFaults, List.append_eq_nil_iff, ih hrest, walkFaults_eq_nil hparts]
    simp [hparts]

theorem containerFaults_eq_nil {depth : Nat} {G : Labels → Value → List LoadFault}
    (hlists : ∀ b ∈ (data.listOf? "blocks").getD [],
      ∃ parts, b.listOf? "instructions" = some parts) :
    containerFaults depth data (fun labels v _ ↦ G labels v) = [] ↔
      ∃ items, data.listOf? "blocks" = some items ∧
        (∀ b ∈ items, (∃ members, b = .object members) ∧
          ∃ kind : BlockKind, (b.kindOr "ControlFlow").Spells kind) ∧
        ∀ b ∈ items, ∀ parts, b.listOf? "instructions" = some parts →
          ∀ v ∈ parts, G (.ofContainer depth data items) v = [] := by
  rcases Option.eq_none_or_eq_some (data.listOf? "blocks") with hlist | ⟨items, hlist⟩
  · obtain ⟨v, hget, hne⟩ := exists_of_listOf?_eq_none hlist
    simp [containerFaults_of_not_list hget hne, hlist]
  · rw [hlist, Option.getD_some] at hlists
    simp [containerFaults_of_list hlist, hlist, blockHeadsFaults_eq_nil, blocksFaults_eq_nil hlists]

/-- Nothing is wrong with a node exactly if it names an operation, and nothing is wrong with what
the operation needs. -/
theorem faults_eq_nil :
    faults names scope data = [] ↔ ∃ operation, data.operation? = some operation ∧
      operationFaults names scope data (fun scope v _ ↦ faults names scope v) operation = [] := by
  rw [faults_eq, faultsWith, operation?]
  cases hget : data.get? "op" with
  | none => simp
  | some v =>
    cases v with
    | string name =>
      dsimp only
      cases Operation.ofName? name <;> simp
    | _ => simp

theorem hasLists_iff :
    data.HasLists ↔ (∀ b ∈ data.blocksOf, ∃ items, b.listOf? "instructions" = some items) ∧
      ∀ v ∈ data.partsOf, v.HasLists :=
  ⟨fun ⟨hblocks, hparts⟩ ↦ ⟨hblocks, hparts⟩, fun ⟨hblocks, hparts⟩ ↦ .intro hblocks hparts⟩

/-! ### Nodes -/

/-- An instruction of a block is a part of what the block belongs to. -/
theorem mem_partsOf_of_mem_blocksOf {b v : Value} {parts : List Value}
    (hop : data.operation? = some .block ∨ data.operation? = some .container)
    (hb : b ∈ data.blocksOf) (hparts : b.listOf? "instructions" = some parts) (hv : v ∈ parts) :
    v ∈ data.partsOf := by
  have hmem : v ∈ data.blocksOf.flatMap fun b ↦ (b.walkOf? "instructions").getD [] :=
    List.mem_flatMap.2 ⟨b, hb, by rwa [walkOf?_of_listOf? hparts]⟩
  rcases hop with hop | hop
  · rwa [partsOf, hop]
  · rwa [partsOf, hop]

theorem faults_eq_nil_of_isNode (h : IsNode names scope data) :
    faults names scope data = [] ∧ data.HasLists := by
  induction h with
  | nop hop =>
    exact ⟨faults_eq_nil.2 ⟨_, hop, rfl⟩, hasLists_iff.2 (by simp [blocksOf, partsOf, hop])⟩
  | constant hop hvalue hmin hmax =>
    refine ⟨faults_eq_nil.2 ⟨_, hop, ?_⟩, hasLists_iff.2 (by simp [blocksOf, partsOf, hop])⟩
    exact constantFaults_eq_nil.2 ⟨_, hvalue, hmin, hmax⟩
  | load hop hvar hname =>
    refine ⟨faults_eq_nil.2 ⟨_, hop, ?_⟩, hasLists_iff.2 (by simp [blocksOf, partsOf, hop])⟩
    exact variableFaults_eq_nil.2 ⟨_, hvar, hname⟩
  | store hop hvar hname hvalue _ ih =>
    refine ⟨faults_eq_nil.2 ⟨_, hop, ?_⟩,
      hasLists_iff.2 (by simp [blocksOf, partsOf, hop, hvalue, ih.2])⟩
    simp only [operationFaults, List.append_eq_nil_iff, variableFaults_eq_nil, memberFaults_eq_nil]
    exact ⟨⟨_, hvar, hname⟩, _, hvalue, ih.1⟩
  | compare hop hkind hspells hl _ hr _ ihl ihr
  | binary hop hkind hspells hl _ hr _ ihl ihr =>
    refine ⟨faults_eq_nil.2 ⟨_, hop, ?_⟩, hasLists_iff.2 ?_⟩
    · simp only [operationFaults, List.append_eq_nil_iff, requiredSpellingFaults_eq_nil,
        memberFaults_eq_nil]
      exact ⟨⟨_, hkind, _, hspells⟩, ⟨_, hl, ihl.1⟩, _, hr, ihr.1⟩
    · simp [blocksOf, partsOf, hop, hl, hr, ihl.2, ihr.2]
  | cond hop hc _ hyes _ _ ihc ihyes ihno =>
    refine ⟨faults_eq_nil.2 ⟨_, hop, ?_⟩, hasLists_iff.2 ?_⟩
    · simp only [operationFaults, List.append_eq_nil_iff, memberFaults_eq_nil, memberFaults?_eq_nil]
      exact ⟨⟨_, hc, ihc.1⟩, ⟨_, hyes, ihyes.1⟩, fun no hno ↦ (ihno no hno).1⟩
    · simpa [blocksOf, partsOf, hop, hc, hyes, ihc.2, ihyes.2] using fun no hno ↦ (ihno no hno).2
  | call hop hitems _ ih =>
    refine ⟨faults_eq_nil.2 ⟨_, hop, ?_⟩, hasLists_iff.2 ?_⟩
    · exact argumentFaults_eq_nil.2 ⟨_, hitems, fun v hv ↦ (ih v hv).1⟩
    · simpa [blocksOf, partsOf, hop, hitems] using fun v hv ↦ (ih v hv).2
  | branch hop htarget hlabel =>
    refine ⟨faults_eq_nil.2 ⟨_, hop, ?_⟩, hasLists_iff.2 (by simp [blocksOf, partsOf, hop])⟩
    exact branchFaults_eq_nil.2 ⟨_, _, _, htarget, rfl, hlabel⟩
  | leave hop _ htarget ih =>
    refine ⟨faults_eq_nil.2 ⟨_, hop, ?_⟩, hasLists_iff.2 ?_⟩
    · simp only [operationFaults, List.append_eq_nil_iff, memberFaults?_eq_nil, leaveFaults_eq_nil]
      exact ⟨fun v hv ↦ (ih v hv).1, htarget⟩
    · simpa [blocksOf, partsOf, hop] using fun v hv ↦ (ih v hv).2
  | block hop hkind hitems _ ih =>
    refine ⟨faults_eq_nil.2 ⟨_, hop, ?_⟩, hasLists_iff.2 ?_⟩
    · simp only [operationFaults, List.append_eq_nil_iff, blockHeadFaults, spellingFaults_eq_nil,
        walkFaults_eq_nil hitems]
      exact ⟨⟨_, hkind⟩, fun v hv ↦ (ih v hv).1⟩
    · simpa [blocksOf, partsOf, hop, hitems, walkOf?_of_listOf? hitems] using
        fun v hv ↦ (ih v hv).2
  | container hop hkind hblocks hheads _ ih =>
    have hlists b (hb : b ∈ _) := (hheads b hb).instructions
    refine ⟨faults_eq_nil.2 ⟨_, hop, ?_⟩, hasLists_iff.2 ?_⟩
    · simp only [operationFaults, List.append_eq_nil_iff, spellingFaults_eq_nil]
      refine ⟨⟨_, hkind⟩, (containerFaults_eq_nil (by simpa [hblocks] using hlists)).2
        ⟨_, hblocks, fun b hb ↦ ⟨(hheads b hb).object, (hheads b hb).kind⟩, ?_⟩⟩
      exact fun b hb parts hparts v hv ↦ (ih b hb parts hparts v hv).1
    · refine ⟨by simpa [blocksOf, hop, hblocks] using hlists, fun v hv ↦ ?_⟩
      simp only [partsOf, blocksOf, hop, hblocks, Option.getD_some, List.mem_flatMap] at hv
      obtain ⟨b, hb, hv⟩ := hv
      obtain ⟨parts, hparts⟩ := hlists b hb
      rw [walkOf?_of_listOf? hparts] at hv
      exact (ih b hb parts hparts v hv).2

theorem isNode_of_faults_eq_nil (hlists : data.HasLists) (h : faults names scope data = []) :
    IsNode names scope data := by
  induction hlists generalizing scope with
  | @intro data hblocks _ ih =>
    obtain ⟨operation, hop, h⟩ := faults_eq_nil.1 h
    cases operation with
    | nop => exact .nop hop
    | constant =>
      obtain ⟨n, hvalue, hmin, hmax⟩ := constantFaults_eq_nil.1 h
      exact .constant hop hvalue hmin hmax
    | load =>
      obtain ⟨name, hvar, hname⟩ := variableFaults_eq_nil.1 h
      exact .load hop hvar hname
    | store =>
      simp only [operationFaults, List.append_eq_nil_iff, variableFaults_eq_nil,
        memberFaults_eq_nil] at h
      obtain ⟨⟨name, hvar, hname⟩, value, hget, hvalue⟩ := h
      exact .store hop hvar hname hget (ih value (by simp [partsOf, hop, hget]) hvalue)
    | compare =>
      simp only [operationFaults, List.append_eq_nil_iff, requiredSpellingFaults_eq_nil,
        memberFaults_eq_nil] at h
      obtain ⟨⟨spelling, hkind, kind, hspells⟩, ⟨l, hgetl, hl⟩, r, hgetr, hr⟩ := h
      exact .compare hop hkind hspells hgetl (ih l (by simp [partsOf, hop, hgetl]) hl) hgetr
        (ih r (by simp [partsOf, hop, hgetr]) hr)
    | binary =>
      simp only [operationFaults, List.append_eq_nil_iff, requiredSpellingFaults_eq_nil,
        memberFaults_eq_nil] at h
      obtain ⟨⟨spelling, hoperator, operator, hspells⟩, ⟨l, hgetl, hl⟩, r, hgetr, hr⟩ := h
      exact .binary hop hoperator hspells hgetl (ih l (by simp [partsOf, hop, hgetl]) hl) hgetr
        (ih r (by simp [partsOf, hop, hgetr]) hr)
    | cond =>
      simp only [operationFaults, List.append_eq_nil_iff, memberFaults_eq_nil,
        memberFaults?_eq_nil] at h
      obtain ⟨⟨c, hgetc, hc⟩, ⟨yes, hgetyes, hyes⟩, hno⟩ := h
      refine .cond hop hgetc (ih c (by simp [partsOf, hop, hgetc]) hc) hgetyes
        (ih yes (by simp [partsOf, hop, hgetyes]) hyes) fun no hgetno ↦ ?_
      exact ih no (by simp [partsOf, hop, hgetno]) (hno no hgetno)
    | call =>
      obtain ⟨items, hitems, hall⟩ := argumentFaults_eq_nil.1 h
      exact .call hop hitems fun v hv ↦ ih v (by simpa [partsOf, hop, hitems]) (hall v hv)
    | branch =>
      obtain ⟨target, labels, outer, htarget, rfl, hlabel⟩ := branchFaults_eq_nil.1 h
      exact .branch hop htarget hlabel
    | leave =>
      cases scope with
      | nil => cases h
      | cons labels outer =>
        simp only [operationFaults, List.append_eq_nil_iff, memberFaults?_eq_nil,
          leaveFaults_eq_nil] at h
        exact .leave hop (fun v hv ↦ ih v (by simp [partsOf, hop, hv]) (h.1 v hv)) h.2
    | block =>
      obtain ⟨items, hitems⟩ := hblocks data (by simp [blocksOf, hop])
      simp only [operationFaults, List.append_eq_nil_iff, blockHeadFaults, spellingFaults_eq_nil,
        walkFaults_eq_nil hitems] at h
      obtain ⟨⟨kind, hkind⟩, hall⟩ := h
      refine .block hop hkind hitems fun v hv ↦ ih v ?_ (hall v hv)
      exact mem_partsOf_of_mem_blocksOf (.inl hop) (by simp [blocksOf, hop]) hitems hv
    | container =>
      have hlists : ∀ b ∈ (data.listOf? "blocks").getD [],
          ∃ parts, b.listOf? "instructions" = some parts := by simpa [blocksOf, hop] using hblocks
      simp only [operationFaults, List.append_eq_nil_iff, spellingFaults_eq_nil,
        containerFaults_eq_nil hlists] at h
      obtain ⟨⟨kind, hkind⟩, blocks, hget, hheads, hall⟩ := h
      rw [hget, Option.getD_some] at hlists
      refine .container hop hkind hget (fun b hb ↦ ?_) fun b hb parts hparts v hv ↦ ?_
      · exact ⟨(hheads b hb).1, (hheads b hb).2, hlists b hb⟩
      · have hmem : b ∈ data.blocksOf := by simpa [blocksOf, hop, hget] using hb
        exact ih v (mem_partsOf_of_mem_blocksOf (.inr hop) hmem hparts hv)
          (hall b hb parts hparts v hv)

/-- **The nodes of the grammar** are those that nothing is wrong with, as long as they have
lists. -/
theorem isNode_iff :
    IsNode names scope data ↔ faults names scope data = [] ∧ data.HasLists :=
  ⟨faults_eq_nil_of_isNode, fun ⟨h, hlists⟩ ↦ isNode_of_faults_eq_nil hlists h⟩

/-! ### Functions -/

/-- Nothing is wrong with declarations exactly if each of them is one, and no name is declared
twice, nor one that has been declared before. -/
theorem declarationFaults_eq_nil {function : Text} {index : Nat} {items : List Value}
    (hnodup : names.Nodup) :
    declarationFaults function index names items = [] ↔
      (∀ v ∈ items, v.IsVariable) ∧ (names ++ items.filterMap name?).Nodup := by
  induction items generalizing index names with
  | nil => simpa [declarationFaults]
  | cons v rest ih =>
    rw [declarationFaults, List.forall_mem_cons, IsVariable]
    cases hname : v.name? with
    | none => simp
    | some name =>
      have htype : spellingFaults PrimitiveType "variable type" ((v.get? "type").getD .null) = [] ↔
          ∃ spelling, ∃ type : PrimitiveType,
            v.get? "type" = some spelling ∧ spelling.Spells type := by
        rw [spellingFaults_eq_nil]
        cases v.get? "type" <;> simp [Spells]
      rw [List.append_eq_nil_iff, htype, List.filterMap_cons_some hname]
      by_cases hmem : name ∈ names
      · have hdup : ¬ (names ++ name :: rest.filterMap name?).Nodup := fun h ↦
          (List.nodup_append.1 h).2.2 name hmem name (List.mem_cons_self ..) rfl
        simp [hmem, hdup]
      · have hnew : (names ++ [name]).Nodup := by
          rw [← List.concat_eq_append]
          exact hnodup.concat hmem
        rw [if_neg hmem, ih hnew, List.append_assoc, List.singleton_append]
        simp [and_assoc]

theorem bodyFaults_eq_nil {function : Text} (hop : data.operation? = some operation) :
    bodyFaults function data = [] ↔ operation = .block ∨ operation = .container := by
  rw [bodyFaults, hop]
  cases operation <;> simp

theorem functionFaults_eq_nil (h : ∃ items, data.listOf? "variables" = some items) :
    data.functionFaults = [] ↔ ∃ name items body, data.name? = some name ∧
      data.listOf? "variables" = some items ∧ data.get? "body" = some body ∧
      declarationFaults name 0 [] items = [] ∧ faults (items.filterMap name?) [] body = [] ∧
      bodyFaults name body = [] := by
  obtain ⟨items, hitems⟩ := h
  rw [functionFaults, walkOf?_of_listOf? hitems, hitems]
  cases data.name? with
  | none => simp
  | some name => cases data.get? "body" <;> simp

/-- **The functions of the grammar** are those that nothing is wrong with, as long as they have
lists. -/
theorem isFunction_iff :
    data.IsFunction ↔ data.functionFaults = [] ∧ data.FunctionHasLists := by
  constructor
  · rintro ⟨⟨name, hname⟩, items, hitems, hvariables, hnodup, body, hbody, hop, hnode⟩
    obtain ⟨hfaults, hlists⟩ := faults_eq_nil_of_isNode hnode
    refine ⟨(functionFaults_eq_nil ⟨items, hitems⟩).2 ⟨name, items, body, hname, hitems, hbody,
      (declarationFaults_eq_nil List.nodup_nil).2 ⟨hvariables, hnodup⟩, hfaults, ?_⟩,
      ⟨items, hitems⟩, fun d hd ↦ Option.some.inj (hbody.symm.trans hd) ▸ hlists⟩
    rcases hop with hop | hop
    · exact (bodyFaults_eq_nil hop).2 (.inl rfl)
    · exact (bodyFaults_eq_nil hop).2 (.inr rfl)
  · rintro ⟨h, hlists⟩
    obtain ⟨name, items, body, hname, hitems, hbody, hdeclared, hfaults, hkind⟩ :=
      (functionFaults_eq_nil hlists.declarations).1 h
    obtain ⟨hvariables, hnodup⟩ := (declarationFaults_eq_nil List.nodup_nil).1 hdeclared
    have hnode := isNode_of_faults_eq_nil (hlists.body body hbody) hfaults
    obtain ⟨operation, hop, -⟩ := faults_eq_nil.1 hfaults
    refine ⟨⟨name, hname⟩, items, hitems, hvariables, hnodup, body, hbody, ?_, hnode⟩
    rcases (bodyFaults_eq_nil hop).1 hkind with rfl | rfl
    · exact .inl hop
    · exact .inr hop

end Value

namespace Build

/-- **A load accepts its grammar.** A function whose variables are a list or left out, and the
instructions in it too, is built exactly if it is a function of the grammar. -/
theorem exists_buildFunction_iff {members : List (Text × Value)}
    (h : (Value.object members).FunctionHasLists) (s : LoadSettings) (w : Workspace) :
    (∃ f w', buildFunction s (.object members) w = .ok f w') ↔
      (Value.object members).IsFunction := by
  rw [(ends_buildFunction s members).exists_ok_iff trivial, Value.isFunction_iff, and_iff_left h]

namespace BranchOrLeave

/-- The labels inside the loop. -/
def labels : Labels := ⟨.string "loop", [.string "head"]⟩

/-- A conditional that goes on with the loop or leaves it. -/
def conditional : Value :=
  .ofOperation "if" [("condition", .ofOperation "ldc.i4" [("value", .int 1)]),
    ("true", .ofOperation "br" [("target", .string "head")]),
    ("false", .ofOperation "leave" [])]

/-- A function that is a loop around the conditional. -/
def document : List (Text × Value) :=
  [("name", .string "Main"), ("body", .ofContainer "Loop" "loop" [("head", [conditional])])]

theorem isNode_conditional : Value.IsNode [] [labels] conditional := by
  refine .cond rfl rfl (.constant rfl rfl (by decide) (by decide)) rfl ?_ fun no hno ↦ ?_
  · exact .branch rfl rfl ⟨_, List.mem_singleton_self _, rfl⟩
  · cases hno
    exact .leave rfl nofun nofun

theorem isFunction_document : (Value.object document).IsFunction := by
  refine ⟨⟨_, rfl⟩, [], rfl, nofun, List.nodup_nil, _, rfl, .inr rfl, ?_⟩
  have hkind : (Value.string "Loop").Spells ContainerKind.loop := ⟨_, rfl, rfl⟩
  refine .container rfl hkind rfl ?_ ?_
  · rw [List.map_singleton, List.forall_mem_singleton]
    exact ⟨⟨_, rfl⟩, ⟨.controlFlow, _, rfl, rfl⟩, _, rfl⟩
  · rw [List.map_singleton, List.forall_mem_singleton]
    rintro items hitems
    cases hitems
    exact List.forall_mem_singleton.2 isNode_conditional

end BranchOrLeave

open BranchOrLeave in
/-- The loop around the conditional is built. -/
theorem exists_buildFunction_of_loop :
    ∃ f w', buildFunction .standard (.object document) .empty = .ok f w' := by
  have hlists := (Value.isFunction_iff.1 isFunction_document).2
  exact (exists_buildFunction_iff hlists .standard .empty).2 isFunction_document

end Build

end StructuredIL
