import StructuredIL.Proofs.Loading.Builders
import StructuredIL.Proofs.Loading.Evaluation

/-!
# Functions and modules

The steps above a node. A function begins with an empty workspace, so what comes of it does not
depend on what has been loaded before: it is what its document describes, or the first fault of the
document (`Build.ends_buildFunction`). The functions of a module are built one after the other, and
those that are not wanted are not looked at (`Build.ends_buildModule`).
-/

namespace StructuredIL

/-- Whether a value is a function that is wanted. -/
def LoadSettings.wants (s : LoadSettings) (data : Value) : Bool := data.name?.any s.selects

namespace Build

variable {s : LoadSettings} {data : Value}

/-! ### Variables -/

theorem yields_buildVariable {S : Scope} {index : Nat} {name : Text} (h : data.name? = some name) :
    Yields S (buildVariable data index)
      (fun v next ↦ (v.name = name ∧ v.Realizes index data) ∧ S.used ≤ next)
      (Value.spellingFaults PrimitiveType "variable type" ((data.get? "type").getD .null)) := by
  have hname := Value.name?_eq_some.1 h
  rw [buildVariable, hname]
  dsimp only
  rw [← map_eq_pure_bind]
  refine (yields_spelled _ _).map fun type next ⟨⟨spelling, hspelling, htype⟩, hnext⟩ ↦ ?_
  have hget : data.get? "type" = some (.string spelling) := by
    cases htypeData : data.get? "type" <;> simp_all
  exact ⟨⟨rfl, hname, ⟨_, hget, spelling, rfl, htype⟩, rfl⟩, hnext⟩

theorem buildVariable_eq_reject {index : Nat} (h : data.name? = none) :
    buildVariable data index = reject (.variableWithoutName index) := by
  rw [Value.name?] at h
  rw [buildVariable]
  split <;> simp_all

theorem ends_declare {locals : List Variable} {v : Variable} {E : Workspace → Prop} :
    Ends (·.IsIn ⟨locals, [], 0⟩) (declare v) (fun _ w ↦ w.IsIn ⟨locals ++ [v], [], 0⟩) E [] where
  of_ok hw h := by
    cases h
    exact ⟨⟨congrArg (· ++ [v]) hw.locals, hw.containers, hw.used_le⟩, rfl⟩
  of_error _ h := nomatch h

/-- Declaring variables gives those that are declared, behind the ones that are there, and no name
is declared twice. -/
theorem ends_declareAll (function : Text) (locals : List Variable) (items : List Value)
    (hnodup : (locals.map Variable.name).Nodup) :
    Ends (·.IsIn ⟨locals, [], 0⟩) (declareAll function locals.length items)
      (fun _ w ↦ ∃ new, w.IsIn ⟨locals ++ new, [], 0⟩ ∧
        List.Forall₂ (fun p data ↦ p.1.Realizes p.2 data) (new.zipIdx locals.length) items ∧
        ((locals ++ new).map Variable.name).Nodup)
      (fun _ ↦ True)
      (Value.declarationFaults function locals.length (locals.map Variable.name) items) := by
  induction items generalizing locals with
  | nil =>
    refine .pure fun w hw ↦ ⟨[], ?_, .nil, ?_⟩
    · rwa [List.append_nil]
    · rwa [List.append_nil]
  | cons data rest ih =>
    rw [declareAll, Value.declarationFaults]
    cases hname : data.name? with
    | none =>
      rw [buildVariable_eq_reject hname]
      exact .throw_bind fun _ _ ↦ trivial
    | some name =>
      refine (yields_buildVariable hname).ends.bind fun v w ⟨hw, ⟨rfl, hv⟩, _⟩ ↦ .of_isIn hw ?_
      refine (yields_findVariable v.name).ends.bind_nil fun v? w ⟨hw, _, hfound⟩ ↦ .of_isIn hw ?_
      cases v? with
      | some u =>
        have hmem : v.name ∈ locals.map Variable.name := hfound.2 ▸ List.mem_map_of_mem hfound.1
        rw [if_pos hmem]
        exact .throw fun _ _ ↦ trivial
      | none =>
        have hnot : v.name ∉ locals.map Variable.name := hfound
        have hnew : ((locals ++ [v]).map Variable.name).Nodup := by
          rw [List.map_append, List.map_singleton, ← List.concat_eq_append]
          exact hnodup.concat hnot
        have hrest := ih (locals ++ [v]) hnew
        rw [List.length_append, List.length_singleton, List.map_append, List.map_singleton] at hrest
        rw [if_neg hnot]
        refine ends_declare.bind_nil fun _ w hw ↦ .of_isIn hw ?_
        refine hrest.mono (fun _ hw ↦ hw) (fun _ w ⟨new, hw, hall, hnames⟩ ↦ ?_) fun _ h ↦ h
        rw [List.append_assoc, List.singleton_append] at hw hnames
        exact ⟨v :: new, hw, .cons hv hall, hnames⟩

/-! ### Functions -/

theorem functionName_eq_pure {name : Text} (h : data.name? = some name) :
    functionName data = pure name := by
  rw [functionName, Value.name?_eq_some.1 h]

theorem functionName_eq_reject (h : data.name? = none) :
    functionName data = reject .functionWithoutName := by
  rw [Value.name?] at h
  rw [functionName]
  split <;> simp_all

/-- A function begins with an empty workspace. -/
theorem ends_clear {E : Workspace → Prop} :
    Ends (fun _ ↦ True) clear (fun _ w ↦ w.IsIn ⟨[], [], 0⟩) E [] where
  of_ok _ h := by
    cases h
    exact ⟨⟨rfl, rfl, Nat.le_refl _⟩, rfl⟩
  of_error _ h := nomatch h

theorem ends_buildMembers (s : LoadSettings) (data : Value) :
    Ends (fun _ ↦ True) (buildMembers s data) (fun f _ ↦ f.Realizes s data) (fun _ ↦ True)
      data.functionFaults := by
  rw [buildMembers, Value.functionFaults.eq_def]
  cases hname : data.name? with
  | none =>
    rw [functionName_eq_reject hname]
    exact .throw_bind fun _ _ ↦ trivial
  | some name =>
    rw [functionName_eq_pure hname, pure_bind]
    refine ends_clear.bind_nil fun _ w hw ↦ .of_isIn hw ?_
    cases hwalk : data.walkOf? "variables" with
    | none =>
      rw [elementsOf_eq_throw hwalk]
      exact .throw_bind fun _ _ ↦ trivial
    | some items =>
      rw [elementsOf_eq_pure hwalk, pure_bind]
      refine (ends_declareAll name [] items List.nodup_nil).bind fun _ w h ↦ ?_
      obtain ⟨locals, hw, hall, hnodup⟩ := h
      refine .of_isIn hw ?_
      cases hbodyData : data.get? "body" with
      | none => exact .throw fun _ _ ↦ trivial
      | some bodyData =>
        dsimp only
        rw [← Variable.names_eq hall]
        refine (yields_buildNode s bodyData ⟨locals, [], 0⟩).ends.bind fun body w h ↦ ?_
        obtain ⟨hw, hbody⟩ := h
        refine .of_isIn hw (.get_bind fun w hw ↦ ?_)
        have hrealizes : Function.Realizes s ⟨name, locals, body⟩ data :=
          ⟨Value.name?_eq_some.1 hname, ⟨items, hwalk, hall⟩, hnodup,
            ⟨bodyData, hbodyData, hbody.realizes⟩, hbody.numbers.nodup⟩
        rw [hw.locals]
        have hdone {text : Text} : Ends (·.IsIn ⟨locals, [], 0⟩)
            (progress text >>= fun _ ↦ pure ⟨name, locals, body⟩)
            (fun f _ ↦ Function.Realizes s f data) (fun _ ↦ True) [] :=
          ends_progress.bind_nil fun _ _ _ ↦ .pure fun _ _ ↦ hrealizes
        cases body with
        | block b =>
          have hop : bodyData.operation? = some .block := hbody.realizes.1
          rw [Value.bodyFaults, hop]
          exact hdone
        | container head blocks =>
          have hop : bodyData.operation? = some .container := hbody.realizes.1
          rw [Value.bodyFaults, hop]
          exact hdone
        | bare op => exact hbody.realizes.elim
        | nop =>
          have hop : bodyData.operation? = some .nop := hbody.realizes
          rw [Value.bodyFaults, hop]
          exact .throw_bind fun _ _ ↦ trivial
        | _ =>
          rw [Value.bodyFaults, hbody.realizes.1]
          exact .throw_bind fun _ _ ↦ trivial

/-- **Building a function** gives what its document describes if nothing is wrong with it, and fails
with the first thing that is. -/
theorem ends_buildFunction (s : LoadSettings) (members : List (Text × Value)) :
    Ends (fun _ ↦ True) (buildFunction s (.object members))
      (fun f _ ↦ f.Realizes s (.object members)) (fun _ ↦ True)
      (Value.object members).functionFaults :=
  ends_buildMembers s (.object members)

theorem resolved_of_buildFunction {w w' : Workspace} {f : Function}
    (h : buildFunction s data w = .ok f w') : f.Resolved := by
  cases data with
  | object members => exact ((ends_buildFunction s members).of_ok trivial h).1.resolved
  | _ => cases h

/-! ### Modules -/

/-- The wanted ones of some functions are built, in order. -/
theorem ends_buildWanted (s : LoadSettings) (items : List Value) :
    Ends (fun _ ↦ True) (buildWanted s items)
      (fun fs _ ↦ List.Forall₂ (fun f data ↦ f.Realizes s data) fs (items.filter s.wants))
      (fun _ ↦ True) (items.flatMap (Value.wantedFaults s)) := by
  induction items with
  | nil => exact .pure fun _ _ ↦ .nil
  | cons data rest ih =>
    rw [buildWanted, List.flatMap_cons, Value.wantedFaults]
    cases hname : data.name? with
    | none =>
      rw [functionName_eq_reject hname]
      exact .throw_bind fun _ _ ↦ trivial
    | some name =>
      rw [functionName_eq_pure hname, pure_bind]
      dsimp only
      by_cases hselects : s.selects name
      · have hwants : s.wants data := by simpa [LoadSettings.wants, hname] using hselects
        rw [if_pos hselects, if_pos hselects, List.filter_cons_of_pos hwants]
        cases data with
        | object members =>
          refine (ends_buildFunction s members).bind fun f _ hf ↦ ?_
          rw [← map_eq_pure_bind]
          refine (ih.map fun fs _ hfs ↦ .cons hf hfs).mono (fun _ _ ↦ trivial) (fun _ _ h ↦ h)
            fun _ h ↦ h
        | _ => cases hname
      · have hwants : ¬ s.wants data := by simpa [LoadSettings.wants, hname] using hselects
        rw [if_neg hselects, if_neg hselects, List.filter_cons_of_neg hwants]
        refine ends_progress.bind_nil fun _ _ _ ↦ ih.mono (fun _ _ ↦ trivial) (fun _ _ h ↦ h)
            fun _ h ↦ h

/-- **Building a module** gives the wanted ones of its functions if nothing is wrong with them, and
fails with the first thing that is. -/
theorem ends_buildModule (s : LoadSettings) (data : Value) :
    Ends (fun _ ↦ True) (buildModule s data)
      (fun fs _ ↦ ∃ items, data.get? "functions" = some (.list items) ∧
        List.Forall₂ (fun f data ↦ f.Realizes s data) fs (items.filter s.wants))
      (fun _ ↦ True) (data.moduleFaults s) := by
  rw [buildModule.eq_def, Value.moduleFaults.eq_def]
  cases hget : data.get? "functions" with
  | none => exact .throw fun _ _ ↦ trivial
  | some v =>
    cases v with
    | list items =>
      exact (ends_buildWanted s items).mono (fun _ h ↦ h) (fun fs _ hfs ↦ ⟨items, rfl, hfs⟩)
        fun _ h ↦ h
    | _ => exact .throw fun _ _ ↦ trivial

/-- **References of loaded functions.** The functions of a module that is built are the wanted ones,
in order, and each of them is what its document says, with every name resolved as `Node.Realizes`
has it. -/
theorem realizes_of_buildModule {w w' : Workspace} {fs : List Function}
    (h : buildModule s data w = .ok fs w') :
    ∃ items, data.get? "functions" = some (.list items) ∧
      List.Forall₂ (fun f item ↦ f.Realizes s item) fs (items.filter s.wants) :=
  ((ends_buildModule s data).of_ok trivial h).1

namespace SharedLabel

/-- A loop. Two of its blocks have one label, and a branch goes forward to the first of them. There
is a leave that names the loop and one that does not. -/
def document : List (Text × Value) :=
  [("name", .string "Main"),
    ("variables", .list [.ofFields [("name", .string "x"), ("type", .string "I4")]]),
    ("body", .ofContainer "Loop" "loop"
      [("head", [.ofOperation "nop" [],
          .ofOperation "stloc" [("var", .string "x"),
            ("value", .ofOperation "ldc.i4" [("value", .int 1)])],
          .ofOperation "br" [("target", .string "tail")]]),
        ("tail", [.ofOperation "leave" [("target", .string "loop")]]),
        ("tail", [.ofOperation "leave" []])])]

/-- A module with a function that is wanted and one that is not. -/
def moduleDocument : Value :=
  .ofFields [("functions", .list [.object document, .ofFields [("name", .string "helper")]])]

/-- The variable of the function. -/
def x : Variable := ⟨"x", .i4, some 0⟩

/-- The loop. -/
def loop : ContainerHead := ⟨0, .loop, .string "loop"⟩

/-- The first block of the shared label. -/
def tail : BlockHead := ⟨2, .controlFlow, .string "tail"⟩

/-- The function that is wanted. -/
def function : Function :=
  ⟨"Main", [x], .container loop
    [⟨⟨1, .controlFlow, .string "head"⟩, [.store x (.constant 1), .branch tail]⟩,
      ⟨tail, [.leave loop .nop]⟩,
      ⟨⟨3, .controlFlow, .string "tail"⟩, [.leave loop .nop]⟩]⟩

theorem built : ∃ w', buildModule .standard moduleDocument .empty = .ok [function] w' := by
  obtain ⟨w, hfunction⟩ :
      ∃ w, buildFunction .standard (.object document) .empty = .ok function w :=
    buildFunction_eq_ok 10 (by decide) rfl rfl rfl rfl rfl rfl
  obtain ⟨w', hrest⟩ : ∃ w',
      buildWanted .standard [.ofFields [("name", .string "helper")]] w = .ok [] w' := ⟨_, rfl⟩
  refine ⟨w', bind_eq_ok.2 ⟨"Main", .empty, rfl, ?_⟩⟩
  exact bind_eq_ok.2 ⟨function, w, hfunction, bind_eq_ok.2 ⟨[], w', hrest, rfl⟩⟩

end SharedLabel

open SharedLabel in
/-- The function is what its document says: the branch goes to the first block of the label. -/
theorem realizes_of_shared_label : ∃ w',
    buildModule .standard moduleDocument .empty = .ok [function] w' ∧
      function.Realizes .standard (.object document) := by
  obtain ⟨w', hbuilt⟩ := built
  obtain ⟨items, hitems, hall⟩ := realizes_of_buildModule hbuilt
  cases hitems
  obtain _ | ⟨hrealizes, -⟩ := hall
  exact ⟨w', hbuilt, hrealizes⟩

end Build

/-- What is loaded from a text is what the module in it says. -/
theorem exists_realizes_of_load {s : LoadSettings} {text : List Char} {fs : List Function}
    (h : (load s text).outcome = .ok fs) :
    ∃ data items, Document.readDocument? text = some data ∧
      data.get? "functions" = some (.list items) ∧
      List.Forall₂ (fun f data ↦ f.Realizes s data) fs (items.filter s.wants) := by
  rw [load, Build.run] at h
  cases hread : Build.readModule s text { Workspace.empty with log := [] } with
  | error e w => rw [hread] at h; cases h
  | ok gs w =>
    rw [hread] at h
    cases h
    rw [Build.readModule] at hread
    cases hdata : Document.readDocument? text with
    | none => rw [hdata] at hread; cases hread
    | some data =>
      rw [hdata] at hread
      obtain ⟨⟨items, hitems, hall⟩, -⟩ := (Build.ends_buildModule s data).of_ok trivial hread
      exact ⟨data, items, rfl, hitems, hall⟩

theorem resolved_of_load {s : LoadSettings} {text : List Char} {fs : List Function}
    (h : (load s text).outcome = .ok fs) {f : Function} (hf : f ∈ fs) : f.Resolved := by
  obtain ⟨data, items, -, -, hall⟩ := exists_realizes_of_load h
  obtain ⟨item, -, hrealizes⟩ := exists_of_forall₂ hall hf
  exact hrealizes.resolved

end StructuredIL
