import Mathlib.Data.List.Infix
import StructuredIL.Proofs.Loading.Reuse

/-!
# Wanted functions

A load takes the functions whose name has a given text in it, and leaves the others unread beyond
their names. Which ones are wanted has no influence on any of them: a load for one text gives, of
the functions that a load for all gives, exactly the wanted ones, in the same order and with the
same trees, and it fails only if that load fails (`Build.buildModule_selects`).

A tree does not depend on which functions are wanted (`Build.buildNode_eq_of_filter`), and a
function not on those before it, since a load forgets them (`Build.forgets_buildFunction`). So the
functions of a module can be told one by one (`Build.outcome_buildWanted_cons`).
-/

namespace StructuredIL

/-! ### Texts in texts -/

namespace LoadSettings

/-- A text occurs in another exactly if something before it and something behind it make the
other. -/
theorem occursIn_iff {part t : Text} : occursIn part t = true ↔ part <:+: t := by
  induction t with
  | nil => rw [occursIn, List.isEmpty_iff, List.infix_nil]
  | cons p rest ih =>
    rw [occursIn, Bool.or_eq_true, ih, List.isPrefixOf_iff_prefix, List.infix_cons_iff]

theorem selects_iff {s : LoadSettings} {name : Text} :
    s.selects name = true ↔ s.methodFilter <:+: name := occursIn_iff

end LoadSettings

namespace Build

/-! ### Trees -/

section

variable (g g' : Text) (removeDeadCode : Bool)

theorem buildBlocks_eq_of_filter {bound : Nat} (build : Below bound) (heads : List BlockHead)
    (items : List Value) (h : ∀ v ∈ items, v.height < bound) :
    buildBlocks ⟨g, removeDeadCode⟩ build heads items h =
      buildBlocks ⟨g', removeDeadCode⟩ build heads items h := by
  induction heads generalizing items with
  | nil => rfl
  | cons head heads ih =>
    cases items with
    | nil => rfl
    | cons data rest =>
      rw [buildBlocks, buildBlocks, ih rest]
      rfl

theorem buildContainer_eq_of_filter (data : Value) (build : Below data.height) :
    buildContainer ⟨g, removeDeadCode⟩ data build =
      buildContainer ⟨g', removeDeadCode⟩ data build := by
  simp only [buildContainer, buildBlocks_eq_of_filter g g']

theorem buildWith_eq_of_filter (data : Value) (build : Below data.height) :
    buildWith ⟨g, removeDeadCode⟩ data build = buildWith ⟨g', removeDeadCode⟩ data build := by
  have hoperation (operation : Operation) :
      buildOperation ⟨g, removeDeadCode⟩ data build operation =
        buildOperation ⟨g', removeDeadCode⟩ data build operation := by
    cases operation with
    | container => exact buildContainer_eq_of_filter g g' removeDeadCode data build
    | _ => rfl
  simp only [buildWith, hoperation]

/-- **A tree is built** the same, whichever functions are wanted. -/
theorem buildNode_eq_of_filter (data : Value) :
    buildNode ⟨g, removeDeadCode⟩ data = buildNode ⟨g', removeDeadCode⟩ data := by
  have hparts : (fun v (_ : v.height < data.height) ↦ buildNode ⟨g, removeDeadCode⟩ v) =
      fun v _ ↦ buildNode ⟨g', removeDeadCode⟩ v := by
    funext v hv
    exact buildNode_eq_of_filter v
  rw [buildNode_eq, buildNode_eq ⟨g', removeDeadCode⟩, hparts]
  exact buildWith_eq_of_filter g g' removeDeadCode data _
termination_by data.height

theorem buildFunction_eq_of_filter (data : Value) :
    buildFunction ⟨g, removeDeadCode⟩ data = buildFunction ⟨g', removeDeadCode⟩ data := by
  cases data with
  | object members =>
    rw [buildFunction, buildFunction]
    simp only [buildMembers, buildNode_eq_of_filter g g']
  | _ => rfl

end

/-! ### Functions one by one -/

section

variable {s : LoadSettings} {data : Value} {rest : List Value} {fs : List Function}

/-- A module that begins with a function has been loaded if the function has a name and the others
are loaded, and if the function can be built where it is wanted. -/
theorem outcome_buildWanted_cons :
    (alone (buildWanted s (data :: rest))).outcome = .ok fs ↔
      ∃ name, data.name? = some name ∧
        if s.selects name then
          ∃ f others, (alone (buildFunction s data)).outcome = .ok f ∧
            (alone (buildWanted s rest)).outcome = .ok others ∧ fs = f :: others
        else (alone (buildWanted s rest)).outcome = .ok fs := by
  rw [buildWanted]
  cases hname : data.name? with
  | none =>
    rw [functionName_eq_reject hname]
    refine iff_of_false (by rintro ⟨⟩) ?_
    rintro ⟨_, ⟨⟩, _⟩
  | some name =>
    rw [functionName_eq_pure hname, pure_bind]
    simp only [Option.some.injEq, exists_eq_left']
    have hrest := forgets_buildWanted s rest
    split
    · rw [alone_bind _ fun f ↦ hrest.bind fun others ↦ .pure (f :: others),
        Logged.outcome_bind_eq_ok]
      refine exists_congr fun f ↦ ?_
      rw [alone_bind _ fun others ↦ .pure (f :: others), Logged.outcome_bind_eq_ok]
      constructor
      · rintro ⟨hf, others, hothers, hfs⟩
        exact ⟨others, hf, hothers, (Except.ok.inj hfs).symm⟩
      · rintro ⟨others, hf, hothers, rfl⟩
        exact ⟨hf, others, hothers, rfl⟩
    · rw [alone_bind _ fun _ ↦ hrest, Logged.outcome_bind_eq_ok]
      constructor
      · rintro ⟨_, -, h⟩
        exact h
      · exact fun h ↦ ⟨(), rfl, h⟩

theorem name_of_buildFunction {name : Text} {f : Function} (hname : data.name? = some name)
    (hf : (alone (buildFunction s data)).outcome = .ok f) : f.name = name := by
  obtain ⟨v, hbuilt⟩ := ((forgets_buildFunction s data).exists_ok_iff .empty).2 hf
  cases data with
  | object members =>
    have hrealizes := ((ends_buildFunction s members).of_ok trivial hbuilt).1
    have hnames := hrealizes.name.symm.trans (Value.name?_eq_some.1 hname)
    exact Value.string.inj (Option.some.inj hnames)
  | _ => cases hbuilt

end

/-- Of the functions that a load for all gives, a load for some gives the wanted ones. -/
theorem outcome_buildWanted_of_all {g : Text} {removeDeadCode : Bool} {items : List Value}
    {fs : List Function} (h : (alone (buildWanted ⟨[], removeDeadCode⟩ items)).outcome = .ok fs) :
    (alone (buildWanted ⟨g, removeDeadCode⟩ items)).outcome =
      .ok (fs.filter fun f ↦ g <:+: f.name) := by
  induction items generalizing fs with
  | nil =>
    cases h
    rfl
  | cons data rest ih =>
    obtain ⟨name, hname, h⟩ := outcome_buildWanted_cons.1 h
    rw [if_pos (LoadSettings.selects_of_empty rfl name)] at h
    obtain ⟨f, others, hf, hothers, rfl⟩ := h
    refine outcome_buildWanted_cons.2 ⟨name, hname, ?_⟩
    have hselects : LoadSettings.selects ⟨g, removeDeadCode⟩ name = true ↔ g <:+: f.name := by
      rw [name_of_buildFunction hname hf]
      exact LoadSettings.selects_iff
    rw [List.filter_cons]
    simp only [hselects, decide_eq_true_eq]
    split
    · rw [buildFunction_eq_of_filter [] g] at hf
      exact ⟨f, _, hf, ih hothers, rfl⟩
    · exact ih hothers

/-- **Wanted functions are loaded by themselves.** If all functions of a module can be loaded, a
load for a text gives those of them whose name has the text in it, in the same order and unchanged.
If a load for a text fails, the load of all functions fails as well. -/
theorem buildModule_selects (g : Text) (removeDeadCode : Bool) (data : Value) (w w' : Workspace) :
    (∀ fs v, buildModule ⟨[], removeDeadCode⟩ data w = .ok fs v →
      ∃ v', buildModule ⟨g, removeDeadCode⟩ data w' = .ok (fs.filter fun f ↦ g <:+: f.name) v') ∧
    ∀ e v', buildModule ⟨g, removeDeadCode⟩ data w' = .error e v' →
      ∃ e' v, buildModule ⟨[], removeDeadCode⟩ data w = .error e' v := by
  have hselected : ∀ fs v, buildModule ⟨[], removeDeadCode⟩ data w = .ok fs v →
      ∃ v', buildModule ⟨g, removeDeadCode⟩ data w' =
        .ok (fs.filter fun f ↦ g <:+: f.name) v' := by
    intro fs v h
    have hall := ((forgets_buildModule _ data).exists_ok_iff w).1 ⟨v, h⟩
    refine ((forgets_buildModule _ data).exists_ok_iff w').2 ?_
    rw [buildModule.eq_def] at hall ⊢
    split at hall
    · exact outcome_buildWanted_of_all hall
    · cases hall
  refine ⟨hselected, fun e v' herror ↦ ?_⟩
  cases hall : buildModule ⟨[], removeDeadCode⟩ data w with
  | error e' v => exact ⟨e', v, rfl⟩
  | ok fs v =>
    obtain ⟨v'', hsome⟩ := hselected fs v hall
    cases hsome.symm.trans herror

namespace ThreeFunctions

/-- A function with a variable and a loop, which are named alike whatever the function is named. -/
def document (name : String) : List (Text × Value) :=
  [("name", .string name),
    ("variables", .list [.ofFields [("name", .string "x"), ("type", .string "I4")]]),
    ("body", .ofContainer "Loop" "loop" [("head", [.ofOperation "stloc" [("var", .string "x"),
        ("value", .ofOperation "ldc.i4" [("value", .int 1)])],
      .ofOperation "leave" [("target", .string "loop")]])])]

/-- The tree of such a function. -/
def function (name : String) : Function :=
  ⟨name, [⟨"x", .i4, some 0⟩], .container ⟨0, .loop, .string "loop"⟩
    [⟨⟨1, .controlFlow, .string "head"⟩,
      [.store ⟨"x", .i4, some 0⟩ (.constant 1), .leave ⟨0, .loop, .string "loop"⟩ .nop]⟩]⟩

/-- A module of three functions. -/
def moduleDocument : Value := .ofFields [("functions",
  .list [.object (document "Main"), .object (document "helper"), .object (document "subMain")])]

/-- A module of a function that has no body. -/
def withoutBody : Value :=
  .ofFields [("functions", .list [.ofFields [("name", .string "Main")]])]

theorem builtFunction (name : String) (w : Workspace) :
    ∃ w', buildFunction ⟨[], true⟩ (.object (document name)) w = .ok (function name) w' :=
  buildFunction_eq_ok 10 (by decide) rfl rfl rfl rfl rfl rfl

theorem built : ∃ v, buildModule ⟨[], true⟩ moduleDocument .empty =
    .ok [function "Main", function "helper", function "subMain"] v := by
  obtain ⟨w₁, h₁⟩ := builtFunction "Main" .empty
  obtain ⟨w₂, h₂⟩ := builtFunction "helper" w₁
  obtain ⟨w₃, h₃⟩ := builtFunction "subMain" w₂
  refine ⟨w₃, bind_eq_ok.2 ⟨"Main", .empty, rfl, bind_eq_ok.2 ⟨_, w₁, h₁, ?_⟩⟩⟩
  refine bind_eq_ok.2 ⟨_, w₃, bind_eq_ok.2 ⟨"helper", w₁, rfl, bind_eq_ok.2 ⟨_, w₂, h₂, ?_⟩⟩, rfl⟩
  refine bind_eq_ok.2 ⟨_, w₃, bind_eq_ok.2 ⟨"subMain", w₂, rfl, bind_eq_ok.2 ⟨_, w₃, h₃, ?_⟩⟩, rfl⟩
  exact bind_eq_ok.2 ⟨[], w₃, rfl, rfl⟩

end ThreeFunctions

open ThreeFunctions in
/-- Of three functions that can be loaded, the two with `Main` in their names are wanted. A module
that cannot be loaded for that text cannot be loaded for all functions. -/
theorem buildModule_selects_two :
    (∃ v, buildModule ⟨"Main", true⟩ moduleDocument .empty =
      .ok [function "Main", function "subMain"] v) ∧
    ∃ e v, buildModule ⟨[], true⟩ withoutBody .empty = .error e v := by
  obtain ⟨v, hall⟩ := built
  refine ⟨(buildModule_selects "Main" true moduleDocument .empty .empty).1 _ v hall, ?_⟩
  exact (buildModule_selects "Main" true withoutBody .empty .empty).2 _ _ rfl

end Build

end StructuredIL
