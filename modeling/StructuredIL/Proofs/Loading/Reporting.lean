import StructuredIL.Proofs.Loading.Acceptance

/-!
# What is reported

A malformed module should be refused, and with a `FormatError`. This is so exactly if it is no
module of the grammar and the first of its faults is a `FormatError` (`Build.isReported_iff`). The
other modules that are no modules of the grammar come in three kinds: something is walked over that
cannot be, an operation is looked up by what cannot be looked up, or the message has an integer in
it that is too long; and some are loaded all the same, since texts and objects can be walked over
where a list should stand.
-/

namespace StructuredIL

namespace Value

variable {s : LoadSettings} {data : Value}

/-! ### Modules of the grammar -/

/-- A module whose functions all have names and whose wanted functions are functions. -/
structure IsModule (s : LoadSettings) (data : Value) : Prop where
  /-- There is a list of functions. -/
  functions : ∃ items, data.get? "functions" = some (.list items) ∧
    ∀ f ∈ items, (∃ name, f.name? = some name) ∧ (s.wants f → f.IsFunction)

/-- The wanted functions of a module have lists wherever a load walks over something. -/
def WantedHaveLists (s : LoadSettings) (data : Value) : Prop :=
  ∀ items, data.get? "functions" = some (.list items) →
    ∀ f ∈ items, s.wants f → f.FunctionHasLists

theorem wantedFaults_eq_nil :
    data.wantedFaults s = [] ↔
      (∃ name, data.name? = some name) ∧ (s.wants data → data.functionFaults = []) := by
  rw [wantedFaults, LoadSettings.wants]
  cases data.name? <;> simp

theorem moduleFaults_eq_nil :
    data.moduleFaults s = [] ↔ ∃ items, data.get? "functions" = some (.list items) ∧
      ∀ f ∈ items, (∃ name, f.name? = some name) ∧ (s.wants f → f.functionFaults = []) := by
  rw [moduleFaults.eq_def]
  cases data.get? "functions" with
  | none => simp
  | some v => cases v <;> simp [wantedFaults_eq_nil]

/-- **The modules of the grammar** are those that nothing is wrong with, as long as their wanted
functions have lists. -/
theorem isModule_iff :
    data.IsModule s ↔ data.moduleFaults s = [] ∧ data.WantedHaveLists s := by
  rw [moduleFaults_eq_nil]
  constructor
  · rintro ⟨items, hitems, hall⟩
    refine ⟨⟨items, hitems, fun f hf ↦ ⟨(hall f hf).1, fun hwants ↦ ?_⟩⟩,
      fun items' hitems' f hf hwants ↦ ?_⟩
    · exact (isFunction_iff.1 ((hall f hf).2 hwants)).1
    · cases hitems.symm.trans hitems'
      exact (isFunction_iff.1 ((hall f hf).2 hwants)).2
  · rintro ⟨⟨items, hitems, hall⟩, hlists⟩
    refine ⟨items, hitems, fun f hf ↦ ⟨(hall f hf).1, fun hwants ↦ ?_⟩⟩
    exact isFunction_iff.2 ⟨(hall f hf).2 hwants, hlists items hitems f hf hwants⟩

end Value

namespace Build

/-- A module is reported as it should be: it is refused with a `FormatError` or loaded, and if it
is loaded, its wanted functions have lists wherever there should be some. -/
structure IsReported (s : LoadSettings) (data : Value) (w : Workspace) : Prop where
  /-- Every refusal is a format error. -/
  format : ∀ e w', buildModule s data w = .error e w' → ∃ fe, e = .format fe
  /-- What is not a list, and should be, is refused. -/
  lists : ∀ fs w', buildModule s data w = .ok fs w' → data.WantedHaveLists s

/-- **When a module is reported as it should be**: if it is a module of the grammar, or the first
thing that is wrong with it is a format error. -/
theorem isReported_iff (s : LoadSettings) (data : Value) (w : Workspace) :
    IsReported s data w ↔
      data.IsModule s ∨ ∃ fe, (data.moduleFaults s).head? = some (.format fe) := by
  rw [Value.isModule_iff]
  cases hbuilt : buildModule s data w with
  | ok fs w' =>
    have hnil := ((ends_buildModule s data).of_ok trivial hbuilt).2
    constructor
    · exact fun h ↦ .inl ⟨hnil, h.lists fs w' hbuilt⟩
    · rintro (⟨-, hlists⟩ | ⟨fe, hfe⟩)
      · exact ⟨fun e w'' h ↦ (by cases hbuilt.symm.trans h), fun _ _ _ ↦ hlists⟩
      · rw [hnil] at hfe
        cases hfe
  | error e w' =>
    have hhead := ((ends_buildModule s data).of_error trivial hbuilt).2
    constructor
    · intro h
      obtain ⟨fe, rfl⟩ := h.format e w' hbuilt
      exact .inr ⟨fe, hhead⟩
    · rintro (⟨hnil, -⟩ | ⟨fe, hfe⟩)
      · rw [hnil] at hhead
        cases hhead
      · cases hhead.symm.trans hfe
        refine ⟨fun e w'' h ↦ ⟨fe, ?_⟩, fun _ _ h ↦ (by cases hbuilt.symm.trans h)⟩
        cases hbuilt.symm.trans h
        rfl

namespace ReportedOtherwise

/-- A function with a body. -/
def functionOf (body : Value) : Value := .ofFields [("name", .string "Main"), ("body", body)]

/-- A module of one function. -/
def moduleOf (body : Value) : Value := .ofFields [("functions", .list [functionOf body])]

/-- A node that names its operation by a list. -/
def listed : Value := .ofFields [("op", .list [])]

/-- A block whose instructions are a number. -/
def counted : Value := .ofOperation "Block" [("instructions", .int 5)]

/-- A block whose instructions are a text. -/
def written : Value := .ofOperation "Block" [("instructions", .string "")]

theorem not_isReported_of_head? {s : LoadSettings} {data : Value} {w : Workspace} {e : LoadFault}
    (he : (data.moduleFaults s).head? = some e) (hne : ∀ fe, e ≠ .format fe) :
    ¬ IsReported s data w := by
  intro h
  cases hbuilt : buildModule s data w with
  | ok fs w' =>
    rw [((ends_buildModule s data).of_ok trivial hbuilt).2] at he
    cases he
  | error e' w' =>
    obtain ⟨fe, rfl⟩ := h.format e' w' hbuilt
    cases he.symm.trans ((ends_buildModule s data).of_error trivial hbuilt).2
    exact hne fe rfl

end ReportedOtherwise

open ReportedOtherwise in
/-- An operation that is a list is not reported by a format error, nor are instructions that are a
number; and instructions that are a text are loaded. -/
theorem not_isReported : ¬ IsReported .standard (moduleOf listed) .empty ∧
    ¬ IsReported .standard (moduleOf counted) .empty ∧
    ¬ IsReported .standard (moduleOf written) .empty := by
  refine ⟨not_isReported_of_head? (e := .notHashable) ?_ nofun,
    not_isReported_of_head? (e := .notIterable) ?_ nofun, fun h ↦ ?_⟩
  · show ((Value.faults [] [] listed ++ Value.bodyFaults "Main" listed) ++ []).head? = _
    rw [Value.faults_eq]
    rfl
  · show ((Value.faults [] [] counted ++ Value.bodyFaults "Main" counted) ++ []).head? = _
    rw [Value.faults_eq]
    rfl
  · have hnil : (moduleOf written).moduleFaults .standard = [] := by
      show (Value.faults [] [] written ++ Value.bodyFaults "Main" written) ++ [] = _
      rw [Value.faults_eq]
      rfl
    obtain ⟨fs, w', hbuilt⟩ := ((ends_buildModule .standard _).exists_ok_iff trivial).2 hnil
    have hlists := h.lists fs w' hbuilt _ rfl (functionOf written) (List.mem_singleton_self _) rfl
    obtain ⟨hblocks, -⟩ := Value.hasLists_iff.1 (hlists.body written rfl)
    obtain ⟨items, hitems⟩ := hblocks written (List.mem_singleton_self _)
    cases hitems

end Build

end StructuredIL
