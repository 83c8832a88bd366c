import StructuredIL.Text.Quoted

/-!
# What to load, and how

The two settings that loading takes: which functions of a module are wanted, and whether the empty
instructions of a block are kept.
-/

namespace StructuredIL

/-- The settings of a load. -/
structure LoadSettings where
  /-- Only functions whose name has this text in it are loaded. -/
  methodFilter : Text
  /-- Empty instructions of a block are left out. -/
  removeDeadCode : Bool
  deriving DecidableEq, Repr

namespace LoadSettings

/-- The settings if none are given. -/
def standard : LoadSettings := ⟨"Main", true⟩

instance : Inhabited LoadSettings := ⟨standard⟩

/-- The settings as a value shows them. -/
def summary (s : LoadSettings) : String :=
  let flag := if s.removeDeadCode then "True" else "False"
  s!"DecompilerSettings(method_filter={Text.quoted s.methodFilter}, remove_dead_code={flag})"

/-- Whether a text begins somewhere in another. -/
def occursIn (part : Text) : Text → Bool
  | [] => part.isEmpty
  | p :: rest => part.isPrefixOf (p :: rest) || occursIn part rest

/-- Whether a function of this name is wanted. -/
def selects (s : LoadSettings) (name : Text) : Bool := occursIn s.methodFilter name

theorem selects_of_empty {s : LoadSettings} (h : s.methodFilter = []) (name : Text) :
    s.selects name = true := by
  cases name <;> simp [selects, h, occursIn]

end LoadSettings

end StructuredIL
