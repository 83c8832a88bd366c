import StructuredIL.CommandLine.Options
import StructuredIL.Document.Printer
import StructuredIL.Document.Reader
import StructuredIL.Loading.Settings
import StructuredIL.Log
import StructuredIL.Storage.Directory
import StructuredIL.Text.Case

/-!
# The configuration

Named values in two layers. The lower one begins with the built-in values, and files and `set` write
to it, each over what is there. The upper one holds what the command line asked for; it hides the
lower one and nothing but `reset` takes a value out of it.

A file that cannot be used changes nothing and is only warned about. But it is asked first whether
it is there, and where that cannot be found out (`obstacle?`) the command line that names it is not
gone by: what it asks for besides is lost as well. Values are kept as they are read and checked
where they are used: a key that should hold a truth value and does not is warned about each time it
is asked for, and its built-in value is used instead.
-/

namespace StructuredIL

/-! ### The two layers -/

/-- Named values in two layers. -/
structure Configuration where
  /-- What files and `set` have written over the built-in values. -/
  values : List (Text × Value)
  /-- What the command line has asked for. -/
  overrides : List (Text × Value)
  deriving Inhabited

/-- Why a value of the configuration cannot be used. -/
inductive ConfigurationFault where
  /-- An integer is too long to be written. -/
  | integerTooLong
  deriving DecidableEq, Repr

namespace Configuration

/-- The built-in values. -/
def builtIn : List (Text × Value) := [
  ("method_filter", .string "Main"),
  ("remove_dead_code", .bool true),
  ("strict", .bool false),
  ("log_level", .string "WARNING"),
  ("indent", .string "    ")]

/-- The values of the file that comes with the program; they are the built-in ones. -/
def packaged : List (Text × Value) := builtIn

/-- The configuration with nothing written over the built-in values. -/
def initial : Configuration := ⟨builtIn, []⟩

/-- Forgets all files, all that was set and all that the command line asked for. -/
def reset (_ : Configuration) : Configuration := initial

/-- Writes a value. -/
def set (key : Text) (v : Value) (c : Configuration) : Configuration :=
  { c with values := Value.setMember key v c.values }

/-- Writes some values, one after the other. -/
def update (members : List (Text × Value)) (c : Configuration) : Configuration :=
  { c with values := members.foldl (fun values m ↦ Value.setMember m.1 m.2 values) c.values }

/-- Hides a value. -/
def override (key : Text) (v : Value) (c : Configuration) : Configuration :=
  { c with overrides := Value.setMember key v c.overrides }

/-- The value of a key, if it has one. -/
def get? (c : Configuration) (key : Text) : Option Value :=
  match Value.member? c.overrides key with
  | some v => some v
  | none => Value.member? c.values key

/-- The value of a key, or the given one if it has none. -/
def get (c : Configuration) (key : Text) (default : Value) : Value := (c.get? key).getD default

theorem get?_set_of_overridden {c : Configuration} {k : Text} {v : Value}
    (h : Value.member? c.overrides k = some v) (key : Text) (w : Value) :
    (c.set key w).get? k = some v := by
  simp [get?, set, h]

theorem get?_set_self {c : Configuration} {key : Text}
    (h : Value.member? c.overrides key = none) (v : Value) : (c.set key v).get? key = some v := by
  simp [get?, set, h, Value.member?_setMember_self]

theorem get?_override_self (c : Configuration) (key : Text) (v : Value) :
    (c.override key v).get? key = some v := by
  simp [get?, override, Value.member?_setMember_self]

/-! ### Files -/

/-- Loads the file that comes with the program. -/
def loadPackaged (c : Configuration) : Configuration := c.update packaged

/-- What is logged about a file that is not used. -/
def warn (text : String) : List Record := [⟨.warning, .configuration, text⟩]

/-- Uses the file that a path leads to. Gives the configuration after it, whether the file was used,
and what is logged. -/
def useFile (d : Directory) (shown : String) (c : Configuration) :
    Configuration × Bool × List Record :=
  match d.readText shown with
  | .error f => (c, false, warn s!"Failed to load config from {shown}: {f.message}")
  | .ok text =>
    match Document.readDocument? text with
    | none => (c, false, warn s!"Failed to load config from {shown}: syntax error")
    | some (.object members) => (c.update members, true, [])
    | some _ => (c, false, warn s!"Ignoring config {shown}: top level is not an object")

/-- Loads a file. One that is not there is passed over in silence, but it has to be found out that
it is not. -/
def loadFile? (d : Directory) (path : String) (c : Configuration) :
    Except OpenFault (Configuration × Bool × List Record) :=
  let shown := normalizePath path
  (d.pathExists shown).map fun isThere ↦ if isThere then c.useFile d shown else (c, false, [])

/-- What loading a file leaves. Where it is broken off, it leaves all as it was. -/
def loadFile (d : Directory) (path : String) (c : Configuration) :
    Configuration × Bool × List Record :=
  (c.loadFile? d path).toOption.getD (c, false, [])

/-! ### Options -/

/-- What an option is given, as a value. Nothing is the empty list. -/
def valueOf : Given → Value
  | .text s => .string s
  | .nothing => .list []

/-- Hides what the command line asks for, key by key. -/
def overrideBy (o : Options) (c : Configuration) : Configuration :=
  let c := match o.method with
    | some given => c.override "method_filter" (valueOf given)
    | none => c
  let c := if o.strict then c.override "strict" (.bool true) else c
  let c := if o.keepNops then c.override "remove_dead_code" (.bool false) else c
  match o.logLevel with
  | some given => c.override "log_level" (valueOf given)
  | none => c

/-- What is in the way of the file that a command line names: it cannot be found out whether the
file is there. -/
def obstacle? (d : Directory) (args : List String) : Option OpenFault :=
  match Grammar.ofConfiguration.readKnown args with
  | .error _ => none
  | .ok r =>
    match r.options.config.bind Given.path? with
    | none => none
    | some path =>
      match d.pathExists (normalizePath path) with
      | .error f => some f
      | .ok _ => none

/-- Takes a command line into account: the file it names, if any, and then what it asks for. Words
that do not concern the configuration are passed over. An obstacle breaks this off before anything
is done; the outcome tells of the words alone. -/
def applyArgs (d : Directory) (args : List String) (c : Configuration) :
    Configuration × Logged Exit Unit :=
  match Grammar.ofConfiguration.readKnown args with
  | .error e => (c, .fail e)
  | .ok r =>
    match r.options.config.bind Given.path? with
    | none => (c.overrideBy r.options, pure ())
    | some path =>
      match c.loadFile? d path with
      | .ok (c, _, log) => (c.overrideBy r.options, ⟨.ok (), log⟩)
      | .error _ => (c, pure ())

/-- Prepares for a run: loads the file that comes with the program, and takes the command line into
account if there is one. -/
def prepare (d : Directory) (args? : Option (List String)) (c : Configuration) :
    Configuration × Logged Exit Unit :=
  match args? with
  | none => (c.loadPackaged, pure ())
  | some args => c.loadPackaged.applyArgs d args

/-- The outcome tells of the words alone. -/
theorem outcome_prepare {args : List String} {r : Reading}
    (h : Grammar.ofConfiguration.readKnown args = .ok r) (d : Directory) (c : Configuration) :
    (c.prepare d (some args)).2.outcome = .ok () := by
  rw [prepare, applyArgs, h]
  dsimp only
  split
  · rfl
  · split <;> rfl

/-! ### Reading values -/

/-- A value as a text, if it can be written. -/
def written (v : Value) : Except ConfigurationFault Text :=
  if v.isShowable then .ok v.text else .error .integerTooLong

/-- The truth value of a key; every other value is warned about and `standard` used instead. -/
def flag (c : Configuration) (key : String) (standard : Bool) : Logged ConfigurationFault Bool :=
  match c.get key .null with
  | .bool b => return b
  | v =>
    if v.isShowable then do
      Logged.say .warning .configuration
        s!"Ignoring non-boolean {key}: {v.quoted}, using {(Value.bool standard).quoted}"
      return standard
    else .fail .integerTooLong

/-- The text that the names of wanted functions have in them. -/
def methodFilter (c : Configuration) : Except ConfigurationFault Text :=
  written (c.get "method_filter" .null)

/-- Whether empty instructions are left out. -/
def removeDeadCode (c : Configuration) : Logged ConfigurationFault Bool :=
  c.flag "remove_dead_code" true

/-- Whether what is not supported ends a run. -/
def strict (c : Configuration) : Logged ConfigurationFault Bool := c.flag "strict" false

/-- The name of the least level that is logged, in capitals. -/
def logLevel (c : Configuration) : Except ConfigurationFault Text :=
  Text.upper <$> written (c.get "log_level" .null)

/-- The indent of dumps. -/
def indent (c : Configuration) : Value := c.get "indent" .null

/-- The settings of a load. -/
def loadSettings (c : Configuration) : Logged ConfigurationFault LoadSettings := do
  let methodFilter ← Logged.ofExcept c.methodFilter
  let removeDeadCode ← c.removeDeadCode
  return ⟨methodFilter, removeDeadCode⟩

end Configuration

end StructuredIL
