import StructuredIL.Document.Reader
import StructuredIL.Loading.Node

/-!
# Loading a module

A module is an object with a list of functions. The wanted ones are built one after the other, each
in a cleared workspace, and the first that cannot be built ends the load. `Build.run` turns these
steps into results; a workspace may be used for one load after another.
-/

namespace StructuredIL.Build

/-! ### Functions -/

/-- Builds a variable from its place among the variables. -/
def buildVariable (data : Value) (index : Nat) : Build Variable :=
  match data.get? "name" with
  | some (.string name) => do
    let type ← spelled "variable type" ((data.get? "type").getD .null)
    return ⟨name, type, some index⟩
  | _ => reject (.variableWithoutName index)

/-- Declares the variables of a function, from an index on. -/
def declareAll (function : Text) (index : Nat) : List Value → Build Unit
  | [] => pure ()
  | data :: rest => do
    let v ← buildVariable data index
    match ← findVariable v.name with
    | some _ => reject (.declaredTwice function v.name)
    | none =>
      declare v
      declareAll function (index + 1) rest

/-- The name of a function. -/
def functionName (data : Value) : Build Text :=
  match data.get? "name" with
  | some (.string name) => pure name
  | _ => reject .functionWithoutName

/-- Builds a function from the members of its object. -/
def buildMembers (s : LoadSettings) (data : Value) : Build Function := do
  let name ← functionName data
  clear
  let items ← elementsOf data "variables"
  declareAll name 0 items.1
  match data.get? "body" with
  | none => reject (.missingBody name)
  | some bodyData =>
    let body ← buildNode s bodyData
    let locals := (← get).locals
    match body with
    | .block _ => pure ()
    | .container _ _ => pure ()
    | n => reject (.notABody name n.opcode)
    progress ("Loaded " ++ name ++ s!": {locals.length} variables")
    return ⟨name, locals, body⟩

/-- Builds a function. -/
def buildFunction (s : LoadSettings) (data : Value) : Build Function :=
  match data with
  | .object _ => buildMembers s data
  | _ => throw .notAnObject

/-! ### Modules -/

/-- Builds the wanted ones of some functions. -/
def buildWanted (s : LoadSettings) : List Value → Build (List Function)
  | [] => pure []
  | data :: rest => do
    let name ← functionName data
    if s.selects name then
      let f ← buildFunction s data
      let fs ← buildWanted s rest
      return f :: fs
    else
      progress ("Skipping " ++ name ++ ": does not match " ++ Text.quoted s.methodFilter)
      buildWanted s rest

/-- Builds a module. -/
def buildModule (s : LoadSettings) (data : Value) : Build (List Function) :=
  match data.get? "functions" with
  | some (.list items) => buildWanted s items
  | _ => reject .notAModule

/-- Builds the module that a text is written for. -/
def readModule (s : LoadSettings) (text : List Char) : Build (List Function) :=
  match Document.readDocument? text with
  | some data => buildModule s data
  | none => reject .notADocument

end StructuredIL.Build

namespace StructuredIL

/-- The wanted functions of the module that a text is written for. -/
def load (s : LoadSettings) (text : List Char) : Logged LoadFault (List Function) :=
  ((Build.readModule s text).run .empty).1

end StructuredIL
