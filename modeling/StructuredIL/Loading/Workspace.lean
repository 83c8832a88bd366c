import StructuredIL.Loading.Fault
import StructuredIL.Log
import StructuredIL.Tree.Basic

/-!
# The workspace of a load

What is known while the tree of a function is built: the variables it has declared, the containers
that are open, innermost first, with the heads of all their blocks, and the next serial number. A
container is open from the moment its blocks have heads to the moment they have insides, which is
how a branch finds a block that comes later.

One workspace serves many functions, and a function that fails leaves it as it stands. So a function
begins by clearing it (`clear`), and a container is closed again whether its insides could be built
or not (`within`). The log of the load is kept here as well, so that it survives a failure.
-/

namespace StructuredIL

/-- A container whose blocks are being built. -/
structure OpenContainer where
  /-- The container. -/
  head : ContainerHead
  /-- Its blocks, in order. -/
  blocks : List BlockHead
  deriving Inhabited

/-- What is known while a tree is built. -/
structure Workspace where
  /-- The variables of the function, in order. -/
  locals : List Variable
  /-- The open containers, innermost first. -/
  containers : List OpenContainer
  /-- The next serial number. -/
  nextSerial : Nat
  /-- What has been logged. -/
  log : List Record
  deriving Inhabited

/-- A workspace in which nothing has been built. -/
def Workspace.empty : Workspace := ⟨[], [], 0, []⟩

/-- A step of a load: it works on the workspace and may fail. -/
abbrev Build := EStateM LoadFault Workspace

namespace Build

variable {α : Type}

/-- Refuses the document. -/
def reject (e : FormatError) : Build α := throw (.ofFormat e)

/-- Logs progress. -/
def progress (text : Text) : Build Unit :=
  modify fun w ↦ { w with log := w.log ++ [⟨.debug, .loader, text⟩] }

/-- Forgets the function before. -/
def clear : Build Unit :=
  modify fun w ↦ { w with locals := [], containers := [], nextSerial := 0 }

/-- A serial number that has not been used in this function. -/
def fresh : Build Nat :=
  modifyGet fun w ↦ (w.nextSerial, { w with nextSerial := w.nextSerial + 1 })

/-- Declares a variable. -/
def declare (v : Variable) : Build Unit :=
  modify fun w ↦ { w with locals := w.locals ++ [v] }

/-- The declared variable of a name. -/
def findVariable (name : Text) : Build (Option Variable) := do
  return (← get).locals.find? fun v ↦ v.name == name

/-- Works inside a container, and closes it afterwards in any case. -/
def within (c : OpenContainer) (work : Build α) : Build α := fun w ↦
  match work { w with containers := c :: w.containers } with
  | .ok a w => .ok a { w with containers := w.containers.tail }
  | .error e w => .error e { w with containers := w.containers.tail }

/-- The result of a load with the records it made, and the workspace it leaves. -/
def run (work : Build α) (w : Workspace) : Logged LoadFault α × Workspace :=
  match work { w with log := [] } with
  | .ok a w => (⟨.ok a, w.log⟩, w)
  | .error e w => (⟨.error e, w.log⟩, w)

end Build

end StructuredIL
