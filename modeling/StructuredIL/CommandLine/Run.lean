import StructuredIL.C.Lowering
import StructuredIL.Configuration
import StructuredIL.Loading.Module
import StructuredIL.Tree.Dump

/-!
# Running the program

A run reads a command line, prepares the configuration, loads the input and writes every wanted
function, as C or as a dump, to a file or to the standard output. All that it reads and leaves is a
`Session`. The configuration, the files and the threshold of the log outlive the run, and the next
run in the same process begins with them; the two outputs are those of one run.

A run ends in one of three ways (`Ending`): the command line is answered without a run, the run
comes to its end with a status, or something stops it that it has no answer for. However it ends,
what has been written by then stays written. In particular the output file is emptied before
anything is lowered, and functions written before the one that stops the run are in it.

Both a file and the standard output hold characters only, so a function whose text has half of a
surrogate pair in it stops the run when it is to be written. The log shows such a half as an escape.

The log is set up once in a process. Until then warnings are shown bare and lesser records not at
all. The first run that comes so far sets it up, and sets its level; the level that a later run is
told is read but not looked at, so an unknown one only stops the run that sets the log up.
-/

namespace StructuredIL

/-! ### Sessions -/

/-- What a run works on. -/
structure Session where
  /-- The configuration. -/
  configuration : Configuration
  /-- The files. -/
  files : Directory
  /-- What has been written to the standard output, in order. -/
  stdout : List String
  /-- What has been shown of the log, in order. -/
  stderr : List String
  /-- The rank from which records are shown, once the log has been set up. -/
  threshold : Option Nat
  deriving Inhabited

/-- Why a run stops without a status. -/
inductive Stop where
  /-- The command line is answered without a run. -/
  | exit (e : Exit)
  /-- The run has been told to end with a status. -/
  | status (code : Nat)
  /-- The level of the log has no known name. -/
  | unknownLevel (name : Text)
  /-- A path cannot name anything, or it cannot be found out whether it does. -/
  | notAPath (f : OpenFault)
  /-- The input is no text. -/
  | notDecoded (f : Text.DecodeFault)
  /-- The input cannot be loaded, for another reason than its format. -/
  | notLoaded (f : LoadFault)
  /-- A function cannot be dumped. -/
  | notDumped (f : DumpFault)
  /-- A text that is to be written holds what is no character. -/
  | notEncodable (text : Text)
  /-- An integer is too long to be written. -/
  | integerTooLong

/-- A step of a run. -/
abbrev Run := EStateM Stop Session

namespace Run

variable {ε α : Type}

/-! ### The log -/

/-- Shows a record, if it matters enough. -/
def record (r : Record) : Run Unit :=
  modify fun s ↦
    match s.threshold with
    | none =>
      if Level.warning.rank ≤ r.level.rank then
        { s with stderr := s.stderr ++ [Text.escaped r.text ++ "\n"] }
      else s
    | some rank =>
      if rank ≤ r.level.rank then { s with stderr := s.stderr ++ [Text.escaped r.line ++ "\n"] }
      else s

/-- Shows some records. -/
def records : List Record → Run Unit
  | [] => pure ()
  | r :: rest => do
    record r
    records rest

/-- Says something on behalf of the command line. -/
def say (level : Level) (text : Text) : Run Unit := record ⟨level, .commandLine, text⟩

/-- Says what is wrong, and ends the run. -/
def giveUp (text : Text) : Run α := do
  say .error text
  throw (.status 1)

/-- Takes a logged result into the run: its records are shown, and a failure stops it. -/
def take (stop : ε → Stop) (l : Logged ε α) : Run α := do
  records l.log
  match l.outcome with
  | .ok a => return a
  | .error e => throw (stop e)

/-- How an unusable value of the configuration stops a run. -/
def ofConfigurationFault : ConfigurationFault → Stop
  | .integerTooLong => .integerTooLong

/-- The rank of a level by its name. -/
def rankOf? (name : Text) : Option Nat :=
  match Text.toString? name with
  | some "CRITICAL" => some 50
  | some "FATAL" => some 50
  | some "ERROR" => some 40
  | some "WARN" => some 30
  | some "WARNING" => some 30
  | some "INFO" => some 20
  | some "DEBUG" => some 10
  | some "NOTSET" => some 0
  | _ => none

/-- Sets the log up, unless an earlier run has done so. It is there before its level is looked at,
and shows warnings then. -/
def openLog : Run Unit := do
  let s ← get
  let name ← take ofConfigurationFault (.ofExcept s.configuration.logLevel)
  match s.threshold with
  | some _ => return ()
  | none =>
    modify fun s ↦ { s with threshold := some Level.warning.rank }
    match rankOf? name with
    | some rank => modify fun s ↦ { s with threshold := some rank }
    | none => throw (.unknownLevel name)

/-! ### Input -/

/-- Prepares the configuration. -/
def prepare (args : List String) : Run Unit := do
  let s ← get
  let (configuration, l) := s.configuration.prepare s.files (some args)
  modify fun s ↦ { s with configuration }
  take .exit l
  match Configuration.obstacle? s.files args with
  | some f => throw (.notAPath f)
  | none => return ()

/-- The text of the input. -/
def readInput (path : String) : Run (List Char) := do
  match (← get).files.readText path with
  | .ok text => return text
  | .error (.notDecoded f) => throw (.notDecoded f)
  | .error (.notOpened f) =>
    if f.reason = .notAPath then throw (.notAPath f)
    else giveUp s!"Cannot read {path}: {f.message}"

/-- The wanted functions of the input. -/
def loadInput (path : String) : Run (List Function) := do
  let settings ← take ofConfigurationFault (← get).configuration.loadSettings
  let text ← readInput path
  let l := load settings text
  records l.log
  match l.outcome with
  | .ok functions => return functions
  | .error (.format e) => giveUp (path ++ ": " ++ e.message)
  | .error f => throw (.notLoaded f)

/-! ### Output -/

/-- Where functions are written to. -/
inductive Sink where
  /-- The standard output. -/
  | standard
  /-- A file. -/
  | file (place : Place)

/-- Writes a text, all of it or nothing. -/
def write (sink : Sink) (text : Text) : Run Unit :=
  match Text.toString? text with
  | none => throw (.notEncodable text)
  | some string =>
    match sink with
    | .standard => modify fun s ↦ { s with stdout := s.stdout ++ [string] }
    | .file place => modify fun s ↦ { s with files := s.files.append place string }

/-- Opens the output: the file of the path that is given, which is emptied, or the standard output
if none is. -/
def openSink (path? : Option String) : Run Sink := do
  match path? with
  | none => return .standard
  | some path =>
    match (← get).files.placeToWrite path with
    | .ok place =>
      modify fun s ↦ { s with files := s.files.put place ByteArray.empty }
      return .file place
    | .error f =>
      if f.reason = .notAPath then throw (.notAPath f)
      else giveUp s!"Cannot write {path}: {f.message}"

/-- The dump of a function, as a file holds it. -/
def dumped (f : Function) : Run Text := do
  match f.dump (← get).configuration.indent with
  | .ok text => return text ++ "\n"
  | .error e => throw (.notDumped e)

/-- The C of a function, as a file holds it. -/
def lowered (path : String) (mode : C.Mode) (f : Function) : Run Text := do
  let l := C.written mode f
  records l.log
  match l.outcome with
  | .ok text => return text
  | .error (.unsupported u) => giveUp (path ++ ": " ++ u.diagnostic)
  | .error .integerTooLong => throw .integerTooLong

/-- Writes functions one after the other. -/
def emit (path : String) (mode : C.Mode) (dumpTree : Bool) (sink : Sink) :
    List Function → Run Unit
  | [] => pure ()
  | f :: rest => do
    let text ← if dumpTree then dumped f else lowered path mode f
    write sink text
    say .debug ("Emitted " ++ f.name)
    emit path mode dumpTree sink rest

/-- Writes the functions where the command line wants them. -/
def emitAll (path : String) (o : Options) (functions : List Function) : Run Unit := do
  let sink ← openSink (o.output.bind Given.path?)
  let strict ← take ofConfigurationFault (← get).configuration.strict
  emit path (if strict then .strict else .bestEffort) o.dumpTree sink functions

/-! ### Runs -/

/-- A run whose command line has been read. -/
def perform (args : List String) (o : Options) (path : String) : Run Unit := do
  prepare args
  openLog
  let functions ← loadInput path
  if functions.isEmpty then
    let filter ← take ofConfigurationFault (.ofExcept (← get).configuration.methodFilter)
    say .warning s!"No function in {path} matches {Text.quoted filter}"
  emitAll path o functions

/-- A whole run. -/
def program (args : List String) : Run Unit := do
  match Grammar.ofProgram.readAll args with
  | .error e => throw (.exit e)
  | .ok o => perform args o (o.input.getD "")

end Run

/-- How a run ends. -/
inductive Ending where
  /-- The command line was answered without a run. -/
  | exited (e : Exit)
  /-- The run came to its end. -/
  | finished (status : Nat)
  /-- Something stopped it. -/
  | stopped (reason : Stop)

/-- A run on a configuration and some files, in a process whose log may have been set up before: how
it ends, and what it leaves. -/
def run (configuration : Configuration) (files : Directory) (args : List String)
    (threshold : Option Nat := none) : Ending × Session :=
  match Run.program args ⟨configuration, files, [], [], threshold⟩ with
  | .ok () s => (.finished 0, s)
  | .error (.exit e) s => (.exited e, s)
  | .error (.status code) s => (.finished code, s)
  | .error reason s => (.stopped reason, s)

end StructuredIL
