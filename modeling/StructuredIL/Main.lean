import StructuredIL.CommandLine.Run

/-!
# The program

The outermost layer: it finds out what stands on the disk where the words of the command line lead,
makes a run of that, and puts what the run leaves back on the disk. What a run does is
`StructuredIL.run`; nothing is decided here.
-/

namespace StructuredIL

/-- The path of a place. -/
def pathOf : Place → String
  | "/" :: names => "/" ++ "/".intercalate names
  | names => "/".intercalate names

/-- What stands on the disk under a path, if anything does. What may not be read is taken for a file
with which nothing may be done, and with everything else everything may be done. -/
def survey (path : String) : IO (Option Entry) := do
  try
    return some (.file (← IO.FS.readBinFile path))
  catch
    | .inappropriateType _ 20 _ => return none
    | .inappropriateType _ _ _ => return some .folder
    | .permissionDenied _ _ _ => return some (.file ByteArray.empty ⟨false, false, false⟩)
    | _ => return none

/-- Notes what stands on the disk along a path. -/
def explore (d : Directory) (here : Place) : List String → IO Directory
  | [] => return d
  | name :: rest => do
    if name == "" || name == "." then explore d here rest
    else if name == ".." then explore d (Directory.parent here) rest
    else
      let place := here ++ [name]
      match d.lookup? place, ← survey (pathOf place) with
      | none, some entry => explore ⟨d.entries ++ [(place, entry)]⟩ place rest
      | _, _ => explore d place rest

/-- The paths that a word of the command line may hold: the word, what follows its equals sign, and
what follows its first two letters. -/
def pathsIn (word : String) : List String :=
  let cs := word.toList
  [word, String.ofList ((cs.dropWhile fun c ↦ c != '=').drop 1), String.ofList (cs.drop 2)]

/-- What stands on the disk where some paths lead. -/
def exploreAll (d : Directory) : List String → IO Directory
  | [] => return d
  | path :: rest => do
    let start := if path.toList.head? == some '/' then ["/"] else []
    exploreAll (← explore d start (splitPath path)) rest

/-- Puts the files on the disk that a run has made or changed. -/
def writeBack (before : Directory) : List (Place × Entry) → IO Unit
  | [] => return ()
  | (_, .folder _) :: rest => writeBack before rest
  | (place, .file bytes _) :: rest => do
    match before.lookup? place with
    | some (.file old _) => if old != bytes then IO.FS.writeBinFile (pathOf place) bytes
    | _ => IO.FS.writeBinFile (pathOf place) bytes
    writeBack before rest

/-- What is said of a run that something stopped. -/
def Stop.message : Stop → String
  | .exit _ => ""
  | .status _ => ""
  | .unknownLevel name => s!"Unknown level: {Text.quoted name}"
  | .notAPath f => f.message
  | .notDecoded f => f.message
  | .notLoaded _ => "the document cannot be loaded"
  | .notDumped _ => "the tree cannot be dumped"
  | .notEncodable _ => "a text that is to be written holds what is no character"
  | .integerTooLong => "an integer is too long to be written"

/-- The words of a command line. -/
def usage : String :=
  "usage: il2c INPUT [--config PATH] [--method TEXT] [--strict] [--keep-nops]\n"
    ++ "            [--log-level LEVEL] [-o OUTPUT] [--dump-il]"

end StructuredIL

open StructuredIL in
/-- Runs the program on the words of the command line. -/
def main (args : List String) : IO UInt32 := do
  let files ← exploreAll ⟨[]⟩ (args.flatMap pathsIn)
  let (ending, session) := run Configuration.initial.loadPackaged files args
  writeBack files session.files.entries
  IO.print (String.join session.stdout)
  IO.eprint (String.join session.stderr)
  match ending with
  | .exited .help => do
    IO.println usage
    return 0
  | .exited .usage => do
    IO.eprintln usage
    return 2
  | .finished status => return status.toUInt32
  | .stopped reason => do
    IO.eprintln reason.message
    return 1
