import StructuredIL.Text.Decoding
import StructuredIL.Text.Quoted

/-!
# Files and directories

What a run finds on the disk and leaves there: the files and directories below the place where it
starts, as a finite list, and what may be done with each of them. A path is followed name by name,
`.` stays and `..` goes up, and every step but the last has to be a directory in which things may be
looked up. Directories that are only gone through on the way up, and the root, are always there. No
name has more than 255 bytes, and no path more than 4095.

A path is shown to the reader as it was given, so the faults keep it. Asking whether something
stands where a path leads is not safe: that a step is missing is an answer, but a name that is too
long or a step that is not permitted is a fault (`Directory.pathExists`).
-/

namespace StructuredIL

/-! ### Paths -/

/-- The parts of a path between its slashes. -/
def splitPath (path : String) : List String :=
  (path.toList.splitOn '/').map String.ofList

/-- A path without what does not count: empty parts and parts that stay. -/
def normalizePath (path : String) : String :=
  let parts := (splitPath path).filter fun p ↦ p != "" && p != "."
  let slashes := (path.toList.takeWhile fun c ↦ c == '/').length
  let root := if slashes = 0 then "" else if slashes = 2 then "//" else "/"
  if root == "" && parts.isEmpty then "." else root ++ "/".intercalate parts

/-- The number of bytes that a name or a path has. -/
def byteLength (name : String) : Nat := name.toList.foldl (fun n c ↦ n + c.utf8Size) 0

/-- The greatest number of bytes that a name may have. -/
def maxNameBytes : Nat := 255

/-- The greatest number of bytes that a path may have. -/
def maxPathBytes : Nat := 4095

/-! ### Directories -/

/-- What may be done with something on the disk. -/
structure Access where
  /-- It may be read. -/
  readable : Bool
  /-- It may be written to; in a directory, files may be made. -/
  writable : Bool
  /-- In a directory, names may be looked up. -/
  searchable : Bool
  deriving DecidableEq, Repr, Inhabited

/-- Everything may be done. -/
def Access.all : Access := ⟨true, true, true⟩

/-- What stands under a name. -/
inductive Entry where
  /-- A file. -/
  | file (bytes : ByteArray) (access : Access := .all)
  /-- A directory. -/
  | folder (access : Access := .all)
  deriving Inhabited

/-- Where something stands: the names from the start, or from the root. -/
abbrev Place := List String

/-- What is on the disk. -/
structure Directory where
  /-- What stands where. -/
  entries : List (Place × Entry)
  deriving Inhabited

/-- Why a file cannot be opened. -/
inductive OpenReason where
  /-- Nothing stands there. -/
  | missing
  /-- A step of the path is not a directory. -/
  | notADirectory
  /-- A directory stands there. -/
  | isADirectory
  /-- A name, or the path as a whole, has too many bytes. -/
  | nameTooLong
  /-- It may not be used like this, or a step of the path may not be taken. -/
  | notPermitted
  /-- The path cannot name anything. -/
  | notAPath
  deriving DecidableEq, Repr

/-- Whether a reason says that nothing stands there. -/
def OpenReason.isAbsence : OpenReason → Bool
  | .nameTooLong => false
  | .notPermitted => false
  | _ => true

/-- The path that cannot be opened, and why. -/
structure OpenFault where
  /-- The path. -/
  path : String
  /-- The reason. -/
  reason : OpenReason
  deriving DecidableEq, Repr

/-- What a reader is told. -/
def OpenFault.message (f : OpenFault) : String :=
  let shown := Text.quoted f.path
  match f.reason with
  | .missing => s!"[Errno 2] No such file or directory: {shown}"
  | .notADirectory => s!"[Errno 20] Not a directory: {shown}"
  | .isADirectory => s!"[Errno 21] Is a directory: {shown}"
  | .nameTooLong => s!"[Errno 36] File name too long: {shown}"
  | .notPermitted => s!"[Errno 13] Permission denied: {shown}"
  | .notAPath => "embedded null byte"

/-- Where a path leads. A path that ends in a slash asks for a directory there. -/
inductive Goal where
  /-- To a file. -/
  | file (place : Place) (bytes : ByteArray) (access : Access) (asFolder : Bool)
  /-- To a directory. -/
  | folder (access : Access)
  /-- To a free name in a directory. -/
  | free (place : Place) (above : Access) (asFolder : Bool)

namespace Directory

/-- What stands at a place. -/
def lookup? (d : Directory) (place : Place) : Option Entry :=
  (d.entries.find? fun e ↦ e.1 == place).map Prod.snd

/-- What may be done at a place: everything, where nothing else is known. -/
def accessOf (d : Directory) (place : Place) : Access :=
  match d.lookup? place with
  | some (.file _ access) => access
  | some (.folder access) => access
  | none => .all

/-- The place above a place. -/
def parent (here : Place) : Place :=
  match here.getLast? with
  | none => [".."]
  | some ".." => here ++ [".."]
  | some "/" => here
  | some _ => here.dropLast

/-- Follows the parts of a path from a directory. -/
def follow (d : Directory) (here : Place) : List String → Except OpenReason Goal
  | [] => .ok (.folder (d.accessOf here))
  | name :: rest =>
    if name == "" then d.follow here rest
    else if !(d.accessOf here).searchable then .error .notPermitted
    else if name == "." then d.follow here rest
    else if name == ".." then d.follow (parent here) rest
    else if byteLength name ≤ maxNameBytes then
      match d.lookup? (here ++ [name]) with
      | some (.folder _) => d.follow (here ++ [name]) rest
      | some (.file bytes access) =>
        if rest.all fun p ↦ p == "" then
          .ok (.file (here ++ [name]) bytes access (!rest.isEmpty))
        else .error .notADirectory
      | none =>
        if rest.all fun p ↦ p == "" then
          .ok (.free (here ++ [name]) (d.accessOf here) (!rest.isEmpty))
        else .error .missing
    else .error .nameTooLong

/-- Where a path leads. -/
def goal (d : Directory) (path : String) : Except OpenReason Goal :=
  if path.toList.contains '\x00' then .error .notAPath
  else if path == "" then .error .missing
  else if byteLength path ≤ maxPathBytes then
    d.follow (if path.toList.head? == some '/' then ["/"] else []) (splitPath path)
  else .error .nameTooLong

/-- Whether something stands where a path leads, if that can be found out. -/
def pathExists (d : Directory) (path : String) : Except OpenFault Bool :=
  match d.goal path with
  | .ok (.file _ _ _ asFolder) => .ok (!asFolder)
  | .ok (.folder _) => .ok true
  | .ok (.free _ _ _) => .ok false
  | .error reason => if reason.isAbsence then .ok false else .error ⟨path, reason⟩

/-- The bytes of the file that a path leads to. -/
def read (d : Directory) (path : String) : Except OpenFault ByteArray :=
  match d.goal path with
  | .ok (.file _ bytes access asFolder) =>
    if asFolder then .error ⟨path, .notADirectory⟩
    else if access.readable then .ok bytes
    else .error ⟨path, .notPermitted⟩
  | .ok (.folder access) =>
    .error ⟨path, if access.readable then .isADirectory else .notPermitted⟩
  | .ok (.free _ _ _) => .error ⟨path, .missing⟩
  | .error reason => .error ⟨path, reason⟩

/-- The place of the file that a path leads to, as somewhere to write. -/
def placeToWrite (d : Directory) (path : String) : Except OpenFault Place :=
  match d.goal path with
  | .ok (.file place _ access asFolder) | .ok (.free place access asFolder) =>
    if asFolder then .error ⟨path, .isADirectory⟩
    else if access.writable then .ok place
    else .error ⟨path, .notPermitted⟩
  | .ok (.folder _) => .error ⟨path, .isADirectory⟩
  | .error reason => .error ⟨path, reason⟩

/-- Puts a file at a place, instead of what stands there. What may be done there stays. -/
def put (d : Directory) (place : Place) (bytes : ByteArray) : Directory :=
  ⟨d.entries.filter (fun e ↦ e.1 != place) ++ [(place, .file bytes (d.accessOf place))]⟩

theorem lookup?_put_self (d : Directory) (place : Place) (bytes : ByteArray) :
    (d.put place bytes).lookup? place = some (.file bytes (d.accessOf place)) := by
  have : (d.entries.filter fun e ↦ e.1 != place).find? (fun e ↦ e.1 == place) = none := by
    simp
  simp [put, lookup?, List.find?_append, this]

/-- The other places keep what stands there. -/
theorem lookup?_put_of_ne {place other : Place} (h : other ≠ place) (d : Directory)
    (bytes : ByteArray) : (d.put place bytes).lookup? other = d.lookup? other := by
  have : (d.entries.filter fun e ↦ e.1 != place).find? (fun e ↦ e.1 == other)
      = d.entries.find? fun e ↦ e.1 == other := by
    rw [List.find?_filter]
    congr 1
    funext e
    by_cases he : e.1 = other <;> simp [he, h]
  simp [put, lookup?, List.find?_append, this, Ne.symm h]

/-- Writes at the end of a file. -/
def append (d : Directory) (place : Place) (text : String) : Directory :=
  match d.lookup? place with
  | some (.file bytes _) => d.put place (bytes ++ text.toUTF8)
  | _ => d.put place text.toUTF8

end Directory

/-! ### Texts in files -/

/-- Why a file cannot be read as a text. -/
inductive ReadFault where
  /-- It cannot be opened. -/
  | notOpened (f : OpenFault)
  /-- Its bytes are no text. -/
  | notDecoded (f : Text.DecodeFault)

/-- What a reader is told. -/
def ReadFault.message : ReadFault → String
  | .notOpened f => f.message
  | .notDecoded f => f.message

/-- The text of the file that a path leads to, with its line ends in one form. -/
def Directory.readText (d : Directory) (path : String) : Except ReadFault (List Char) :=
  match d.read path with
  | .error f => .error (.notOpened f)
  | .ok bytes =>
    match Text.decode bytes with
    | .error f => .error (.notDecoded f)
    | .ok cs => .ok (Text.universalNewlines cs)

end StructuredIL
