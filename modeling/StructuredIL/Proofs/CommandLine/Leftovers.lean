import StructuredIL.Proofs.CommandLine.Answers
import StructuredIL.Proofs.Lowering.Modes

/-!
# What a failing run leaves

The output is opened before anything is lowered, and functions are written one after the other. So a
run that fails may have written already, and it may have emptied a file.

`leavesNothing_iff` says when it does not. A run that comes to no output leaves everything as it
was. A run that is broken off leaves the output as it was only if that held what has been written by
then: nothing on the standard output, and in a file the very texts of the functions before the one
that is not supported. Only strict mode breaks off, and only where C is written, so no other failing
run leaves anything (`leavesNothing_of_goesOn`).
-/

namespace StructuredIL

/-! ### Files that are written to -/

namespace Directory

variable {d : Directory} {place other : Place}

theorem lookup?_append_self {bytes : ByteArray} {access : Access}
    (h : d.lookup? place = some (.file bytes access)) (text : String) :
    (d.append place text).lookup? place = some (.file (bytes ++ text.toUTF8) access) := by
  have haccess : d.accessOf place = access := by rw [accessOf, h]
  rw [append, h, ← haccess]
  exact lookup?_put_self d place _

/-- The other places keep what stands there. -/
theorem lookup?_append_of_ne (h : other ≠ place) (d : Directory) (text : String) :
    (d.append place text).lookup? other = d.lookup? other := by
  rw [append]
  split
  · exact lookup?_put_of_ne h d _
  · exact lookup?_put_of_ne h d _

/-- Texts that are written one after the other stand one after the other. -/
theorem lookup?_foldl_append_self {text : String} {access : Access}
    (h : d.lookup? place = some (.file text.toUTF8 access)) (ts : List String) :
    (ts.foldl (fun d t ↦ d.append place t) d).lookup? place =
      some (.file (ts.foldl (· ++ ·) text).toUTF8 access) := by
  induction ts generalizing d text with
  | nil => exact h
  | cons t rest ih =>
    refine ih ?_
    rw [lookup?_append_self h, String.toUTF8_eq_toByteArray, String.toUTF8_eq_toByteArray,
      String.toUTF8_eq_toByteArray, String.toByteArray_append]

theorem lookup?_foldl_append_of_ne (h : other ≠ place) (d : Directory) (ts : List String) :
    (ts.foldl (fun d t ↦ d.append place t) d).lookup? other = d.lookup? other := by
  induction ts generalizing d with
  | nil => rfl
  | cons t rest ih => rw [List.foldl_cons, ih, lookup?_append_of_ne h]

end Directory

/-! ### What is left -/

/-- A run leaves nothing: the standard output is empty, and everywhere there is what there was. -/
structure Session.LeavesNothing (s : Session) (d : Directory) : Prop where
  /-- Nothing is on the standard output. -/
  stdout : s.stdout = []
  /-- Every place is as it was. -/
  files : ∀ place, s.files.lookup? place = d.lookup? place

/-- An output holds some texts before they are written, one after the other and nothing else. -/
def Run.Sink.Holds (d : Directory) : Run.Sink → List String → Prop
  | .standard, ts => ts = []
  | .file place, ts => ∃ access, d.lookup? place = some (.file (String.join ts).toUTF8 access)

namespace Run

variable {c : Configuration} {d : Directory} {args : List String} {threshold : Option Nat}
  {k : Essence} {s : Session} {sink : Sink} {ts : List String}

theorem lookup?_written_self (k : Essence) (d : Directory) (place : Place) (ts : List String) :
    (written { k with files := opened d (some (.file place)) } (.file place) ts).files.lookup?
      place = some (.file (String.join ts).toUTF8 (d.accessOf place)) := by
  have hempty : (d.put place ByteArray.empty).lookup? place =
      some (.file "".toUTF8 (d.accessOf place)) :=
    Directory.lookup?_put_self d place _
  exact Directory.lookup?_foldl_append_self hempty ts

theorem lookup?_written_of_ne {place other : Place} (h : other ≠ place) (k : Essence)
    (d : Directory) (ts : List String) :
    (written { k with files := opened d (some (.file place)) } (.file place) ts).files.lookup?
      other = d.lookup? other :=
  (Directory.lookup?_foldl_append_of_ne h _ ts).trans (Directory.lookup?_put_of_ne h d _)

/-- A run that has written some texts leaves nothing exactly if they were there before. -/
theorem leavesNothing_iff_holds (hk : k.stdout = [])
    (hs : s.essence = written { k with files := opened d (some sink) } sink ts) :
    s.LeavesNothing d ↔ sink.Holds d ts := by
  have hstdout : s.stdout = (written { k with files := opened d (some sink) } sink ts).stdout :=
    congrArg Essence.stdout hs
  have hfiles : s.files = (written { k with files := opened d (some sink) } sink ts).files :=
    congrArg Essence.files hs
  cases sink with
  | standard =>
    have hstdout : s.stdout = ts := by simpa [written, hk] using hstdout
    constructor
    · intro h
      exact hstdout.symm.trans h.stdout
    · intro h
      exact ⟨hstdout.trans h, fun place ↦ by rw [hfiles]; rfl⟩
  | file place =>
    constructor
    · intro h
      refine ⟨d.accessOf place, ?_⟩
      rw [← h.files, hfiles]
      exact lookup?_written_self k d place ts
    · rintro ⟨access, h⟩
      have haccess : d.accessOf place = access := by rw [Directory.accessOf, h]
      refine ⟨hstdout.trans hk, fun other ↦ ?_⟩
      rw [hfiles]
      by_cases hother : other = place
      · subst hother
        rw [lookup?_written_self, haccess, h]
      · exact lookup?_written_of_ne hother k d ts

/-- A run that gives up on what it reads, or cannot open its output, leaves nothing. -/
theorem leavesNothing_of_entered (hs : s.essence = entered c d args threshold) :
    s.LeavesNothing d := by
  obtain ⟨-, hfiles, hstdout, -⟩ := Essence.mk.inj hs
  exact ⟨hstdout, fun place ↦ by rw [hfiles]⟩

/-- Writing is only broken off where C is written in strict mode. -/
theorem IsEmitted.eq_of_brokenOff {mode : C.Mode} {dumpTree : Bool} {fs : List Function}
    (h : IsEmitted c mode dumpTree fs ts false) : dumpTree = false ∧ mode = .strict := by
  generalize hdone : false = isDone at h
  induction h with
  | nil => cases hdone
  | cons _ _ ih => exact ih hdone
  | brokenOff hdump hu =>
    refine ⟨hdump, ?_⟩
    cases mode with
    | bestEffort => exact absurd hu (C.goesOn_written _ _)
    | strict => rfl

end Run

open Run

variable {c : Configuration} {d : Directory} {args : List String} {threshold : Option Nat}
  {s : Session}

/-- A failing run leaves nothing if the output that it opens held before what it has written. -/
theorem leavesNothing_of_holds (h : run c d args threshold = (.finished 1, s))
    (hholds : ∀ o sink ts, Grammar.ofProgram.readAll args = .ok o →
      Writes c d args o threshold sink ts false → sink.Holds d ts) : s.LeavesNothing d := by
  cases hread : Grammar.ofProgram.readAll args with
  | error e =>
    rw [run, program, hread] at h
    cases h
  | ok o =>
    obtain ⟨isDone, hanswer, hstatus⟩ := (run_eq_finished_iff hread).1 ⟨s, rfl, h⟩
    -- the answer speaks of all that is left, so it is the answer's case that says what that is
    generalize hs : s.essence = k at hanswer
    cases isDone with
    | true => cases hstatus
    | false =>
      cases hanswer with
      | refusedInput => exact leavesNothing_of_entered hs
      | refusedOutput => exact leavesNothing_of_entered hs
      | written hwrites => exact (leavesNothing_iff_holds rfl hs).2 (hholds o _ _ hread hwrites)

/-- A failing run that dumps, or goes on where something is not supported, leaves nothing. -/
theorem leavesNothing_of_goesOn (h : run c d args threshold = (.finished 1, s))
    (hgoesOn : ∀ o, Grammar.ofProgram.readAll args = .ok o →
      o.dumpTree = true ∨ (prepared c d args).strict.outcome = .ok false) : s.LeavesNothing d := by
  refine leavesNothing_of_holds h fun o sink ts hread hwrites ↦ ?_
  obtain ⟨fs, strict, -, hstrict, hemitted⟩ := hwrites.emitted
  obtain ⟨hdump, hmode⟩ := hemitted.eq_of_brokenOff
  cases hgoesOn o hread with
  | inl hdumps => cases hdumps.symm.trans hdump
  | inr hlenient =>
    cases hlenient.symm.trans hstrict
    cases hmode

/-- **What a failing run leaves.** It leaves nothing exactly if no output is opened, or the output
held before what has been written until the run is broken off. -/
theorem leavesNothing_iff (h : run c d args threshold = (.finished 1, s)) :
    s.LeavesNothing d ↔ ∀ o sink ts, Grammar.ofProgram.readAll args = .ok o →
      Writes c d args o threshold sink ts false → sink.Holds d ts := by
  constructor
  · intro hleaves o sink ts hread hwrites
    obtain ⟨s', hs', hrun⟩ := (run_eq_finished_iff hread).2 ⟨false, .written hwrites, rfl⟩
    cases hrun.symm.trans h
    exact (leavesNothing_iff_holds rfl hs').1 hleaves
  · exact leavesNothing_of_holds h

/-! #### The second of two functions is not supported -/

namespace SecondUnsupported

/-- A module with a function that is supported and one that is not. -/
def text : String :=
  "\x7bfunctions:[\x7bname:'Main',body:\x7bop:'BlockContainer'\x7d\x7d," ++
    "\x7bname:'Main',body:\x7bop:'BlockContainer',kind:'Switch'\x7d\x7d]\x7d"

/-- The module in a file. -/
def files : Directory := ⟨[(["m"], .file text.toUTF8)]⟩

/-- The first function is written before the run is broken off. -/
theorem fails : ∃ s, run ⟨[], []⟩ files ["m", "--strict"] = (.finished 1, s) ∧
    s.stdout ≠ [] := by
  -- all of the run is computed, and of what it leaves only whether anything is written
  have heval : (match run ⟨[], []⟩ files ["m", "--strict"] with
      | (.finished 1, s) => s.stdout.isEmpty
      | _ => true) = false := by
    decide +kernel
  split at heval
  · rename_i s hrun
    refine ⟨s, hrun, fun hstdout ↦ ?_⟩
    rw [hstdout] at heval
    cases heval
  · cases heval

end SecondUnsupported

open SecondUnsupported in
/-- What has been written of the first function was not there before. -/
theorem writes_of_secondUnsupported : ∃ s, run ⟨[], []⟩ files ["m", "--strict"] = (.finished 1, s) ∧
    ∃ o sink ts, Grammar.ofProgram.readAll ["m", "--strict"] = .ok o ∧
      Writes ⟨[], []⟩ files ["m", "--strict"] o none sink ts false ∧ ¬sink.Holds files ts := by
  obtain ⟨s, hrun, hstdout⟩ := fails
  refine ⟨s, hrun, Classical.byContradiction fun hnone ↦ ?_⟩
  have hleaves : s.LeavesNothing files := by
    refine (leavesNothing_iff hrun).2 fun o sink ts hread hwrites ↦ ?_
    exact Classical.byContradiction fun hholds ↦ hnone ⟨o, sink, ts, hread, hwrites, hholds⟩
  exact hstdout hleaves.stdout

open SecondUnsupported in
/-- A failing run may leave something. -/
theorem leaves_of_secondUnsupported :
    ¬∀ c d args s, run c d args = (.finished 1, s) → s.LeavesNothing d := by
  intro h
  obtain ⟨s, hrun, hstdout⟩ := fails
  exact hstdout (h _ _ _ s hrun).stdout

end StructuredIL
