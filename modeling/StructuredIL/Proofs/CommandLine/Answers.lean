import StructuredIL.Proofs.CommandLine.Stages
import StructuredIL.Proofs.Configuration.Precedence

/-!
# Runs that end with a status

A run on a command line of the grammar ends with a status exactly if it is answered
(`run_finishes_iff`), and then the answer tells the status and all that is left
(`run_eq_finished_iff`). There are three ways to be answered (`Run.IsAnswered`): the input is
refused, the output cannot be made, or functions are written, to the last one or to the first one
that strict mode gives up on. In the first two ways nothing is written at all.

What is written is told by `Run.IsEmitted`, which goes through the functions once more without the
log. A run that comes to a function it can neither write nor give up on is in no way answered: it
stops without a status.

A run begins with what earlier runs in the process have left. All of this is said for every
configuration, all files and every state of the log, so it holds after any runs; in particular no
level is asked for once a run has come to its end (`isReady_of_finished`).
-/

namespace StructuredIL

namespace Run

variable {c : Configuration} {d : Directory} {args out : List String} {threshold : Option Nat}
  {o : Options} {path : String}

/-! ### Functions -/

/-- What is written of a function, if it can be written and its text has characters only. -/
def textOf? (c : Configuration) (mode : C.Mode) (dumpTree : Bool) (f : Function) : Option String :=
  if dumpTree then
    match f.dump c.indent with
    | .ok text => Text.toString? (text ++ "\n")
    | .error _ => none
  else
    match (C.written mode f).outcome with
    | .ok text => Text.toString? text
    | .error _ => none

/-- What is written of functions, one after the other, and whether all of them are written. Writing
is broken off at the first function that is not supported. -/
inductive IsEmitted (c : Configuration) (mode : C.Mode) (dumpTree : Bool) :
    List Function → List String → Bool → Prop
  | nil : IsEmitted c mode dumpTree [] [] true
  | cons {f : Function} {rest : List Function} {t : String} {ts : List String} {isDone : Bool} :
      textOf? c mode dumpTree f = some t → IsEmitted c mode dumpTree rest ts isDone →
      IsEmitted c mode dumpTree (f :: rest) (t :: ts) isDone
  | brokenOff {f : Function} {rest : List Function} {u : C.Unsupported} : dumpTree = false →
      (C.written mode f).outcome = .error (.unsupported u) →
      IsEmitted c mode dumpTree (f :: rest) [] false

/-- How a run ends that has written all it should, or has been broken off. -/
def ofDone (isDone : Bool) : Except Stop Unit := if isDone then .ok () else .error (.status 1)

/-- What there is when some texts have been written. -/
def written (k : Essence) : Sink → List String → Essence
  | .standard, ts => { k with stdout := k.stdout ++ ts }
  | .file place, ts => { k with files := ts.foldl (fun d t ↦ d.append place t) k.files }

theorem written_nil (k : Essence) (sink : Sink) : written k sink [] = k := by
  cases sink <;> simp [written]

theorem written_written (k : Essence) (sink : Sink) (t : String) (ts : List String) :
    written (written k sink [t]) sink ts = written k sink (t :: ts) := by
  cases sink with
  | standard => simp [written]
  | file place => rfl

theorem configuration_written (k : Essence) (sink : Sink) (ts : List String) :
    (written k sink ts).configuration = k.configuration := by
  cases sink <;> rfl

theorem threshold_written (k : Essence) (sink : Sink) (ts : List String) :
    (written k sink ts).threshold = k.threshold := by
  cases sink <;> rfl

variable {k : Essence} {mode : C.Mode} {dumpTree : Bool} {sink : Sink} {f : Function}
  {fs : List Function}

theorem gives_write {text : Text} {t : String} (h : Text.toString? text = some t) :
    Gives (write sink text) k (.ok ()) (written k sink [t]) := by
  rw [write, h]
  cases sink with
  | standard =>
    refine gives_modify fun s hs ↦ ?_
    subst hs
    rfl
  | file place =>
    refine gives_modify fun s hs ↦ ?_
    subst hs
    rfl

theorem breaks_write {text : Text} (h : Text.toString? text = none) :
    Breaks (write sink text) k := by
  rw [write, h]
  exact breaks_throw nofun

/-- The text of a function, in the way that is asked for. -/
def rendered (path : String) (mode : C.Mode) (dumpTree : Bool) (f : Function) : Run Text :=
  if dumpTree then dumped f else lowered path mode f

theorem gives_dumped {text : Text} (h : f.dump k.configuration.indent = .ok text) :
    Gives (dumped f) k (.ok (text ++ "\n")) k := by
  refine gives_get fun s hs ↦ ?_
  subst hs
  have hdump : f.dump s.configuration.indent = .ok text := h
  rw [hdump]
  exact gives_pure _ _

theorem breaks_dumped {e : DumpFault} (h : f.dump k.configuration.indent = .error e) :
    Breaks (dumped f) k := by
  refine breaks_get fun s hs ↦ ?_
  subst hs
  have hdump : f.dump s.configuration.indent = .error e := h
  rw [hdump]
  exact breaks_throw nofun

theorem gives_lowered {text : Text} (h : (C.written mode f).outcome = .ok text) :
    Gives (lowered path mode f) k (.ok text) k := by
  refine (gives_records _ _).bind ?_
  rw [h]
  exact gives_pure _ _

theorem gives_lowered_unsupported {u : C.Unsupported}
    (h : (C.written mode f).outcome = .error (.unsupported u)) :
    Gives (lowered path mode f) k (.error (.status 1)) k := by
  refine (gives_records _ _).bind ?_
  rw [h]
  exact gives_giveUp _ _

theorem breaks_lowered (h : (C.written mode f).outcome = .error .integerTooLong) :
    Breaks (lowered path mode f) k := by
  refine (gives_records _ _).bind_breaks ?_
  rw [h]
  exact breaks_throw nofun

theorem gives_rendered (path : String) {t : String}
    (h : textOf? k.configuration mode dumpTree f = some t) :
    ∃ text, Gives (rendered path mode dumpTree f) k (.ok text) k ∧
      Text.toString? text = some t := by
  rw [textOf?] at h
  rw [rendered]
  split at h
  · rw [if_pos ‹_›]
    split at h
    · exact ⟨_, gives_dumped ‹_›, h⟩
    · cases h
  · rw [if_neg ‹_›]
    split at h
    · exact ⟨_, gives_lowered ‹_›, h⟩
    · cases h

/-- A function that cannot be written stops the run, unless it is one that is not supported. -/
theorem breaks_rendered (h : textOf? k.configuration mode dumpTree f = none)
    (hu : ∀ u, dumpTree = false → (C.written mode f).outcome ≠ .error (.unsupported u)) :
    Breaks (rendered path mode dumpTree f >>= write sink) k := by
  rw [textOf?] at h
  rw [rendered]
  split at h
  · rw [if_pos ‹_›]
    split at h
    · exact (gives_dumped ‹_›).bind_breaks (breaks_write h)
    · exact (breaks_dumped ‹_›).bind
  · rw [if_neg ‹_›]
    split at h
    · exact (gives_lowered ‹_›).bind_breaks (breaks_write h)
    · rename_i e hwritten
      cases e with
      | unsupported u => exact absurd hwritten (hu u (Bool.eq_false_iff.2 ‹_›))
      | integerTooLong => exact (breaks_lowered hwritten).bind

theorem emit_cons (path : String) (mode : C.Mode) (dumpTree : Bool) (sink : Sink) (f : Function)
    (rest : List Function) : emit path mode dumpTree sink (f :: rest) = (do
      rendered path mode dumpTree f >>= write sink
      say .debug ("Emitted " ++ f.name)
      emit path mode dumpTree sink rest) := by
  rw [emit]
  cases dumpTree with
  | true => simp only [rendered, if_true, bind_assoc]
  | false => simp only [rendered, Bool.false_eq_true, if_false, bind_assoc]

/-- **Writing functions**, to the end or until it is broken off. -/
theorem gives_emit {ts : List String} {isDone : Bool}
    (h : IsEmitted k.configuration mode dumpTree fs ts isDone) :
    Gives (emit path mode dumpTree sink fs) k (ofDone isDone) (written k sink ts) := by
  generalize hc : k.configuration = c at h
  induction h generalizing k with
  | nil =>
    rw [written_nil]
    exact gives_pure () k
  | @cons f rest t ts isDone ht _ ih =>
    rw [emit_cons, ← written_written]
    obtain ⟨text, htext, hstring⟩ := gives_rendered path (hc ▸ ht)
    refine (htext.bind (gives_write hstring)).bind ((gives_say _ _ _).bind (ih ?_))
    rw [configuration_written, hc]
  | @brokenOff f rest u hdump hu =>
    -- a function is lowered as a whole before any of it is written
    have hrendered : Gives (rendered path mode dumpTree f) k (.error (.status 1)) k := by
      rw [rendered, hdump]
      exact gives_lowered_unsupported hu
    rw [emit_cons, written_nil]
    exact hrendered.bind_error.bind_error

theorem breaks_emit (h : ∀ ts isDone, ¬IsEmitted k.configuration mode dumpTree fs ts isDone) :
    Breaks (emit path mode dumpTree sink fs) k := by
  induction fs generalizing k with
  | nil => exact absurd .nil (h _ _)
  | cons f rest ih =>
    rw [emit_cons]
    cases ht : textOf? k.configuration mode dumpTree f with
    | none => exact (breaks_rendered ht fun u hdump hu ↦ h _ _ (.brokenOff hdump hu)).bind
    | some t =>
      obtain ⟨text, htext, hstring⟩ := gives_rendered path ht
      refine (htext.bind (gives_write hstring)).bind_breaks ((gives_say _ _ _).bind_breaks ?_)
      refine ih fun ts isDone hemitted ↦ ?_
      rw [configuration_written] at hemitted
      exact h _ _ (.cons ht hemitted)

/-! ### Whole runs -/

/-- What a run has made sure of before it opens its input: it can go by the command line, and it
knows what to log. -/
structure IsReady (c : Configuration) (d : Directory) (args : List String)
    (threshold : Option Nat) : Prop where
  /-- The command line concerns the configuration as it should. -/
  accepted : (c.prepare d (some args)).2.outcome = .ok ()
  /-- It can be found out whether the file is there that the command line names. -/
  found : Configuration.FindsFile d args
  /-- The log has been set up before, or its level is known. -/
  level : (rankFor? (prepared c d args) threshold).isSome

/-- What there is when a run comes to its input. -/
def entered (c : Configuration) (d : Directory) (args : List String) (threshold : Option Nat) :
    Essence :=
  ⟨prepared c d args, d, [], rankFor? (prepared c d args) threshold⟩

/-- Where a run writes and what it writes there, all that it should or as far as it comes. -/
structure Writes (c : Configuration) (d : Directory) (args : List String) (o : Options)
    (threshold : Option Nat) (sink : Sink) (ts : List String) (isDone : Bool) : Prop where
  /-- The run comes to its input. -/
  ready : IsReady c d args threshold
  /-- The output is opened. -/
  opens : OpensAt d o (some sink)
  /-- The functions of the input are written. -/
  emitted : ∃ fs strict, IsLoaded (prepared c d args) d (o.input.getD "") (some fs) ∧
    (prepared c d args).strict.outcome = .ok strict ∧
    IsEmitted (prepared c d args) (if strict then .strict else .bestEffort) o.dumpTree fs ts
      isDone

/-- A run that ends with a status: whether it has done what it should, and what it leaves. -/
inductive IsAnswered (c : Configuration) (d : Directory) (args : List String) (o : Options)
    (threshold : Option Nat) : Bool → Essence → Prop
  | refusedInput : IsReady c d args threshold →
      IsLoaded (prepared c d args) d (o.input.getD "") none →
      IsAnswered c d args o threshold false (entered c d args threshold)
  | refusedOutput {fs : List Function} : IsReady c d args threshold →
      IsLoaded (prepared c d args) d (o.input.getD "") (some fs) → OpensAt d o none →
      IsAnswered c d args o threshold false (entered c d args threshold)
  | written {sink : Sink} {ts : List String} {isDone : Bool} :
      Writes c d args o threshold sink ts isDone →
      IsAnswered c d args o threshold isDone
        (written { entered c d args threshold with files := opened d (some sink) } sink ts)

/-- The part of a run behind its input. -/
theorem gives_emitAll {ts : List String} {isDone strict : Bool} (hopens : OpensAt d o (some sink))
    (hstrict : c.strict.outcome = .ok strict)
    (h : IsEmitted c (if strict then .strict else .bestEffort) o.dumpTree fs ts isDone) :
    Gives (emitAll path o fs) ⟨c, d, out, threshold⟩ (ofDone isDone)
      (written ⟨c, opened d (some sink), out, threshold⟩ sink ts) := by
  refine (gives_openSink hopens).bind (gives_get fun s hs ↦ ?_)
  obtain ⟨rfl, -, -, -⟩ := Essence.mk.inj hs
  exact (gives_take_ok hstrict _).bind (gives_emit h)

theorem breaks_emitAll (hopens : ¬OpensAt d o none)
    (h : ∀ sink ts isDone strict, OpensAt d o (some sink) → c.strict.outcome = .ok strict →
      ¬IsEmitted c (if strict then .strict else .bestEffort) o.dumpTree fs ts isDone) :
    Breaks (emitAll path o fs) ⟨c, d, out, threshold⟩ := by
  by_cases hsome : ∃ sink, OpensAt d o (some sink)
  · obtain ⟨sink, hsink⟩ := hsome
    refine (gives_openSink hsink).bind_breaks (breaks_get fun s hs ↦ ?_)
    obtain ⟨rfl, -, -, -⟩ := Essence.mk.inj hs
    cases hstrict : s.configuration.strict.outcome with
    | error e =>
      refine (breaks_take ofConfigurationFault_ne_status fun a ha ↦ ?_).bind
      cases hstrict.symm.trans ha
    | ok strict =>
      refine (gives_take_ok hstrict _).bind_breaks (breaks_emit fun ts isDone hemitted ↦ ?_)
      exact h sink ts isDone strict hsink hstrict hemitted
  · refine (breaks_openSink fun sink? hsink ↦ ?_).bind
    cases sink? with
    | none => exact hopens hsink
    | some sink => exact hsome ⟨sink, hsink⟩

/-- The part of a run behind its input. That no function is wanted is only warned about. -/
def afterInput (path : String) (o : Options) (fs : List Function) : Run Unit := do
  if fs.isEmpty then
    let filter ← take ofConfigurationFault (.ofExcept (← get).configuration.methodFilter)
    say .warning s!"No function in {path} matches {Text.quoted filter}"
  emitAll path o fs

theorem perform_eq (args : List String) (o : Options) (path : String) :
    perform args o path = (do
      prepare args
      openLog
      let fs ← loadInput path
      afterInput path o fs) := rfl

theorem IsLoaded.exists_methodFilter {fs? : Option (List Function)} (h : IsLoaded c d path fs?) :
    ∃ filter, c.methodFilter = .ok filter := by
  have hsettings : ∃ settings, c.loadSettings.outcome = .ok settings := by
    cases h with
    | functions h => exact ⟨_, h⟩
    | unreadable h => exact ⟨_, h⟩
    | malformed h => exact ⟨_, h⟩
  obtain ⟨settings, hsettings⟩ := hsettings
  obtain ⟨filter, hfilter, -⟩ := Logged.outcome_bind_eq_ok.1 hsettings
  exact ⟨filter, hfilter⟩

theorem gives_afterInput {r : Except Stop Unit} {filter : Text}
    (hfilter : c.methodFilter = .ok filter)
    (h : Gives (emitAll path o fs) ⟨c, d, out, threshold⟩ r k) :
    Gives (afterInput path o fs) ⟨c, d, out, threshold⟩ r k := by
  rw [afterInput]
  split
  · refine gives_get fun s hs ↦ ?_
    obtain ⟨rfl, -, -, -⟩ := Essence.mk.inj hs
    exact (gives_take_ok hfilter _).bind ((gives_say _ _ _).bind h)
  · exact h

theorem breaks_afterInput {filter : Text} (hfilter : c.methodFilter = .ok filter)
    (h : Breaks (emitAll path o fs) ⟨c, d, out, threshold⟩) :
    Breaks (afterInput path o fs) ⟨c, d, out, threshold⟩ := by
  rw [afterInput]
  split
  · refine breaks_get fun s hs ↦ ?_
    obtain ⟨rfl, -, -, -⟩ := Essence.mk.inj hs
    exact (gives_take_ok hfilter _).bind_breaks ((gives_say _ _ _).bind_breaks h)
  · exact h

theorem gives_perform_of_isReady {r : Except Stop Unit} (hready : IsReady c d args threshold)
    (h : Gives (loadInput path >>= afterInput path o) (entered c d args threshold) r k) :
    Gives (perform args o path) ⟨c, d, [], threshold⟩ r k := by
  rw [perform_eq]
  have hfound := (Configuration.obstacle?_eq_none_iff d args).2 hready.found
  exact (gives_prepare hready.accepted hfound).bind ((gives_openLog hready.level).bind h)

/-- **A run that is answered** ends as the answer says. -/
theorem gives_perform {isDone : Bool} (h : IsAnswered c d args o threshold isDone k) :
    Gives (perform args o (o.input.getD "")) ⟨c, d, [], threshold⟩ (ofDone isDone) k := by
  cases h with
  | refusedInput hready hinput =>
    exact gives_perform_of_isReady hready (gives_loadInput hinput).bind_error
  | refusedOutput hready hinput hopens =>
    obtain ⟨filter, hfilter⟩ := hinput.exists_methodFilter
    refine gives_perform_of_isReady hready ((gives_loadInput hinput).bind ?_)
    exact gives_afterInput hfilter (gives_openSink hopens).bind_error
  | written hwrites =>
    obtain ⟨hready, hopens, fs, strict, hinput, hstrict, hemitted⟩ := hwrites
    obtain ⟨filter, hfilter⟩ := hinput.exists_methodFilter
    refine gives_perform_of_isReady hready ((gives_loadInput hinput).bind ?_)
    exact gives_afterInput hfilter (gives_emitAll hopens hstrict hemitted)

/-- The part of a run behind its preparations, if it is not answered. -/
theorem breaks_input (hready : IsReady c d args threshold)
    (h : ∀ isDone k, ¬IsAnswered c d args o threshold isDone k) :
    Breaks (loadInput (o.input.getD "") >>= afterInput (o.input.getD "") o)
      (entered c d args threshold) := by
  by_cases hinput : ∃ fs, IsLoaded (prepared c d args) d (o.input.getD "") (some fs)
  · obtain ⟨fs, hinput⟩ := hinput
    obtain ⟨filter, hfilter⟩ := hinput.exists_methodFilter
    refine (gives_loadInput hinput).bind_breaks (breaks_afterInput hfilter ?_)
    refine breaks_emitAll (fun hopens ↦ h _ _ (.refusedOutput hready hinput hopens)) ?_
    intro sink ts isDone strict hopens hstrict hemitted
    exact h _ _ (.written ⟨hready, hopens, fs, strict, hinput, hstrict, hemitted⟩)
  · refine (breaks_loadInput fun fs? hloaded ↦ ?_).bind
    cases fs? with
    | none => exact h _ _ (.refusedInput hready hloaded)
    | some fs => exact hinput ⟨fs, hloaded⟩

/-- A run that is not answered stops without a status. -/
theorem breaks_perform (h : ∀ isDone k, ¬IsAnswered c d args o threshold isDone k) :
    Breaks (perform args o (o.input.getD "")) ⟨c, d, [], threshold⟩ := by
  -- the first stage without an answer is looked for, and those before it are known to go on
  rw [perform_eq]
  by_cases hprepared : (c.prepare d (some args)).2.outcome = .ok () ∧
      Configuration.obstacle? d args = none
  · obtain ⟨haccepted, hfound⟩ := hprepared
    refine (gives_prepare haccepted hfound).bind_breaks ?_
    cases hlevel : rankFor? (prepared c d args) threshold with
    | none => exact (breaks_openLog hlevel).bind
    | some rank =>
      have hready : IsReady c d args threshold :=
        ⟨haccepted, (Configuration.obstacle?_eq_none_iff d args).1 hfound,
          Option.isSome_iff_exists.2 ⟨rank, hlevel⟩⟩
      exact (gives_openLog hready.level).bind_breaks (breaks_input hready h)
  · exact (breaks_prepare hprepared).bind

theorem program_eq (hread : Grammar.ofProgram.readAll args = .ok o) :
    program args = perform args o (o.input.getD "") := by
  rw [program, hread]

end Run

open Run

variable {c : Configuration} {d : Directory} {args : List String} {o : Options}
  {threshold : Option Nat}

theorem exists_run_of_isAnswered (hread : Grammar.ofProgram.readAll args = .ok o) {isDone : Bool}
    {k : Essence} (h : IsAnswered c d args o threshold isDone k) :
    ∃ s, s.essence = k ∧
      run c d args threshold = (.finished (if isDone then 0 else 1), s) := by
  obtain ⟨s, hs, hprogram⟩ := gives_perform h ⟨c, d, [], [], threshold⟩ rfl
  refine ⟨s, hs, ?_⟩
  rw [run, program_eq hread, hprogram]
  cases isDone <;> rfl

theorem run_ne_finished (hread : Grammar.ofProgram.readAll args = .ok o)
    (h : ∀ isDone k, ¬IsAnswered c d args o threshold isDone k) (status : Nat) (s : Session) :
    run c d args threshold ≠ (.finished status, s) := by
  obtain ⟨e, s', hprogram, he⟩ := breaks_perform h ⟨c, d, [], [], threshold⟩ rfl
  rw [run, program_eq hread, hprogram]
  cases e with
  | status code => exact absurd rfl (he code)
  | _ => nofun

/-- **How runs end with a status.** A run that is answered ends with 0 if it has done what it
should, and with 1 if not, and no other run ends with a status. -/
theorem run_eq_finished_iff (hread : Grammar.ofProgram.readAll args = .ok o) {status : Nat}
    {k : Essence} :
    (∃ s, s.essence = k ∧ run c d args threshold = (.finished status, s)) ↔
      ∃ isDone, IsAnswered c d args o threshold isDone k ∧
        status = if isDone then 0 else 1 := by
  constructor
  · rintro ⟨s, hs, hrun⟩
    by_cases hanswered : ∃ isDone k', IsAnswered c d args o threshold isDone k'
    · obtain ⟨isDone, k', h⟩ := hanswered
      obtain ⟨s', hs', hrun'⟩ := exists_run_of_isAnswered hread h
      cases hrun'.symm.trans hrun
      exact ⟨isDone, hs ▸ hs' ▸ h, rfl⟩
    · exact absurd hrun (run_ne_finished hread (fun isDone k' h ↦ hanswered ⟨isDone, k', h⟩) _ _)
  · rintro ⟨isDone, h, rfl⟩
    exact exists_run_of_isAnswered hread h

/-- **When runs end with a status.** A run on a command line of the grammar ends with 0 or 1 exactly
if it is answered, whatever earlier runs in the same process have left. Every other run stops for a
reason that it has no answer for. -/
theorem run_finishes_iff (hread : Grammar.ofProgram.readAll args = .ok o) :
    (∃ status s, run c d args threshold = (.finished status, s) ∧ (status = 0 ∨ status = 1)) ↔
      ∃ isDone k, IsAnswered c d args o threshold isDone k := by
  constructor
  · rintro ⟨status, s, hrun, -⟩
    obtain ⟨isDone, h, -⟩ := (run_eq_finished_iff hread).1 ⟨s, rfl, hrun⟩
    exact ⟨isDone, s.essence, h⟩
  · rintro ⟨isDone, k, h⟩
    obtain ⟨s, -, hrun⟩ := (run_eq_finished_iff hread).2 ⟨isDone, h, rfl⟩
    refine ⟨_, s, hrun, ?_⟩
    cases isDone
    · exact .inr rfl
    · exact .inl rfl

/-- A run whose input is not there is answered, also where an earlier run has set the log up. -/
theorem finishes_of_missing_input : ∃ o, Grammar.ofProgram.readAll ["m"] = .ok o ∧
    ∃ status s, run .initial ⟨[]⟩ ["m"] (some 40) = (.finished status, s) ∧
      (status = 0 ∨ status = 1) := by
  refine ⟨_, rfl, (run_finishes_iff rfl).2 ⟨false, _, .refusedInput ⟨rfl, nofun, rfl⟩ ?_⟩⟩
  exact .unreadable rfl rfl nofun

/-- A run whose input is no text is not answered. -/
theorem not_finishes_of_bytes : ¬∀ d args o, Grammar.ofProgram.readAll args = .ok o →
    ∃ status s, run .initial d args = (.finished status, s) ∧ (status = 0 ∨ status = 1) := by
  intro h
  obtain ⟨status, s, hrun, -⟩ := h ⟨[(["m"], .file ⟨#[0xff]⟩)]⟩ ["m"] _ rfl
  have heval : (match run .initial ⟨[(["m"], .file ⟨#[0xff]⟩)]⟩ ["m"] with
      | (.stopped _, _) => true
      | _ => false) = true := by
    decide +kernel
  rw [hrun] at heval
  cases heval

/-! ### One run after another -/

/-- A run that is answered has the log set up. -/
theorem Run.IsAnswered.isSome_threshold {isDone : Bool} {k : Essence}
    (h : IsAnswered c d args o threshold isDone k) : k.threshold.isSome := by
  cases h with
  | refusedInput hready _ => exact hready.level
  | refusedOutput hready _ _ => exact hready.level
  | @written sink ts _ hwrites =>
    rw [threshold_written]
    exact hwrites.ready.level

/-- **The level of the log is looked at once.** After a run that has come to its end, every run in
the process comes to its input if its command line can be gone by, whatever level it is told. -/
theorem isReady_of_finished {status : Nat} {s : Session} {later : List String} {level : Text}
    (hread : Grammar.ofProgram.readAll args = .ok o)
    (h : run c d args threshold = (.finished status, s))
    (haccepted : (s.configuration.prepare s.files (some later)).2.outcome = .ok ())
    (hfound : Configuration.FindsFile s.files later)
    (hlevel : (prepared s.configuration s.files later).logLevel = .ok level) :
    IsReady s.configuration s.files later s.threshold := by
  obtain ⟨isDone, hanswered, -⟩ := (run_eq_finished_iff hread).1 ⟨s, rfl, h⟩
  obtain ⟨rank, hrank⟩ := Option.isSome_iff_exists.1 hanswered.isSome_threshold
  have hkept : s.threshold = some rank := hrank
  refine ⟨haccepted, hfound, ?_⟩
  rw [rankFor?, hlevel, hkept]
  rfl

/-- A file with a configuration that names a level that is not known. -/
def unknownLevelFile : Directory := ⟨[(["c"], .file "\x7blog_level:'LOUD'\x7d".toUTF8)]⟩

/-- An unknown level stops the run that would set the log up, and no later one. -/
example : (match run .initial unknownLevelFile ["m", "--config", "c"] with
      | (.stopped (.unknownLevel _), s) => s.threshold
      | _ => none) = some 30 ∧
    (match run .initial unknownLevelFile ["m", "--config", "c"] (some 30) with
      | (.finished status, _) => some status
      | _ => none) = some 1 := by
  decide +kernel

end StructuredIL
