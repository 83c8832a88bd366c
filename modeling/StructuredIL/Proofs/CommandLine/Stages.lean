import StructuredIL.CommandLine.Run

/-!
# The stages of a run

A run is a sequence of stages, and what a stage does depends on what has been shown of the log in
nothing but what it shows there. So that is forgotten: `Run.Gives` tells how a step ends, and what
it leaves, from the rest of the session, which is its `Essence`. Whether the log has been set up is
part of that, as an earlier run may have done so. There is one rule for one step after the other and
one for each stage, and no later proof looks into a stage again.

Up to the point where it writes, a run leaves the files and the standard output alone.
-/

namespace StructuredIL

/-- All of a session but what has been shown of the log. -/
structure Essence where
  /-- The configuration. -/
  configuration : Configuration
  /-- The files. -/
  files : Directory
  /-- What has been written to the standard output. -/
  stdout : List String
  /-- The rank from which records are shown, once the log has been set up. -/
  threshold : Option Nat

/-- All of a session but what has been shown of the log. -/
def Session.essence (s : Session) : Essence :=
  ⟨s.configuration, s.files, s.stdout, s.threshold⟩

namespace Run

variable {ε α β : Type}

/-- An outcome with the session it is left in. -/
def result (s : Session) : Except Stop α → EStateM.Result Stop Session α
  | .ok a => .ok a s
  | .error e => .error e s

/-- How a step ends, and what it leaves, from a session of which the essence is known. -/
def Gives (x : Run α) (k : Essence) (r : Except Stop α) (k' : Essence) : Prop :=
  ∀ s : Session, s.essence = k → ∃ s', s'.essence = k' ∧ x s = result s' r

section

variable {x : Run α} {f : α → Run β} {a : α} {e : Stop} {r : Except Stop β} {k k' k'' : Essence}

theorem gives_pure (a : α) (k : Essence) : Gives (pure a) k (.ok a) k :=
  fun s hs ↦ ⟨s, hs, rfl⟩

theorem gives_throw (e : Stop) (k : Essence) : Gives (throw e : Run α) k (.error e) k :=
  fun s hs ↦ ⟨s, hs, rfl⟩

theorem gives_modify {g : Session → Session} (h : ∀ s, s.essence = k → (g s).essence = k') :
    Gives (modify g) k (.ok ()) k' :=
  fun s hs ↦ ⟨g s, h s hs, rfl⟩

theorem bind_eq_of_ok {s s' : Session} (h : x s = .ok a s') : (x >>= f) s = f a s' := by
  show EStateM.bind x f s = _
  rw [EStateM.bind, h]

theorem bind_eq_of_error {s s' : Session} (h : x s = .error e s') :
    (x >>= f) s = .error e s' := by
  show EStateM.bind x f s = _
  rw [EStateM.bind, h]

/-- **One step after another.** -/
theorem Gives.bind (hx : Gives x k (.ok a) k') (hf : Gives (f a) k' r k'') :
    Gives (x >>= f) k r k'' := by
  intro s hs
  obtain ⟨s', hs', hxs⟩ := hx s hs
  obtain ⟨s'', hs'', hfs⟩ := hf s' hs'
  exact ⟨s'', hs'', (bind_eq_of_ok hxs).trans hfs⟩

/-- A step that stops the run is the last one. -/
theorem Gives.bind_error (hx : Gives x k (.error e) k') : Gives (x >>= f) k (.error e) k' := by
  intro s hs
  obtain ⟨s', hs', hxs⟩ := hx s hs
  exact ⟨s', hs', bind_eq_of_error hxs⟩

theorem gives_get {f : Session → Run β} (h : ∀ s, s.essence = k → Gives (f s) k r k') :
    Gives (get >>= f) k r k' :=
  fun s hs ↦ h s hs s hs

end

/-! ### The log -/

theorem gives_record (r : Record) (k : Essence) : Gives (record r) k (.ok ()) k := by
  refine gives_modify fun s hs ↦ ?_
  split <;> split <;> exact hs

theorem gives_records (log : List Record) (k : Essence) : Gives (records log) k (.ok ()) k := by
  induction log with
  | nil => exact gives_pure () k
  | cons r rest ih => exact (gives_record r k).bind ih

theorem gives_say (level : Level) (text : Text) (k : Essence) :
    Gives (say level text) k (.ok ()) k :=
  gives_record _ k

theorem gives_giveUp (text : Text) (k : Essence) :
    Gives (giveUp text : Run α) k (.error (.status 1)) k :=
  (gives_say .error text k).bind (gives_throw _ k)

/-- What is taken into a run is its value, or the failure as a stop. -/
theorem gives_take (stop : ε → Stop) (l : Logged ε α) (k : Essence) :
    Gives (take stop l) k (l.outcome.mapError stop) k := by
  refine (gives_records l.log k).bind ?_
  cases l.outcome with
  | ok a => exact gives_pure a k
  | error e => exact gives_throw (stop e) k

theorem gives_take_ok {stop : ε → Stop} {l : Logged ε α} {a : α} (h : l.outcome = .ok a)
    (k : Essence) : Gives (take stop l) k (.ok a) k := by
  have htake := gives_take stop l k
  rwa [h] at htake

theorem gives_take_error {stop : ε → Stop} {l : Logged ε α} {e : ε} (h : l.outcome = .error e)
    (k : Essence) : Gives (take stop l : Run α) k (.error (stop e)) k := by
  have htake := gives_take stop l k
  rwa [h] at htake

/-! ### Stops without a status -/

/-- A step that stops the run without a status. -/
def Breaks (x : Run α) (k : Essence) : Prop :=
  ∀ s : Session, s.essence = k → ∃ e s', x s = .error e s' ∧ ∀ code, e ≠ .status code

section

variable {x : Run α} {f : α → Run β} {a : α} {k k' : Essence}

theorem Gives.breaks {e : Stop} (h : Gives x k (.error e) k') (he : ∀ code, e ≠ .status code) :
    Breaks x k := by
  intro s hs
  obtain ⟨s', -, hxs⟩ := h s hs
  exact ⟨e, s', hxs, he⟩

theorem Breaks.bind (h : Breaks x k) : Breaks (x >>= f) k := by
  intro s hs
  obtain ⟨e, s', hxs, he⟩ := h s hs
  exact ⟨e, s', bind_eq_of_error hxs, he⟩

theorem Gives.bind_breaks (hx : Gives x k (.ok a) k') (hf : Breaks (f a) k') :
    Breaks (x >>= f) k := by
  intro s hs
  obtain ⟨s', hs', hxs⟩ := hx s hs
  obtain ⟨e, s'', hfs, he⟩ := hf s' hs'
  exact ⟨e, s'', (bind_eq_of_ok hxs).trans hfs, he⟩

theorem breaks_get {f : Session → Run α} (h : ∀ s, s.essence = k → Breaks (f s) k) :
    Breaks (get >>= f) k :=
  fun s hs ↦ h s hs s hs

theorem breaks_throw {e : Stop} (he : ∀ code, e ≠ .status code) : Breaks (throw e : Run α) k :=
  (gives_throw e k).breaks he

theorem breaks_take {stop : ε → Stop} (hstop : ∀ e code, stop e ≠ .status code) {l : Logged ε α}
    (h : ∀ a, l.outcome ≠ .ok a) : Breaks (take stop l : Run α) k := by
  cases hl : l.outcome with
  | ok a => exact absurd hl (h a)
  | error e => exact (gives_take_error hl k).breaks (hstop e)

end

theorem ofConfigurationFault_ne_status (e : ConfigurationFault) (code : Nat) :
    ofConfigurationFault e ≠ .status code := by
  cases e
  nofun

/-! ### The configuration and the log -/

/-- The configuration that a run goes by. -/
def prepared (c : Configuration) (d : Directory) (args : List String) : Configuration :=
  (c.prepare d (some args)).1

variable {c : Configuration} {d : Directory} {args out : List String} {threshold : Option Nat}

theorem gives_setConfiguration (c c' : Configuration) :
    Gives (modify fun s ↦ { s with configuration := c' }) ⟨c, d, out, threshold⟩ (.ok ())
      ⟨c', d, out, threshold⟩ := by
  refine gives_modify fun s hs ↦ ?_
  obtain ⟨-, rfl, rfl, rfl⟩ := Essence.mk.inj hs
  rfl

/-- A command line that is gone by prepares the configuration. -/
theorem gives_prepare (haccepted : (c.prepare d (some args)).2.outcome = .ok ())
    (hfound : Configuration.obstacle? d args = none) :
    Gives (prepare args) ⟨c, d, out, threshold⟩ (.ok ())
      ⟨prepared c d args, d, out, threshold⟩ := by
  refine gives_get fun s hs ↦ ?_
  obtain ⟨rfl, rfl, rfl, rfl⟩ := Essence.mk.inj hs
  refine (gives_setConfiguration _ _).bind ((gives_take_ok haccepted _).bind ?_)
  rw [hfound]
  exact gives_pure () _

/-- Words that are not as they should be stop the run, and so does a file of which it cannot be
found out whether it is there. -/
theorem breaks_prepare (h : ¬((c.prepare d (some args)).2.outcome = .ok () ∧
      Configuration.obstacle? d args = none)) :
    Breaks (prepare args) ⟨c, d, out, threshold⟩ := by
  refine breaks_get fun s hs ↦ ?_
  obtain ⟨rfl, rfl, rfl, rfl⟩ := Essence.mk.inj hs
  refine (gives_setConfiguration _ _).bind_breaks ?_
  cases haccepted : (s.configuration.prepare s.files (some args)).2.outcome with
  | error e => exact (breaks_take nofun fun a ha ↦ by cases haccepted.symm.trans ha).bind
  | ok =>
    refine (gives_take_ok haccepted _).bind_breaks ?_
    cases hfound : Configuration.obstacle? s.files args with
    | none => exact absurd ⟨haccepted, hfound⟩ h
    | some f => exact breaks_throw nofun

theorem gives_setThreshold (threshold : Option Nat) (rank : Nat) :
    Gives (modify fun s ↦ { s with threshold := some rank }) ⟨c, d, out, threshold⟩ (.ok ())
      ⟨c, d, out, some rank⟩ := by
  refine gives_modify fun s hs ↦ ?_
  obtain ⟨rfl, rfl, rfl, -⟩ := Essence.mk.inj hs
  rfl

/-- The rank from which a run shows records: the one that an earlier run has left, or else that of
the level that the configuration names. It has none if that has no known name, or cannot be
written. -/
def rankFor? (c : Configuration) (threshold : Option Nat) : Option Nat :=
  match c.logLevel with
  | .ok name => threshold.or (rankOf? name)
  | .error _ => none

theorem gives_openLog (h : (rankFor? c threshold).isSome) :
    Gives openLog ⟨c, d, out, threshold⟩ (.ok ()) ⟨c, d, out, rankFor? c threshold⟩ := by
  refine gives_get fun s hs ↦ ?_
  obtain ⟨rfl, rfl, rfl, hthreshold⟩ := Essence.mk.inj hs
  rw [rankFor?] at h ⊢
  cases hname : s.configuration.logLevel with
  | error e =>
    rw [hname] at h
    cases h
  | ok name =>
    rw [hname] at h
    refine (gives_take_ok (l := .ofExcept (.ok name)) rfl _).bind ?_
    rw [hthreshold]
    cases threshold with
    | some rank => exact gives_pure () _
    | none =>
      refine (gives_setThreshold none Level.warning.rank).bind ?_
      obtain ⟨rank, hrank⟩ := Option.isSome_iff_exists.1 h
      have hrank : rankOf? name = some rank := hrank
      dsimp only
      rw [Option.none_or, hrank]
      exact gives_setThreshold _ rank

/-- A level without a rank stops the run that would set the log up, and one that cannot be written
stops every run. -/
theorem breaks_openLog (h : rankFor? c threshold = none) :
    Breaks openLog ⟨c, d, out, threshold⟩ := by
  refine breaks_get fun s hs ↦ ?_
  obtain ⟨rfl, rfl, rfl, hthreshold⟩ := Essence.mk.inj hs
  rw [rankFor?] at h
  cases hname : s.configuration.logLevel with
  | error e => exact (breaks_take ofConfigurationFault_ne_status nofun).bind
  | ok name =>
    rw [hname] at h
    obtain ⟨rfl, hrank⟩ := Option.or_eq_none_iff.1 h
    refine (gives_take_ok (l := .ofExcept (.ok name)) rfl _).bind_breaks ?_
    rw [hthreshold]
    refine (gives_setThreshold none Level.warning.rank).bind_breaks ?_
    rw [hrank]
    exact breaks_throw nofun

/-! ### The input -/

/-- What a run reads of its input, as far as it ends with a status: the wanted functions, or
nothing if the input is refused. -/
inductive IsLoaded (c : Configuration) (d : Directory) (path : String) :
    Option (List Function) → Prop
  | functions {settings : LoadSettings} {text : List Char} {fs : List Function} :
      c.loadSettings.outcome = .ok settings → d.readText path = .ok text →
      (load settings text).outcome = .ok fs → IsLoaded c d path (some fs)
  | unreadable {settings : LoadSettings} {f : OpenFault} : c.loadSettings.outcome = .ok settings →
      d.readText path = .error (.notOpened f) → f.reason ≠ .notAPath → IsLoaded c d path none
  | malformed {settings : LoadSettings} {text : List Char} {e : FormatError} :
      c.loadSettings.outcome = .ok settings → d.readText path = .ok text →
      (load settings text).outcome = .error (.format e) → IsLoaded c d path none

/-- How reading the input ends. -/
def ofLoaded : Option (List Function) → Except Stop (List Function)
  | some fs => .ok fs
  | none => .error (.status 1)

variable {path : String}

theorem gives_readInput {text : List Char} (h : d.readText path = .ok text) :
    Gives (readInput path) ⟨c, d, out, threshold⟩ (.ok text) ⟨c, d, out, threshold⟩ := by
  refine gives_get fun s hs ↦ ?_
  obtain ⟨-, rfl, -, -⟩ := Essence.mk.inj hs
  rw [h]
  exact gives_pure text _

theorem gives_readInput_unreadable {f : OpenFault} (h : d.readText path = .error (.notOpened f))
    (hf : f.reason ≠ .notAPath) :
    Gives (readInput path) ⟨c, d, out, threshold⟩ (.error (.status 1)) ⟨c, d, out, threshold⟩ := by
  refine gives_get fun s hs ↦ ?_
  obtain ⟨-, rfl, -, -⟩ := Essence.mk.inj hs
  rw [h]
  dsimp only
  rw [if_neg hf]
  exact gives_giveUp _ _

/-- Bytes that are no text, and a path that can name nothing, stop the run. -/
theorem breaks_readInput {e : ReadFault} (h : d.readText path = .error e)
    (he : ∀ f, e = .notOpened f → f.reason = .notAPath) :
    Breaks (readInput path) ⟨c, d, out, threshold⟩ := by
  refine breaks_get fun s hs ↦ ?_
  obtain ⟨-, rfl, -, -⟩ := Essence.mk.inj hs
  rw [h]
  cases e with
  | notDecoded f => exact breaks_throw nofun
  | notOpened f =>
    dsimp only
    rw [if_pos (he f rfl)]
    exact breaks_throw nofun

theorem gives_loadInput {fs? : Option (List Function)} (h : IsLoaded c d path fs?) :
    Gives (loadInput path) ⟨c, d, out, threshold⟩ (ofLoaded fs?) ⟨c, d, out, threshold⟩ := by
  refine gives_get fun s hs ↦ ?_
  obtain ⟨rfl, rfl, rfl, rfl⟩ := Essence.mk.inj hs
  cases h with
  | functions hsettings htext hload =>
    refine (gives_take_ok hsettings _).bind ((gives_readInput htext).bind ?_)
    refine (gives_records _ _).bind ?_
    rw [hload]
    exact gives_pure _ _
  | unreadable hsettings htext hf =>
    exact (gives_take_ok hsettings _).bind (gives_readInput_unreadable htext hf).bind_error
  | malformed hsettings htext hload =>
    refine (gives_take_ok hsettings _).bind ((gives_readInput htext).bind ?_)
    refine (gives_records _ _).bind ?_
    rw [hload]
    exact gives_giveUp _ _

theorem breaks_loadInput (h : ∀ fs?, ¬IsLoaded c d path fs?) :
    Breaks (loadInput path) ⟨c, d, out, threshold⟩ := by
  refine breaks_get fun s hs ↦ ?_
  obtain ⟨rfl, rfl, rfl, rfl⟩ := Essence.mk.inj hs
  cases hsettings : s.configuration.loadSettings.outcome with
  | error e =>
    refine (breaks_take ofConfigurationFault_ne_status fun a ha ↦ ?_).bind
    cases hsettings.symm.trans ha
  | ok settings =>
    refine (gives_take_ok hsettings _).bind_breaks ?_
    cases htext : s.files.readText path with
    | error e =>
      refine (breaks_readInput htext fun f hf ↦ ?_).bind
      exact Decidable.byContradiction fun hreason ↦
        h _ (.unreadable hsettings (hf ▸ htext) hreason)
    | ok text =>
      refine (gives_readInput htext).bind_breaks ((gives_records _ _).bind_breaks ?_)
      cases hload : (load settings text).outcome with
      | ok fs => exact absurd (.functions hsettings htext hload) (h _)
      | error e =>
        cases e with
        | format e => exact absurd (.malformed hsettings htext hload) (h _)
        | _ => exact breaks_throw nofun

/-! ### The output -/

/-- Where a run writes: where the command line says. It writes nowhere if no file can be made
there. -/
inductive OpensAt (d : Directory) (o : Options) : Option Sink → Prop
  | standard : o.output.bind Given.path? = none → OpensAt d o (some .standard)
  | file {path : String} {place : Place} : o.output.bind Given.path? = some path →
      d.placeToWrite path = .ok place → OpensAt d o (some (.file place))
  | unwritable {path : String} {f : OpenFault} : o.output.bind Given.path? = some path →
      d.placeToWrite path = .error f → f.reason ≠ .notAPath → OpensAt d o none

/-- How opening the output ends. -/
def ofOpened : Option Sink → Except Stop Sink
  | some sink => .ok sink
  | none => .error (.status 1)

/-- The files when the output has been opened: a file is empty then. -/
def opened (d : Directory) : Option Sink → Directory
  | some (.file place) => d.put place ByteArray.empty
  | _ => d

variable {o : Options}

theorem gives_openSink {sink? : Option Sink} (h : OpensAt d o sink?) :
    Gives (openSink (o.output.bind Given.path?)) ⟨c, d, out, threshold⟩ (ofOpened sink?)
      ⟨c, opened d sink?, out, threshold⟩ := by
  cases h with
  | standard hnone =>
    rw [hnone]
    exact gives_pure _ _
  | @file path place hpath hplace =>
    rw [hpath]
    refine gives_get fun s hs ↦ ?_
    obtain ⟨rfl, rfl, rfl, rfl⟩ := Essence.mk.inj hs
    rw [hplace]
    refine (gives_modify fun s' hs' ↦ ?_).bind (gives_pure _ _)
    obtain ⟨hconfiguration, hfiles, hstdout, hthreshold⟩ := Essence.mk.inj hs'
    show Essence.mk s'.configuration (s'.files.put place ByteArray.empty) s'.stdout
      s'.threshold = _
    rw [hconfiguration, hfiles, hstdout, hthreshold]
    rfl
  | unwritable hpath hplace hf =>
    rw [hpath]
    refine gives_get fun s hs ↦ ?_
    obtain ⟨rfl, rfl, rfl, rfl⟩ := Essence.mk.inj hs
    rw [hplace]
    dsimp only
    rw [if_neg hf]
    exact gives_giveUp _ _

theorem breaks_openSink (h : ∀ sink?, ¬OpensAt d o sink?) :
    Breaks (openSink (o.output.bind Given.path?)) ⟨c, d, out, threshold⟩ := by
  cases hpath : o.output.bind Given.path? with
  | none => exact absurd (.standard hpath) (h _)
  | some path =>
    refine breaks_get fun s hs ↦ ?_
    obtain ⟨-, rfl, -, -⟩ := Essence.mk.inj hs
    cases hplace : s.files.placeToWrite path with
    | ok place => exact absurd (.file hpath hplace) (h _)
    | error f =>
      have hf : f.reason = .notAPath := Decidable.byContradiction fun hreason ↦
        h _ (.unwritable hpath hplace hreason)
      dsimp only
      rw [if_pos hf]
      exact breaks_throw nofun

end Run

end StructuredIL
