import Mathlib.Data.List.DropRight
import StructuredIL.Configuration

/-!
# Which value a key has

The configuration goes through a history of operations: it is reset, files are loaded into it,
values are set, command lines are taken into account. After any history the value of a key is told
by the operations since the last reset (`get_run`): it is what the last option for the key on a
command line has given it; if there is none, what was last written to it, by `set` or by a file that
could be used; and if there is nothing of that either, its built-in value.

Both layers are lists of named values with one operation, writing a value over another. What a name
has after some writes is the last of them (`Value.member?_foldl_setMember`), so a layer is told by
the writes that have come to it, and a history by the writes of its operations. A file that cannot
be used writes nothing, and neither does a command line that is not understood.

Of a command line the options are read one after the other into a record, in which a later option
takes the place of an earlier one of its kind. `Word.options` lists them as they stand there, and
the record is shown to say the same as the list (`asks_foldl_record`).
-/

namespace StructuredIL

/-! ### Writes -/

/-- What the last of some writes to a name has written. -/
def lastWrite (key : Text) (writes : List (Text × Value)) : Option Value :=
  Value.member? writes.reverse key

theorem lastWrite_append (key : Text) (earlier later : List (Text × Value)) :
    lastWrite key (earlier ++ later) = (lastWrite key later).or (lastWrite key earlier) := by
  rw [lastWrite, lastWrite, lastWrite, List.reverse_append, Value.member?, Value.member?,
    Value.member?, List.find?_append]
  cases later.reverse.find? fun m ↦ m.1 == key <;> rfl

theorem lastWrite_singleton (key k : Text) (v : Value) :
    lastWrite key [(k, v)] = if k = key then some v else none := by
  by_cases h : k = key
  · simp [lastWrite, Value.member?, h]
  · simp [lastWrite, Value.member?, h]

theorem Value.member?_setMember (key k : Text) (v : Value) (members : List (Text × Value)) :
    member? (setMember k v members) key = if k = key then some v else member? members key := by
  by_cases h : k = key
  · rw [if_pos h, h, member?_setMember_self]
  · rw [if_neg h, member?_setMember_of_ne (Ne.symm h)]

/-- **What a name has after some writes** is what the last write to it has written. -/
theorem Value.member?_foldl_setMember (key : Text) (writes members : List (Text × Value)) :
    member? (writes.foldl (fun ms m ↦ setMember m.1 m.2 ms) members) key =
      (lastWrite key writes).or (member? members key) := by
  induction writes using List.reverseRecOn with
  | nil => rfl
  | append_singleton writes m ih =>
    obtain ⟨k, v⟩ := m
    rw [List.foldl_append, List.foldl_cons, List.foldl_nil, member?_setMember, ih, lastWrite_append,
      lastWrite_singleton]
    split
    · rfl
    · rfl

/-! ### Options -/

/-- The options among some words, in order, each with what it is given. -/
def Word.options : List Word → List (OptionKey × Given)
  | [] => []
  | .known form _ none :: rest =>
    if form.takesValue then
      match rest with
      | .plain word :: rest => (form.key, .ofWord word) :: options rest
      | rest => options rest
    else (form.key, .nothing) :: options rest
  | .known form _ (some attached) :: rest =>
    (form.key, if form.takesValue then .ofWord (String.ofList attached) else .nothing) ::
      options rest
  | _ :: rest => options rest

namespace Options

/-- What the options say after one more. -/
def record (o : Options) (occurrence : OptionKey × Given) : Options :=
  match occurrence.1 with
  | .help => o
  | .config => { o with config := some occurrence.2 }
  | .method => { o with method := some occurrence.2 }
  | .strict => { o with strict := true }
  | .keepNops => { o with keepNops := true }
  | .logLevel => { o with logLevel := some occurrence.2 }
  | .output => { o with output := some occurrence.2 }
  | .dumpTree => { o with dumpTree := true }

theorem eq_record_of_take {o o' : Options} {form : OptionForm} {given : Given}
    (h : o.take form given = .ok o') : o' = o.record (form.key, given) := by
  rw [take] at h
  split at h
  · rw [record]
    cases hkey : form.key <;> rw [hkey] at h <;> cases h <;> rfl
  · cases h

end Options

namespace Grammar

theorem options_of_take_bind {o : Options} {form : OptionForm} {given : Given}
    {next : Options → Except Exit Reading} {r : Reading} {later : List (OptionKey × Given)}
    (h : (o.take form given >>= next) = .ok r)
    (hnext : ∀ o, next o = .ok r → r.options = later.foldl Options.record o) :
    r.options = ((form.key, given) :: later).foldl Options.record o := by
  cases htake : o.take form given with
  | error e =>
    rw [htake] at h
    cases h
  | ok o' =>
    rw [htake] at h
    rw [List.foldl_cons, ← Options.eq_record_of_take htake]
    exact hnext o' h

/-- A grammar that expects no input reads the options as they stand. -/
theorem options_of_readWords {g : Grammar} (hinput : g.takesInput = false) {r r' : Reading}
    {words : List Word} (h : g.readWords r words = .ok r') :
    r'.options = (Word.options words).foldl Options.record r.options := by
  fun_induction readWords g r words
  case case1 =>
    cases h
    rfl
  -- Words that are no options are passed over, since no input is expected.
  case case2 ih | case5 ih | case7 ih | case8 ih => exact ih h
  case case3 htakes _ _ _ | case4 htakes _ _ _ _ | case6 htakes _ => simp [hinput] at htakes
  case case9 htakes _ _ ih =>
    rw [Word.options, if_pos htakes]
    exact options_of_take_bind h ih
  case case11 htakes ih =>
    rw [Word.options.eq_def]
    dsimp only
    rw [if_neg htakes]
    exact options_of_take_bind h ih
  case case12 htakes ih =>
    rw [Word.options, if_pos htakes]
    exact options_of_take_bind h ih
  case case13 htakes _ ih =>
    rw [Word.options, if_neg htakes]
    exact options_of_take_bind h ih
  case case10 | case14 => cases h

/-- The options that a command line gives, in order; none, if it is not understood. -/
def given (g : Grammar) (args : List String) : List (OptionKey × Given) :=
  match g.readKnown args, g.classify args with
  | .ok _, .ok words => Word.options words
  | _, _ => []

theorem options_of_readKnown {g : Grammar} (hinput : g.takesInput = false) {r : Reading}
    {args : List String} (h : g.readKnown args = .ok r) :
    r.options = (g.given args).foldl Options.record .none := by
  rw [given, h]
  rw [readKnown] at h
  cases hwords : g.classify args with
  | error e =>
    rw [hwords] at h
    cases h
  | ok words =>
    rw [hwords] at h
    exact options_of_readWords hinput h

theorem given_of_readKnown_error {g : Grammar} {args : List String} {e : Exit}
    (h : g.readKnown args = .error e) : g.given args = [] := by
  rw [given, h]

end Grammar

namespace Configuration

/-! ### What options ask for -/

/-- What an option asks the configuration for, if anything. -/
def request? (occurrence : OptionKey × Given) : Option (Text × Value) :=
  match occurrence.1 with
  | .method => some ("method_filter", valueOf occurrence.2)
  | .strict => some ("strict", .bool true)
  | .keepNops => some ("remove_dead_code", .bool false)
  | .logLevel => some ("log_level", valueOf occurrence.2)
  | _ => none

/-- What the options ask for under a key. -/
def asks (o : Options) (key : Text) : Option Value :=
  if key = "method_filter" then o.method.map valueOf
  else if key = "strict" then if o.strict then some (.bool true) else none
  else if key = "remove_dead_code" then if o.keepNops then some (.bool false) else none
  else if key = "log_level" then o.logLevel.map valueOf
  else none

/-- The four keys are different. -/
theorem keys_nodup :
    ([("method_filter" : Text), "strict", "remove_dead_code", "log_level"] : List Text).Nodup := by
  decide

theorem asks_record (o : Options) (occurrence : OptionKey × Given) (key : Text) :
    asks (o.record occurrence) key =
      (lastWrite key (request? occurrence).toList).or (asks o key) := by
  have hkeys := keys_nodup
  obtain ⟨k, given⟩ := occurrence
  cases k with
  | method | strict | keepNops | logLevel =>
    simp only [Options.record, request?, asks, Option.toList, lastWrite_singleton]
    grind
  | _ => rfl

theorem member?_overrideBy (o : Options) (c : Configuration) (key : Text) :
    Value.member? (c.overrideBy o).overrides key =
      (asks o key).or (Value.member? c.overrides key) := by
  have hkeys := keys_nodup
  have hset (c : Configuration) (k : Text) (v : Value) :
      Value.member? (c.override k v).overrides key =
        if k = key then some v else Value.member? c.overrides key :=
    Value.member?_setMember key k v c.overrides
  obtain ⟨config, method, strict, keepNops, logLevel, output, dumpTree, input⟩ := o
  rw [asks, overrideBy]
  cases method <;> cases strict <;> cases keepNops <;> cases logLevel <;>
    grind

theorem values_overrideBy (o : Options) (c : Configuration) :
    (c.overrideBy o).values = c.values := by
  obtain ⟨config, method, strict, keepNops, logLevel, output, dumpTree, input⟩ := o
  cases method <;> cases strict <;> cases keepNops <;> cases logLevel <;> rfl

/-- **What a command line asks for** under a key is what the last option for it asks for. -/
theorem asks_foldl_record (occurrences : List (OptionKey × Given)) (key : Text) :
    asks (occurrences.foldl Options.record .none) key =
      lastWrite key (occurrences.filterMap request?) := by
  induction occurrences using List.reverseRecOn with
  | nil => simp [asks, Options.none, lastWrite, Value.member?]
  | append_singleton occurrences occurrence ih =>
    rw [List.foldl_append, List.foldl_cons, List.foldl_nil, asks_record, ih, List.filterMap_append,
      lastWrite_append]
    cases h : request? occurrence <;> simp [h]

/-- The file that a command line names: that of its last option for it, unless it is no path. -/
def configPath? (occurrences : List (OptionKey × Given)) : Option String :=
  (occurrences.filter fun o ↦ o.1 = .config).getLast?.bind fun o ↦ o.2.path?

theorem config_foldl_record (occurrences : List (OptionKey × Given)) :
    (occurrences.foldl Options.record .none).config.bind Given.path? =
      configPath? occurrences := by
  suffices (occurrences.foldl Options.record .none).config =
      (occurrences.filter fun o ↦ o.1 = .config).getLast?.map Prod.snd by
    rw [this, configPath?, Option.bind_map]
    rfl
  induction occurrences using List.reverseRecOn with
  | nil => rfl
  | append_singleton occurrences occurrence ih =>
    obtain ⟨k, given⟩ := occurrence
    rw [List.foldl_append, List.foldl_cons, List.foldl_nil, List.filter_append]
    cases k with
    | config => simp [Options.record]
    | _ => simpa [Options.record] using ih

/-! ### Files -/

/-- It can be found out whether the file is there that a command line names. -/
def FindsFile (d : Directory) (args : List String) : Prop :=
  ∀ path, configPath? (Grammar.ofConfiguration.given args) = some path →
    ∃ isThere, d.pathExists (normalizePath path) = .ok isThere

/-- Nothing else is in the way of a command line. -/
theorem obstacle?_eq_none_iff (d : Directory) (args : List String) :
    obstacle? d args = none ↔ FindsFile d args := by
  rw [obstacle?, FindsFile]
  cases hread : Grammar.ofConfiguration.readKnown args with
  | error e =>
    rw [Grammar.given_of_readKnown_error hread]
    exact ⟨fun _ ↦ nofun, fun _ ↦ rfl⟩
  | ok r =>
    dsimp only
    rw [Grammar.options_of_readKnown rfl hread, config_foldl_record]
    cases configPath? (Grammar.ofConfiguration.given args) with
    | none => exact ⟨fun _ ↦ nofun, fun _ ↦ rfl⟩
    | some path =>
      dsimp only
      cases hfound : d.pathExists (normalizePath path) with
      | error f =>
        refine ⟨nofun, fun h ↦ ?_⟩
        obtain ⟨isThere, hthere⟩ := h path rfl
        cases hfound.symm.trans hthere
      | ok isThere =>
        refine ⟨fun _ other hother ↦ ?_, fun _ ↦ rfl⟩
        obtain rfl := Option.some.inj hother
        exact ⟨isThere, hfound⟩

/-- The members of the object that a file holds. There are none if nothing is there or that cannot
be found out, or it cannot be read, or it is not a document, or the document is not an object. -/
def membersOf? (d : Directory) (path : String) : Option (List (Text × Value)) :=
  if (d.pathExists (normalizePath path)).toOption = some true then
    match (d.readText (normalizePath path)).toOption.bind Document.readDocument? with
    | some (.object members) => some members
    | _ => none
  else none

theorem update_nil (c : Configuration) : c.update [] = c := rfl

theorem loadFile_eq (d : Directory) (path : String) (c : Configuration) :
    (c.loadFile d path).1 = c.update ((membersOf? d path).getD []) ∧
      (c.loadFile d path).2.1 = (membersOf? d path).isSome := by
  rw [loadFile, loadFile?, membersOf?]
  generalize normalizePath path = shown
  generalize d.pathExists shown = found
  match found with
  | .error _ | .ok false => exact ⟨rfl, rfl⟩
  | .ok true =>
    show (c.useFile d shown).1 = _ ∧ (c.useFile d shown).2.1 = _
    rw [useFile]
    cases d.readText shown with
    | error f => exact ⟨rfl, rfl⟩
    | ok text =>
      dsimp only [Except.toOption, Option.bind_some]
      cases Document.readDocument? text with
      | none => exact ⟨rfl, rfl⟩
      | some v => cases v <;> exact ⟨rfl, rfl⟩

/-! ### Operations -/

/-- What can be done to the configuration. Files are read from the directory as it is then. -/
inductive Operation where
  /-- Forgets everything. -/
  | reset
  /-- Loads a file. -/
  | loadFile (d : Directory) (path : String)
  /-- Loads the file that comes with the program. -/
  | loadPackaged
  /-- Writes a value. -/
  | set (key : Text) (v : Value)
  /-- Takes a command line into account. -/
  | applyArgs (d : Directory) (args : List String)
  /-- Prepares for a run. -/
  | prepare (d : Directory) (args? : Option (List String))

namespace Operation

/-- The configuration after an operation. -/
def apply (c : Configuration) : Operation → Configuration
  | reset => c.reset
  | loadFile d path => (c.loadFile d path).1
  | loadPackaged => c.loadPackaged
  | set key v => c.set key v
  | applyArgs d args => (c.applyArgs d args).1
  | prepare d args? => (c.prepare d args?).1

/-- Whether an operation forgets everything. -/
def isReset : Operation → Bool
  | reset => true
  | _ => false

/-- Whether an operation loads a file or writes a value. -/
def isWrite : Operation → Bool
  | loadFile .. | loadPackaged | set .. => true
  | _ => false

/-- What a command line writes: what is in the file that it names. -/
def writtenByArgs (d : Directory) (args : List String) : List (Text × Value) :=
  ((configPath? (Grammar.ofConfiguration.given args)).bind (membersOf? d)).getD []

/-- What a command line asks for, option by option, if nothing is in the way of the file that it
names. -/
def askedByArgs (d : Directory) (args : List String) : List (Text × Value) :=
  match obstacle? d args with
  | none => (Grammar.ofConfiguration.given args).filterMap request?
  | some _ => []

/-- What an operation writes, by itself or from a file that can be used. -/
def written : Operation → List (Text × Value)
  | reset => []
  | loadFile d path => (membersOf? d path).getD []
  | loadPackaged => packaged
  | set key v => [(key, v)]
  | applyArgs d args => writtenByArgs d args
  | prepare d args? => packaged ++ (args?.map (writtenByArgs d)).getD []

/-- What an operation asks for on a command line. -/
def asked : Operation → List (Text × Value)
  | applyArgs d args => askedByArgs d args
  | prepare d args? => (args?.map (askedByArgs d)).getD []
  | _ => []

theorem asked_of_isWrite {o : Operation} (h : o.isWrite = true) : o.asked = [] := by
  cases o with
  | applyArgs | prepare => cases h
  | _ => rfl

end Operation

/-- The configuration after a history of operations. -/
def run (operations : List Operation) : Configuration := operations.foldl Operation.apply initial

/-- The operations since the last reset. -/
def sinceReset (operations : List Operation) : List Operation :=
  operations.rtakeWhile fun o ↦ !o.isReset

/-! ### What the layers hold -/

/-- What a configuration holds is told by what has been written and what has been asked for. -/
structure Holds (c : Configuration) (writes asks : List (Text × Value)) : Prop where
  /-- The lower layer has the last write to a name, or its built-in value. -/
  values (key : Text) :
    Value.member? c.values key = (lastWrite key writes).or (Value.member? builtIn key)
  /-- The upper layer has what was last asked for. -/
  overrides (key : Text) : Value.member? c.overrides key = lastWrite key asks

theorem holds_initial : Holds initial [] [] where
  values _ := rfl
  overrides _ := rfl

namespace Holds

variable {c : Configuration} {writes asked : List (Text × Value)}

theorem get?_eq (h : Holds c writes asked) (key : Text) :
    c.get? key =
      ((lastWrite key asked).or (lastWrite key writes)).or (Value.member? builtIn key) := by
  rw [get?, h.overrides, h.values]
  cases lastWrite key asked <;> rfl

theorem update (h : Holds c writes asked) (members : List (Text × Value)) :
    Holds (c.update members) (writes ++ members) asked where
  values key := by
    rw [Configuration.update, Value.member?_foldl_setMember, h.values, lastWrite_append,
      Option.or_assoc]
  overrides := h.overrides

theorem set (h : Holds c writes asked) (key : Text) (v : Value) :
    Holds (c.set key v) (writes ++ [(key, v)]) asked :=
  h.update [(key, v)]

theorem loadFile (h : Holds c writes asked) (d : Directory) (path : String) :
    Holds (c.loadFile d path).1 (writes ++ (membersOf? d path).getD []) asked := by
  rw [(loadFile_eq d path c).1]
  exact h.update _

theorem overrideBy (h : Holds c writes asked) (occurrences : List (OptionKey × Given)) :
    Holds (c.overrideBy (occurrences.foldl Options.record .none)) writes
      (asked ++ occurrences.filterMap request?) where
  values key := by
    rw [values_overrideBy]
    exact h.values key
  overrides key := by
    rw [member?_overrideBy, asks_foldl_record, h.overrides, lastWrite_append]

/-- A command line writes first and asks afterwards. One that is not understood, or names a file
that something is in the way of, does neither. -/
theorem applyArgs (h : Holds c writes asked) (d : Directory) (args : List String) :
    Holds (c.applyArgs d args).1 (writes ++ Operation.writtenByArgs d args)
      (asked ++ Operation.askedByArgs d args) := by
  rw [Configuration.applyArgs, Operation.writtenByArgs, Operation.askedByArgs, obstacle?]
  cases hread : Grammar.ofConfiguration.readKnown args with
  | error e =>
    rw [Grammar.given_of_readKnown_error hread]
    simpa [configPath?] using h
  | ok r =>
    have hoptions := Grammar.options_of_readKnown rfl hread
    have hpath := config_foldl_record (Grammar.ofConfiguration.given args)
    rw [← hoptions] at hpath
    dsimp only
    rw [hpath]
    cases configPath? (Grammar.ofConfiguration.given args) with
    | none =>
      rw [hoptions]
      simpa using h.overrideBy (Grammar.ofConfiguration.given args)
    | some path =>
      rw [hoptions, Option.bind_some]
      have hload := h.loadFile d path
      rw [Configuration.loadFile, loadFile?] at hload
      dsimp only at hload ⊢
      rw [loadFile?]
      generalize d.pathExists (normalizePath path) = found at hload ⊢
      cases found with
      | error f =>
        show Holds c _ (asked ++ [])
        rw [List.append_nil]
        exact hload
      | ok isThere => exact hload.overrideBy _

/-- **Every operation but a reset** adds its writes and what it asks for to those before. -/
theorem apply (h : Holds c writes asked) {o : Operation} (ho : o.isReset = false) :
    Holds (o.apply c) (writes ++ o.written) (asked ++ o.asked) := by
  cases o with
  | reset => cases ho
  | loadFile d path =>
    rw [Operation.asked_of_isWrite rfl, List.append_nil]
    exact h.loadFile d path
  | loadPackaged =>
    rw [Operation.asked_of_isWrite rfl, List.append_nil]
    exact h.update packaged
  | set key v =>
    rw [Operation.asked_of_isWrite rfl, List.append_nil]
    exact h.set key v
  | applyArgs d args => exact h.applyArgs d args
  | prepare d args? =>
    cases args? with
    | none =>
      show Holds _ (writes ++ (packaged ++ [])) (asked ++ [])
      rw [List.append_nil, List.append_nil]
      exact h.update packaged
    | some args =>
      rw [Operation.written, ← List.append_assoc]
      exact (h.update packaged).applyArgs d args

end Holds

/-- **What a history leaves** is told by the operations since the last reset. -/
theorem holds_run (operations : List Operation) :
    Holds (run operations) ((sinceReset operations).flatMap Operation.written)
      ((sinceReset operations).flatMap Operation.asked) := by
  induction operations using List.reverseRecOn with
  | nil => exact holds_initial
  | append_singleton operations o ih =>
    rw [run, List.foldl_append, List.foldl_cons, List.foldl_nil, sinceReset]
    cases ho : o.isReset with
    | true =>
      rw [List.rtakeWhile_concat_neg _ _ _ (by simp [ho])]
      cases o with
      | reset => exact holds_initial
      | _ => cases ho
    | false =>
      rw [List.rtakeWhile_concat_pos _ _ _ (by simp [ho]), List.flatMap_append,
        List.flatMap_append, List.flatMap_singleton, List.flatMap_singleton]
      exact ih.apply ho

/-! ### The value of a key -/

/-- What the command lines since the last reset ask for under a key. -/
def lastAsked (operations : List Operation) (key : Text) : Option Value :=
  lastWrite key ((sinceReset operations).flatMap Operation.asked)

/-- What was last written to a key since the last reset. -/
def lastWritten (operations : List Operation) (key : Text) : Option Value :=
  lastWrite key ((sinceReset operations).flatMap Operation.written)

theorem get?_run (operations : List Operation) (key : Text) :
    (run operations).get? key =
      ((lastAsked operations key).or (lastWritten operations key)).or
        (Value.member? builtIn key) :=
  (holds_run operations).get?_eq key

/-- Loading files and setting values leaves what command lines have asked for. -/
theorem lastAsked_append_of_isWrite (operations : List Operation) {later : List Operation}
    (hlater : ∀ o ∈ later, o.isWrite = true) (key : Text) :
    lastAsked (operations ++ later) key = lastAsked operations key := by
  have hreset : ∀ o ∈ later.reverse, (!o.isReset) = true := by
    intro o ho
    have := hlater o (List.mem_reverse.1 ho)
    cases o with
    | reset => cases this
    | _ => rfl
  have hasked : later.flatMap Operation.asked = [] := by
    rw [List.flatMap_eq_nil_iff]
    exact fun o ho ↦ Operation.asked_of_isWrite (hlater o ho)
  rw [lastAsked, lastAsked, sinceReset, sinceReset, List.rtakeWhile, List.reverse_append,
    List.takeWhile_append_of_pos hreset, List.reverse_append, List.reverse_reverse,
    List.flatMap_append, hasked, List.append_nil]
  rfl

/-- A load that fails leaves the configuration as it is. -/
theorem loadFile_of_fails {c : Configuration} {d : Directory} {path : String}
    (h : (c.loadFile d path).2.1 = false) : (c.loadFile d path).1 = c := by
  obtain ⟨hafter, husable⟩ := loadFile_eq d path c
  rw [h] at husable
  have hnone : membersOf? d path = none := by simpa using husable.symm
  rw [hafter, hnone]
  exact c.update_nil

/-- **The value of a key after any history** is what a command line has last asked for since the
last reset; else what has last been written since then, by `set` or from a file; else the built-in
value; else the one that the caller gives. A load fails exactly if the file cannot be used, and
then it changes no value; and what a command line has asked for stays, whatever files are loaded
and values set later. -/
theorem get_run (operations : List Operation) (key : Text) (default : Value) :
    (run operations).get key default =
        (((lastAsked operations key).or (lastWritten operations key)).or
          (Value.member? builtIn key)).getD default ∧
      (∀ d path, ((run operations).loadFile d path).2.1 = (membersOf? d path).isSome ∧
        (((run operations).loadFile d path).2.1 = false →
          (run (operations ++ [.loadFile d path])).get key default =
            (run operations).get key default)) ∧
      ∀ later v, (∀ o ∈ later, o.isWrite = true) → lastAsked operations key = some v →
        (run (operations ++ later)).get key default = v := by
  refine ⟨by rw [get, get?_run], fun d path ↦ ⟨(loadFile_eq d path _).2, fun hfails ↦ ?_⟩,
    fun later v hlater hv ↦ ?_⟩
  · rw [run, List.foldl_append]
    show (((run operations).loadFile d path).1).get key default = _
    rw [loadFile_of_fails hfails]
  · rw [get, get?_run, lastAsked_append_of_isWrite operations hlater, hv]
    rfl

namespace TwoFiles

/-- A file that can be used, and one that is no text. -/
def files : Directory :=
  ⟨[(["c"], .file "\x7bmethod_filter: 'B', strict: true\x7d".toUTF8), (["x"], .file ⟨#[0xff]⟩)]⟩

/-- A command line that names the one file and asks for functions twice. -/
def words : List String := ["--method=C", "--config", "c", "--method=A"]

/-- The command line, after something that a reset forgets. -/
def operations : List Operation := [.set "strict" .null, .reset, .prepare files (some words)]

theorem lastAsked_operations : lastAsked operations "method_filter" = some (.string "A") := by
  have hsince : sinceReset operations = [.prepare files (some words)] := by
    simp [sinceReset, operations, List.rtakeWhile, Operation.isReset]
  have hgiven : Grammar.ofConfiguration.given words =
      [(.method, .text "C"), (.config, .text "c"), (.method, .text "A")] := by
    decide +kernel
  have hfound : obstacle? files words = none := by
    decide +kernel
  rw [lastAsked, hsince, List.flatMap_singleton, Operation.asked, Option.map_some,
    Option.getD_some, Operation.askedByArgs, hfound]
  dsimp only
  rw [hgiven]
  simp [lastWrite, request?, valueOf, Value.member?, List.filterMap_cons]

/-- The file that is no text changes nothing, and what the other one and `set` say about functions
stays hidden. -/
theorem get_run_operations :
    ((run operations).loadFile files "x").2.1 = false ∧
      (run (operations ++ [.loadFile files "x"])).get "strict" .null =
        (run operations).get "strict" .null ∧
      (run (operations ++ [.loadFile files "c", .set "method_filter" .null])).get
        "method_filter" .null = .string "A" := by
  have hfails : ((run operations).loadFile files "x").2.1 = false := by
    rw [((get_run operations "strict" .null).2.1 files "x").1]
    decide +kernel
  refine ⟨hfails, ((get_run operations "strict" .null).2.1 files "x").2 hfails, ?_⟩
  exact (get_run operations "method_filter" .null).2.2 _ _ (by simp [Operation.isWrite])
    lastAsked_operations

end TwoFiles

end Configuration

end StructuredIL
