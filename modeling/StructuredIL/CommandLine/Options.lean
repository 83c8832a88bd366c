import StructuredIL.Text.Letter

/-!
# The words of a command line

A command line is a list of words, and a grammar says which of them are options and whether one word
is expected beside them. Two grammars read the same command line: that of the program, which knows
all options and one input, and that of the configuration, which knows only the options that concern
it and passes over everything else.

An option may be shortened to any part of its long name that no other option begins with. Its value
is the next word, or stands in the same word after an equals sign, or, for an option of one letter,
right after the letter. A word that begins with a dash is never a value by itself, except that a
negative number is an ordinary word where no option looks like one, and so is a word with a space in
it that begins like no option. After the word `--` all words are ordinary. That word itself is never
a value: an option that it is attached to is given nothing (`Given.ofWord`).

Words are told apart first (`Grammar.classify`), each by itself, and read in order afterwards
(`Grammar.readWords`).
-/

namespace StructuredIL

/-! ### Grammars -/

/-- What an option is about. -/
inductive OptionKey where
  /-- Asks for help. -/
  | help
  /-- A configuration file to load. -/
  | config
  /-- The functions that are wanted. -/
  | method
  /-- Strict mode. -/
  | strict
  /-- Empty instructions are kept. -/
  | keepNops
  /-- What is logged. -/
  | logLevel
  /-- The file to write to. -/
  | output
  /-- The tree is dumped instead of lowered. -/
  | dumpTree
  deriving DecidableEq, Repr

/-- An option as it is written. -/
structure OptionForm where
  /-- What it is about. -/
  key : OptionKey
  /-- Its names, with their dashes. -/
  names : List String
  /-- Whether it takes a value. -/
  takesValue : Bool
  /-- The values it may take, if not all. -/
  choices : Option (List String)
  deriving DecidableEq, Repr

/-- Which words a command line may have. -/
structure Grammar where
  /-- The options. -/
  forms : List OptionForm
  /-- Whether a word beside the options is expected. -/
  takesInput : Bool

/-- The options that concern the configuration. -/
def configurationForms : List OptionForm := [
  ⟨.config, ["--config"], true, none⟩,
  ⟨.method, ["--method"], true, none⟩,
  ⟨.strict, ["--strict"], false, none⟩,
  ⟨.keepNops, ["--keep-nops"], false, none⟩,
  ⟨.logLevel, ["--log-level"], true, some ["DEBUG", "INFO", "WARNING", "ERROR"]⟩]

/-- The grammar of the configuration. -/
def Grammar.ofConfiguration : Grammar := ⟨configurationForms, false⟩

/-- The grammar of the program. -/
def Grammar.ofProgram : Grammar :=
  ⟨⟨.help, ["-h", "--help"], false, none⟩ :: configurationForms ++ [
    ⟨.output, ["-o", "--output"], true, none⟩,
    ⟨.dumpTree, ["--dump-il"], false, none⟩], true⟩

/-- Why nothing is run. -/
inductive Exit where
  /-- Help was asked for. -/
  | help
  /-- The command line does not follow the grammar. -/
  | usage
  deriving DecidableEq, Repr

/-- The code of an exit. -/
def Exit.code : Exit → Nat
  | .help => 0
  | .usage => 2

/-! ### Telling words apart -/

/-- What a word is. -/
inductive Word where
  /-- The word after which all words are ordinary. -/
  | separator
  /-- An ordinary word. -/
  | plain (text : String)
  /-- An option under one of its names, with what follows the name in the same word. An equals sign
  between them belongs to neither. -/
  | known (form : OptionForm) (name : String) (attached : Option (List Char))
  /-- A word that looks like an option and is none. -/
  | unknown (text : String)
  deriving DecidableEq, Repr

namespace Grammar

/-- All options under all their names. -/
def named (g : Grammar) : List (OptionForm × String) :=
  g.forms.flatMap fun f ↦ f.names.map fun n ↦ (f, n)

/-- The option of a name. -/
def form? (g : Grammar) (name : List Char) : Option (OptionForm × String) :=
  g.named.find? fun fn ↦ fn.2.toList == name

/-- Whether some digits, at least one, are all that there is; a line end may follow. -/
def areDigits (cs : List Char) : Bool :=
  let body := if cs.getLast? == some '\n' then cs.dropLast else cs
  !body.isEmpty && body.all Text.isDecimalDigit

/-- Whether a word is a negative number: digits, or digits after a point and perhaps before it. -/
def isNegativeNumber : List Char → Bool
  | '-' :: rest =>
    areDigits rest ||
      match rest.dropWhile Text.isDecimalDigit with
      | '.' :: fraction => areDigits fraction
      | _ => false
  | _ => false

/-- The options that a word may be short for. A word with two dashes is compared up to its equals
sign; in a word with one dash the first letter may be an option and the rest its value. -/
def candidates (g : Grammar) (cs : List Char) : List Word :=
  let name := cs.takeWhile fun c ↦ c != '='
  let after := cs.dropWhile fun c ↦ c != '='
  match cs with
  | '-' :: '-' :: _ =>
    let attached := if after.isEmpty then none else some after.tail
    (g.named.filter fun fn ↦ name.isPrefixOf fn.2.toList).map fun fn ↦
      .known fn.1 fn.2 attached
  | _ =>
    g.named.filterMap fun fn ↦
      if fn.2.toList == cs.take 2 then some (.known fn.1 fn.2 (some (cs.drop 2)))
      else if cs.isPrefixOf fn.2.toList then some (.known fn.1 fn.2 none)
      else none

/-- What a word that begins with a dash is, if it is no option by its whole name. -/
def classifyShortened (g : Grammar) (text : String) : Except Exit Word :=
  let cs := text.toList
  match g.candidates cs with
  | [word] => .ok word
  | _ :: _ :: _ => .error .usage
  | [] =>
    if isNegativeNumber cs || cs.contains ' ' then .ok (.plain text) else .ok (.unknown text)

/-- What a word before the separator is. -/
def classifyWord (g : Grammar) (text : String) : Except Exit Word :=
  let cs := text.toList
  if cs.head? != some '-' then .ok (.plain text)
  else
    match g.form? cs with
    | some (form, name) => .ok (.known form name none)
    | none =>
      if cs == ['-'] then .ok (.plain text)
      else
        let name := cs.takeWhile fun c ↦ c != '='
        match cs.dropWhile fun c ↦ c != '=' with
        | _ :: after =>
          match g.form? name with
          | some (form, name) => .ok (.known form name (some after))
          | none => g.classifyShortened text
        | [] => g.classifyShortened text

/-- What the words of a command line are. -/
def classify (g : Grammar) : List String → Except Exit (List Word)
  | [] => .ok []
  | text :: rest =>
    if text == "--" then .ok (.separator :: rest.map Word.plain)
    else do
      let word ← g.classifyWord text
      let words ← g.classify rest
      return word :: words

end Grammar

/-! ### Values of options -/

/-- What an option is given. -/
inductive Given where
  /-- A text. -/
  | text (s : String)
  /-- Nothing. -/
  | nothing
  deriving DecidableEq, Repr

namespace Given

/-- What an option is given by a word. The separator is no value and gives it nothing. -/
def ofWord (word : String) : Given := if word == "--" then .nothing else .text word

/-- The path that is given; neither nothing nor the empty text is one. -/
def path? : Given → Option String
  | text s => if s == "" then none else some s
  | nothing => none

@[simp] theorem path?_nothing : path? nothing = none := rfl

theorem ofWord_of_ne {word : String} (h : word ≠ "--") : ofWord word = text word := by
  simp [ofWord, h]

end Given

/-- Whether an option may be given this. The choices bound the texts that it may be given, and
nothing is not a text. -/
def OptionForm.admits (form : OptionForm) : Given → Bool
  | .text s => form.choices.all fun choices ↦ choices.contains s
  | .nothing => true

/-! ### Reading words -/

/-- What a command line says. -/
structure Options where
  /-- The configuration file to load. -/
  config : Option Given
  /-- The functions that are wanted. -/
  method : Option Given
  /-- Whether strict mode is asked for. -/
  strict : Bool
  /-- Whether empty instructions are kept. -/
  keepNops : Bool
  /-- What is logged. -/
  logLevel : Option Given
  /-- The file to write to. -/
  output : Option Given
  /-- Whether the tree is dumped. -/
  dumpTree : Bool
  /-- The word beside the options. -/
  input : Option String
  deriving DecidableEq, Repr, Inhabited

namespace Options

/-- A command line that says nothing. -/
def none : Options :=
  ⟨.none, .none, false, false, .none, .none, false, .none⟩

/-- What the options say after one more option, which is given its value, or nothing if it takes
none. What the option may not be given is refused. -/
def take (o : Options) (form : OptionForm) (given : Given) : Except Exit Options :=
  if form.admits given then
    match form.key with
    | .help => .error .help
    | .config => .ok { o with config := some given }
    | .method => .ok { o with method := some given }
    | .strict => .ok { o with strict := true }
    | .keepNops => .ok { o with keepNops := true }
    | .logLevel => .ok { o with logLevel := some given }
    | .output => .ok { o with output := some given }
    | .dumpTree => .ok { o with dumpTree := true }
  else .error .usage

end Options

/-- How far a command line has been read. -/
structure Reading where
  /-- What it has said so far. -/
  options : Options
  /-- The words that nothing has been done with. -/
  extras : List String
  deriving DecidableEq, Repr

namespace Grammar

/-- Whether the letters after an option of one letter that takes no value are options too. The first
of them that takes a value ends them: what follows it is its value, or the next word if nothing
does. -/
def isBundle (g : Grammar) (hasNext : Bool) : List Char → Bool
  | [] => false
  | c :: rest =>
    match g.form? ['-', c] with
    | none => false
    | some (form, _) =>
      if form.takesValue then !rest.isEmpty || hasNext else rest.isEmpty || g.isBundle hasNext rest

/-- Whether a name has one dash. -/
def isShort (name : String) : Bool := (name.toList.drop 1).head? != some '-'

/-- Reads words in order. An ordinary word is the input, if one is expected and none has been met;
the separator is dropped next to the input and is one of the extras elsewhere. The one option of one
letter that takes no value asks for help, which ends the reading, so a bundle is not read beyond its
first letter. -/
def readWords (g : Grammar) (r : Reading) : List Word → Except Exit Reading
  | [] => .ok r
  | .unknown text :: rest => g.readWords { r with extras := r.extras ++ [text] } rest
  | .plain text :: rest =>
    if g.takesInput && r.options.input.isNone then
      let r := { r with options := { r.options with input := some text } }
      match rest with
      | .separator :: rest => g.readWords r rest
      | rest => g.readWords r rest
    else g.readWords { r with extras := r.extras ++ [text] } rest
  | .separator :: rest =>
    match rest with
    | .plain text :: rest =>
      if g.takesInput && r.options.input.isNone then
        g.readWords { r with options := { r.options with input := some text } } rest
      else g.readWords { r with extras := r.extras ++ ["--", text] } rest
    | rest => g.readWords { r with extras := r.extras ++ ["--"] } rest
  | .known form _ none :: rest =>
    if form.takesValue then
      match rest with
      | .plain word :: rest => do
        let options ← r.options.take form (.ofWord word)
        g.readWords { r with options } rest
      | _ => .error .usage
    else do
      let options ← r.options.take form .nothing
      g.readWords { r with options } rest
  | .known form name (some attached) :: rest =>
    let hasNext :=
      match rest with
      | .plain _ :: _ => true
      | _ => false
    if form.takesValue then do
      let options ← r.options.take form (.ofWord (String.ofList attached))
      g.readWords { r with options } rest
    else if isShort name && g.isBundle hasNext attached then do
      let options ← r.options.take form .nothing
      g.readWords { r with options } rest
    else .error .usage

/-- Reads a command line, with the words that nothing has been done with. -/
def readKnown (g : Grammar) (args : List String) : Except Exit Reading := do
  let words ← g.classify args
  g.readWords ⟨.none, []⟩ words

/-- Reads a command line that has the expected word and no words too many. -/
def readAll (g : Grammar) (args : List String) : Except Exit Options := do
  let r ← g.readKnown args
  if r.extras.isEmpty && (r.options.input.isSome || !g.takesInput) then return r.options
  else .error .usage

end Grammar

end StructuredIL
