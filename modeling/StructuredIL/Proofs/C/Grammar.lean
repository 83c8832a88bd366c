import StructuredIL.Proofs.C.Precedence

/-!
# Reading a program

A program is read from its tokens by descent, with the next token deciding what comes. An `else`
belongs to the nearest `if`. The bound for the descent is the number of tokens; nothing that is
nested is nested deeper than that.

A text that is read is a program that may be run: the headers are there that its words come from, it
declares its variables, each once and under a name that is free, and uses no others, and it jumps
out of loops only from inside one.

What commands are read from is put together piece by piece. `ReadsCommand ts c` says that the tokens
`ts` are a command of their own, whatever follows them, and `ReadsCommands` the same of commands one
after the other.
-/

namespace StructuredIL.C

/-! ### Programs -/

/-- A command of a program. -/
inductive Command where
  /-- Nothing. -/
  | empty
  /-- An assignment to a variable. -/
  | assign (name : Text) (value : Term)
  /-- Prints an integer on a line. -/
  | print (value : Term)
  /-- Goes to the next round of the innermost loop. -/
  | nextRound
  /-- Goes out of the innermost loop. -/
  | exitLoop
  /-- Goes out of the function. -/
  | exitFunction
  /-- Commands between braces. -/
  | compound (parts : List Command)
  /-- A loop with its test in front. -/
  | whileLoop (condition : Term) (body : Command)
  /-- A conditional without a second arm. -/
  | ifThen (condition : Term) (yes : Command)
  /-- A conditional with two arms. -/
  | ifElse (condition : Term) (yes no : Command)
  deriving Repr

/-- A program of one function. -/
structure Program where
  /-- What its directives say. -/
  directives : List Text
  /-- The name of the function. -/
  name : Text
  /-- Its variables, with their types. -/
  locals : List (CType × Text)
  /-- Its commands. -/
  body : List Command
  deriving Repr

/-! ### Names in their places -/

/-- The words that the headers define, and that are no free names either. -/
def headerWords : List String := ["printf", "bool", "true", "false", "int32_t"]

/-- Whether a word is no free name. -/
def isReserved (t : Text) : Bool := isKeyword t || headerWords.any fun w ↦ Text.ofString w == t

/-- A free name. -/
def IsFree (t : Text) : Prop := isIdentifier t = true ∧ isReserved t = false

/-- Whether an expression uses these names only. -/
def Term.isOver (names : List Text) : Term → Bool
  | literal _ => true
  | name t => names.contains t
  | operation _ l r => l.isOver names && r.isOver names

mutual
/-- Whether a command uses these names only, and jumps only where there is a loop. -/
def Command.isOver (names : List Text) (inLoop : Bool) : Command → Bool
  | empty => true
  | assign t value => names.contains t && value.isOver names
  | print value => value.isOver names
  | nextRound => inLoop
  | exitLoop => inLoop
  | exitFunction => true
  | compound parts => areOver names inLoop parts
  | whileLoop c body => c.isOver names && body.isOver names true
  | ifThen c yes => c.isOver names && yes.isOver names inLoop
  | ifElse c yes no => c.isOver names && yes.isOver names inLoop && no.isOver names inLoop

/-- Whether some commands use these names only. -/
def Command.areOver (names : List Text) (inLoop : Bool) : List Command → Bool
  | [] => true
  | c :: rest => c.isOver names inLoop && areOver names inLoop rest
end

/-- Whether a program may be run. -/
def Program.isValid (p : Program) : Bool :=
  SourceFile.headers.all (fun h ↦ p.directives.contains (Text.ofString s!"include <{h}>")) &&
    (p.name :: p.locals.map Prod.snd).all (fun t ↦ !isReserved t) &&
    decide (p.locals.map Prod.snd).Nodup &&
    Command.areOver (p.locals.map Prod.snd) false p.body

/-! ### The reader -/

/-- The tokens behind this token, if it comes first. -/
def skip? (token : Token) : List Token → Option (List Token)
  | [] => none
  | t :: rest => if t = token then some rest else none

/-- The words that commands begin with. -/
inductive Lead where
  /-- The next round. -/
  | nextRound
  /-- The end of a loop. -/
  | exitLoop
  /-- The end of the function. -/
  | exitFunction
  /-- A loop. -/
  | loop
  /-- A conditional. -/
  | cond
  /-- A call of `printf`. -/
  | print
  deriving DecidableEq, Repr

/-- How C writes the beginning of a command. -/
def Lead.word : Lead → String
  | nextRound => "continue"
  | exitLoop => "break"
  | exitFunction => "return"
  | loop => "while"
  | cond => "if"
  | print => "printf"

/-- The beginning of a command that a word is. -/
def Lead.of? (t : Text) : Option Lead :=
  [nextRound, exitLoop, exitFunction, loop, cond, print].find? fun l ↦ Text.ofString l.word == t

/-- What `printf` is told to print: an integer, and the end of the line. -/
def printFormat : Text := Text.ofString "%d\\n"

/-- The condition that begins some tokens, between parentheses. -/
def condition? (ts : List Token) : Option (Term × List Token) := do
  let ts ← skip? (.mark .openParen) ts
  let x ← term? ts
  let ts ← skip? (.mark .closeParen) x.2
  return (x.1, ts)

/-- A command with a semicolon behind it. -/
def ended? (c : Command) (ts : List Token) : Option (Command × List Token) :=
  (skip? (.mark .semicolon) ts).map fun rest ↦ (c, rest)

/-- What `printf` prints, and the semicolon behind it. -/
def print? (ts : List Token) : Option (Command × List Token) := do
  let ts ← skip? (.mark .openParen) ts
  let ts ← skip? (.quoted printFormat) ts
  let ts ← skip? (.mark .comma) ts
  let x ← term? ts
  let ts ← skip? (.mark .closeParen) x.2
  ended? (.print x.1) ts

/-- What a variable is assigned, and the semicolon behind it. -/
def assign? (name : Text) (ts : List Token) : Option (Command × List Token) := do
  let ts ← skip? (.mark .assign) ts
  let x ← term? ts
  ended? (.assign name x.1) x.2

mutual
/-- The command that begins some tokens, and the tokens behind it. -/
def command? : Nat → List Token → Option (Command × List Token)
  | 0, _ => none
  | _ + 1, .mark .semicolon :: ts => some (.empty, ts)
  | n + 1, .mark .openBrace :: ts => (commands? n ts).map fun x ↦ (.compound x.1, x.2)
  | n + 1, .word t :: ts =>
    match Lead.of? t with
    | some .nextRound => ended? .nextRound ts
    | some .exitLoop => ended? .exitLoop ts
    | some .exitFunction => ended? .exitFunction ts
    | some .print => print? ts
    | some .loop => do
      let c ← condition? ts
      let body ← command? n c.2
      return (.whileLoop c.1 body.1, body.2)
    | some .cond => do
      let c ← condition? ts
      let yes ← command? n c.2
      match skip? (.word "else") yes.2 with
      | some ts =>
        let no ← command? n ts
        return (.ifElse c.1 yes.1 no.1, no.2)
      | none => return (.ifThen c.1 yes.1, yes.2)
    | none => if isKeyword t then none else assign? t ts
  | _, _ => none

/-- The commands up to a closing brace, and the tokens behind it. -/
def commands? : Nat → List Token → Option (List Command × List Token)
  | 0, _ => none
  | _ + 1, .mark .closeBrace :: ts => some ([], ts)
  | n + 1, ts => do
    let c ← command? n ts
    let cs ← commands? n c.2
    return (c.1 :: cs.1, cs.2)
end

/-- The type that a word stands for. -/
def CType.ofWord? (t : Text) : Option CType :=
  [int32, bool].find? fun type ↦ Text.ofString type.text == t

/-- The declarations that begin some tokens, and the tokens behind them. -/
def declarationsOf : List Token → List (CType × Text) × List Token
  | .word t :: .word name :: .mark .semicolon :: rest =>
    match CType.ofWord? t with
    | some type => ((type, name) :: (declarationsOf rest).1, (declarationsOf rest).2)
    | none => ([], .word t :: .word name :: .mark .semicolon :: rest)
  | ts => ([], ts)

/-- The directives that begin some tokens, and the tokens behind them. -/
def directivesOf : List Token → List Text × List Token
  | .directive t :: rest => (t :: (directivesOf rest).1, (directivesOf rest).2)
  | ts => ([], ts)

/-- The name that begins some tokens, and the tokens behind it. -/
def name? : List Token → Option (Text × List Token)
  | .word t :: rest => some (t, rest)
  | _ => none

/-- The program that a text is read as. -/
def Program.read? (t : Text) : Option Program := do
  let ts ← tokens? t
  let front := directivesOf ts
  let ts ← skip? (.word "void") front.2
  let name ← name? ts
  let ts ← skip? (.mark .openParen) name.2
  let ts ← skip? (.mark .closeParen) ts
  let ts ← skip? (.mark .openBrace) ts
  let locals := declarationsOf ts
  let body ← commands? locals.2.length locals.2
  let p : Program := ⟨front.1, name.1, locals.1, body.1⟩
  if body.2.isEmpty && p.isValid then return p else none

/-! ### Reading one command -/

@[simp] theorem skip?_cons_self (token : Token) (rest : List Token) :
    skip? token (token :: rest) = some rest := if_pos rfl

theorem skip?_cons_of_ne {token t : Token} (h : t ≠ token) (rest : List Token) :
    skip? token (t :: rest) = none := if_neg h

/-- What follows a command, so that it does not go on with a second arm. -/
abbrev NoElse (rest : List Token) : Prop := skip? (.word "else") rest = none

/-- Whether a token may begin a command: it is no `else`, no closing brace and no type. -/
def Token.isStart : Token → Bool
  | .word t => t != "else" && (CType.ofWord? t).isNone
  | .mark m => m != .closeBrace
  | _ => true

/-- Tokens that are a command of their own, whatever follows them. -/
structure ReadsCommand (ts : List Token) (c : Command) : Prop where
  /-- They begin like a command. -/
  start : ∃ t rest, ts = t :: rest ∧ t.isStart = true
  /-- They are read as the command, if the bound is large enough. -/
  read : ∀ n rest, ts.length ≤ n → NoElse rest → command? n (ts ++ rest) = some (c, rest)

/-- Tokens that are commands, one after the other. -/
inductive ReadsCommands : List Token → List Command → Prop
  | nil : ReadsCommands [] []
  | cons {ts us : List Token} {c : Command} {cs : List Command} : ReadsCommand ts c →
      ReadsCommands us cs → ReadsCommands (ts ++ us) (c :: cs)

variable {ts us rest : List Token} {c d : Command} {cs ds : List Command} {e : Expr} {n : Nat}

/-- The first token is read with one step of the bound. -/
theorem ReadsCommand.of_succ {t : Token} (hstart : t.isStart = true)
    (h : ∀ n rest, ts.length ≤ n → NoElse rest →
      command? (n + 1) (t :: (ts ++ rest)) = some (c, rest)) : ReadsCommand (t :: ts) c := by
  refine ⟨⟨t, ts, rfl, hstart⟩, fun n rest hn hrest ↦ ?_⟩
  cases n with
  | zero => exact absurd hn (Nat.not_succ_le_zero _)
  | succ n => exact h n rest (Nat.le_of_succ_le_succ hn) hrest

theorem ReadsCommand.single (h : ReadsCommand ts c) : ReadsCommands ts [c] := by
  rw [← List.append_nil ts]
  exact .cons h .nil

theorem ReadsCommands.append (h : ReadsCommands ts cs) (hd : ReadsCommands us ds) :
    ReadsCommands (ts ++ us) (cs ++ ds) := by
  induction h with
  | nil => exact hd
  | cons hc _ ih =>
    rw [List.append_assoc]
    exact .cons hc ih

theorem ReadsCommand.noElse (h : ReadsCommand ts c) (rest : List Token) : NoElse (ts ++ rest) := by
  obtain ⟨t, ts, rfl, hstart⟩ := h.start
  refine skip?_cons_of_ne ?_ _
  rintro rfl
  cases hstart

theorem ReadsCommands.noElse (h : ReadsCommands ts cs) (hrest : NoElse rest) :
    NoElse (ts ++ rest) := by
  cases h with
  | nil => exact hrest
  | cons hc _ =>
    rw [List.append_assoc]
    exact hc.noElse _

/-- Commands are read up to the brace that closes them. -/
theorem ReadsCommands.commands?_eq (h : ReadsCommands ts cs) (rest : List Token)
    (hn : ts.length < n) : commands? n (ts ++ .mark .closeBrace :: rest) = some (cs, rest) := by
  induction h generalizing n with
  | nil =>
    obtain _ | n := n
    · cases hn
    · rfl
  | @cons ts us c cs hc hcs ih =>
    obtain _ | n := n
    · cases hn
    have hnoElse : NoElse (us ++ .mark .closeBrace :: rest) :=
      hcs.noElse rfl
    rw [List.length_append] at hn
    have hread := hc.read n (us ++ .mark .closeBrace :: rest) (by omega) hnoElse
    obtain ⟨t, ts, rfl, hstart⟩ := hc.start
    rw [List.length_cons] at hn
    rw [List.append_assoc]
    rw [List.cons_append] at hread ⊢
    rw [commands?, hread, Option.bind_eq_bind, Option.bind_some, ih (by omega)]
    · rfl
    · -- a command does not begin with the brace that would end the list
      rintro _ ⟨⟩
      cases hstart

/-! ### The commands -/

theorem ends_of_mark {m : Mark} (h : Operator.ofMark? m = none) (rest : List Token) :
    Expr.Ends (.mark m :: rest) := by
  intro m' rest' heq
  cases heq
  exact h

theorem condition?_eq (he : e.IsReadable) (rest : List Token) :
    condition? (.mark .openParen :: (e.tokens ++ .mark .closeParen :: rest)) =
      some (e.regrouped, rest) := by
  simp [condition?, Expr.term?_tokens he (ends_of_mark (m := .closeParen) rfl rest)]

theorem readsCommand_empty : ReadsCommand [.mark .semicolon] .empty :=
  .of_succ rfl fun _ _ _ _ ↦ rfl

theorem not_isKeyword_of_not_isReserved {t : Text} (h : isReserved t = false) :
    isKeyword t = false :=
  (Bool.or_eq_false_iff.1 h).1

theorem IsFree.isName {t : Text} (h : IsFree t) : IsName t :=
  ⟨h.1, not_isKeyword_of_not_isReserved h.2⟩

/-- No name other than `printf` begins a command of another kind. -/
theorem lead_of?_eq_none_of_ne {t : Text} (h : isKeyword t = false) (hprintf : t ≠ "printf") :
    Lead.of? t = none := by
  refine List.find?_eq_none.2 fun l _ hl ↦ ?_
  obtain rfl := beq_iff_eq.1 hl
  cases l with
  | print => exact hprintf rfl
  | _ => cases h

theorem lead_of?_eq_none {t : Text} (h : isReserved t = false) : Lead.of? t = none := by
  refine lead_of?_eq_none_of_ne (not_isKeyword_of_not_isReserved h) ?_
  rintro rfl
  cases h

theorem isStart_of_not_isReserved {t : Text} (h : isReserved t = false) :
    (Token.word t).isStart = true := by
  have htype : CType.ofWord? t = none := by
    refine List.find?_eq_none.2 fun type _ htype ↦ ?_
    obtain rfl := beq_iff_eq.1 htype
    cases type <;> cases h
  have helse : t ≠ "else" := by
    rintro rfl
    cases h
  simp [Token.isStart, htype, helse]

theorem readsCommand_assign {t : Text} (ht : isReserved t = false) (he : e.IsReadable) :
    ReadsCommand (.word t :: .mark .assign :: (e.tokens ++ [.mark .semicolon]))
      (.assign t e.regrouped) := by
  refine .of_succ (isStart_of_not_isReserved ht) fun n rest _ _ ↦ ?_
  have hterm := Expr.term?_tokens he (ends_of_mark (m := .semicolon) rfl rest)
  simp [command?, lead_of?_eq_none ht, not_isKeyword_of_not_isReserved ht, assign?, hterm, ended?]

theorem readsCommand_nextRound :
    ReadsCommand [.word "continue", .mark .semicolon] .nextRound :=
  .of_succ rfl fun _ _ _ _ ↦ rfl

theorem readsCommand_exitLoop : ReadsCommand [.word "break", .mark .semicolon] .exitLoop :=
  .of_succ rfl fun _ _ _ _ ↦ rfl

theorem readsCommand_exitFunction :
    ReadsCommand [.word "return", .mark .semicolon] .exitFunction :=
  .of_succ rfl fun _ _ _ _ ↦ rfl

theorem readsCommand_print (he : e.IsReadable) :
    ReadsCommand (.word "printf" :: .mark .openParen :: .quoted printFormat :: .mark .comma ::
      (e.tokens ++ [.mark .closeParen, .mark .semicolon])) (.print e.regrouped) := by
  refine .of_succ rfl fun n rest _ _ ↦ ?_
  have hlead : Lead.of? (Text.ofString "printf") = some .print := rfl
  have hterm := Expr.term?_tokens he
    (ends_of_mark (m := .closeParen) rfl (.mark .semicolon :: rest))
  simp [command?, hlead, print?, hterm, ended?]

/-- A compound is over with its brace, also in front of an `else`. -/
theorem command?_compound (h : ReadsCommands ts cs) (hn : ts.length + 2 ≤ n) (rest : List Token) :
    command? n (.mark .openBrace :: (ts ++ .mark .closeBrace :: rest)) =
      some (.compound cs, rest) := by
  obtain _ | n := n
  · cases hn
  rw [command?, h.commands?_eq rest (by omega)]
  rfl

theorem readsCommand_compound (h : ReadsCommands ts cs) :
    ReadsCommand (.mark .openBrace :: (ts ++ [.mark .closeBrace])) (.compound cs) := by
  refine ⟨⟨_, _, rfl, rfl⟩, fun n rest hn _ ↦ ?_⟩
  rw [List.length_cons, List.length_append] at hn
  simpa using command?_compound h hn rest

theorem readsCommand_whileLoop (he : e.IsReadable) (h : ReadsCommand ts c) :
    ReadsCommand (.word "while" :: .mark .openParen :: (e.tokens ++ .mark .closeParen :: ts))
      (.whileLoop e.regrouped c) := by
  refine .of_succ rfl fun n rest hn hrest ↦ ?_
  have hlead : Lead.of? (Text.ofString "while") = some .loop := rfl
  have hread : command? n (ts ++ rest) = some (c, rest) := by
    refine h.read n rest ?_ hrest
    simp only [List.length_cons, List.length_append] at hn
    omega
  simp [command?, hlead, condition?_eq he, hread]

theorem readsCommand_ifThen (he : e.IsReadable) (h : ReadsCommand ts c) :
    ReadsCommand (.word "if" :: .mark .openParen :: (e.tokens ++ .mark .closeParen :: ts))
      (.ifThen e.regrouped c) := by
  refine .of_succ rfl fun n rest hn hrest ↦ ?_
  have hlead : Lead.of? (Text.ofString "if") = some .cond := rfl
  have hread : command? n (ts ++ rest) = some (c, rest) := by
    refine h.read n rest ?_ hrest
    simp only [List.length_cons, List.length_append] at hn
    omega
  simp [command?, hlead, condition?_eq he, hread, show skip? _ rest = none from hrest]

theorem readsCommand_ifElse (he : e.IsReadable) (h : ReadsCommands ts cs)
    (hd : ReadsCommand us d) :
    ReadsCommand (.word "if" :: .mark .openParen :: (e.tokens ++ .mark .closeParen ::
      .mark .openBrace :: (ts ++ .mark .closeBrace :: .word "else" :: us)))
      (.ifElse e.regrouped (.compound cs) d) := by
  refine .of_succ rfl fun n rest hn hrest ↦ ?_
  have hlead : Lead.of? (Text.ofString "if") = some .cond := rfl
  simp only [List.length_cons, List.length_append] at hn
  have hyes := command?_compound h (n := n) (by omega) (.word "else" :: (us ++ rest))
  have hno : command? n (us ++ rest) = some (d, rest) := hd.read n rest (by omega) hrest
  simp [command?, hlead, condition?_eq he, hyes, hno]

end StructuredIL.C
