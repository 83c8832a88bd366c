import StructuredIL.Proofs.C.ReadingBack
import StructuredIL.Proofs.Text.Avoidance

/-!
# Reading the skeleton of a text

The skeleton of a text is the tree of its statements, with the expressions left as they are written.
It is read from the text itself and not from its tokens, because tokens do not show what stood
between them. Blanks count only where they end a word. An expression goes up to the mark that has to
come behind it, and has to be one that `Term.read?` reads. An `else` belongs to the nearest `if`.

What is read of a text depends on what follows it in two ways only: an `else` would be taken for
a second arm, and a further statement would be read as well. So a statement is read off the front of
a longer text if no `else` follows (`ReadsStatement`), and some statements if also none follows them
(`ReadsStatements`). Texts that begin with a blank are among the latter, so that the parts of
a longer text may be glued with blanks and line ends.
-/

namespace StructuredIL.C

/-! ### Skeletons -/

/-- A statement with its expressions as they are written. -/
inductive Skeleton where
  /-- Nothing. -/
  | empty
  /-- An assignment to a variable. -/
  | assign (name value : Text)
  /-- Prints an integer on a line. -/
  | print (value : Text)
  /-- Goes to the next round of the innermost loop. -/
  | nextRound
  /-- Goes out of the innermost loop. -/
  | exitLoop
  /-- Goes out of the function. -/
  | exitFunction
  /-- Statements between braces. -/
  | compound (parts : List Skeleton)
  /-- An endless loop. -/
  | loop (body : Skeleton)
  /-- A conditional without a second arm. -/
  | ifThen (condition : Text) (yes : Skeleton)
  /-- A conditional with two arms. -/
  | ifElse (condition : Text) (yes no : Skeleton)
  deriving Repr

/-! ### Words and marks in front -/

/-- A text without the blanks in front. -/
def dropBlanks (t : Text) : Text := t.dropWhile (CodePoint.is isBlank)

/-- What may be in a word, as far as it goes from the front, and the text behind it. -/
def wordInFront (t : Text) : Text × Text :=
  ((dropBlanks t).takeWhile (CodePoint.is isWordChar),
    (dropBlanks t).dropWhile (CodePoint.is isWordChar))

/-- The text behind an `else`, if one is in front. -/
def else? (t : Text) : Option Text :=
  if (wordInFront t).1 = Text.ofString "else" then some (wordInFront t).2 else none

/-- The text behind something that is written in one piece, if that is in front. -/
def behind? (piece : String) (t : Text) : Option Text :=
  (Text.ofString piece).isPrefixOf? (dropBlanks t)

/-- What a statement begins with. -/
inductive Opening where
  /-- The semicolon of an empty statement. -/
  | semicolon
  /-- The brace of a compound statement. -/
  | brace
  /-- One of the words that statements begin with. -/
  | lead (l : Lead)
  /-- The name of a variable. -/
  | name (t : Text)
  deriving DecidableEq, Repr

/-- What a statement begins with that begins with a word. -/
def Opening.ofWord? (t : Text) : Option Opening :=
  match Lead.of? t with
  | some l => some (.lead l)
  | none => if isIdentifier t && !isKeyword t then some (.name t) else none

/-- What the statement in front begins with, and the text behind that. -/
def opening? (t : Text) : Option (Opening × Text) :=
  match dropBlanks t with
  | .char ';' :: rest => some (.semicolon, rest)
  | .char '\x7b' :: rest => some (.brace, rest)
  | _ => (Opening.ofWord? (wordInFront t).1).map fun o ↦ (o, (wordInFront t).2)

/-- The expression that is written up to a mark, and the text behind the mark. -/
def expression? (mark : Char) (t : Text) : Option (Text × Text) :=
  match (dropBlanks t).dropWhile (· != .char mark) with
  | [] => none
  | _ :: rest =>
    let written := (dropBlanks t).takeWhile (· != .char mark)
    if (Term.read? written).isSome then some (written, rest) else none

/-! ### The reader -/

/-- A statement of words only, with the semicolon behind it. -/
def closed? (s : Skeleton) (t : Text) : Option (Skeleton × Text) :=
  (behind? ";" t).map fun rest ↦ (s, rest)

/-- What a variable is assigned, up to the semicolon. -/
def assigned? (name t : Text) : Option (Skeleton × Text) := do
  let t ← behind? "=" t
  let value ← expression? ';' t
  return (.assign name value.1, value.2)

/-- What `printf` prints, and the semicolon behind it. -/
def printed? (t : Text) : Option (Skeleton × Text) := do
  let t ← behind? "(" t
  let t ← behind? "\"%d\\n\"" t
  let t ← behind? "," t
  let value ← expression? ')' t
  closed? (.print value.1) value.2

/-- The condition of a conditional, and the text behind its parenthesis. -/
def tested? (t : Text) : Option (Text × Text) := do
  let t ← behind? "(" t
  expression? ')' t

/-- The text behind the condition of an endless loop. -/
def endless? (t : Text) : Option Text := do
  let t ← behind? "(" t
  let t ← behind? "1" t
  behind? ")" t

mutual
/-- The statement in front, and the text behind it. -/
def statement? : Nat → Text → Option (Skeleton × Text)
  | 0, _ => none
  | n + 1, t => do
    let x ← opening? t
    match x.1 with
    | .semicolon => return (.empty, x.2)
    | .brace =>
      let parts ← statements? n x.2
      let rest ← behind? "\x7d" parts.2
      return (.compound parts.1, rest)
    | .name name => assigned? name x.2
    | .lead .nextRound => closed? .nextRound x.2
    | .lead .exitLoop => closed? .exitLoop x.2
    | .lead .exitFunction => closed? .exitFunction x.2
    | .lead .print => printed? x.2
    | .lead .loop =>
      let rest ← endless? x.2
      let body ← statement? n rest
      return (.loop body.1, body.2)
    | .lead .cond =>
      let c ← tested? x.2
      let yes ← statement? n c.2
      match else? yes.2 with
      | some rest =>
        let no ← statement? n rest
        return (.ifElse c.1 yes.1 no.1, no.2)
      | none => return (.ifThen c.1 yes.1, yes.2)

/-- The statements in front, as many as there are, and the text behind them. -/
def statements? : Nat → Text → Option (List Skeleton × Text)
  | 0, _ => none
  | n + 1, t =>
    if (opening? t).isNone then some ([], dropBlanks t)
    else do
      let s ← statement? n t
      let ss ← statements? n s.2
      return (s.1 :: ss.1, ss.2)
end

/-- The skeleton of a text that is statements from the front to the end. -/
def Skeleton.read? (t : Text) : Option (List Skeleton) := do
  let x ← statements? (t.length + 1) t
  if x.2.isEmpty then return x.1 else none

/-- A second arm belongs to the nearest conditional. -/
example : Skeleton.read? "if (a) if (b) ; else return;" =
    some [.ifThen "a" (.ifElse "b" .empty .exitFunction)] := by rfl

/-! ### Blanks in front -/

section Blanks

variable {p : CodePoint} (hp : p.is isBlank = true) (t : Text)
include hp

theorem dropBlanks_cons : dropBlanks (p :: t) = dropBlanks t := List.dropWhile_cons_of_pos hp

theorem else?_cons : else? (p :: t) = else? t := by
  rw [else?, else?, wordInFront, wordInFront, dropBlanks_cons hp]

theorem opening?_cons : opening? (p :: t) = opening? t := by
  rw [opening?, opening?, wordInFront, wordInFront, dropBlanks_cons hp]

theorem expression?_cons (mark : Char) : expression? mark (p :: t) = expression? mark t := by
  rw [expression?, expression?, dropBlanks_cons hp]

theorem statement?_cons (n : Nat) : statement? n (p :: t) = statement? n t := by
  cases n with
  | zero => rfl
  | succ n => rw [statement?, statement?, opening?_cons hp]

theorem statements?_cons (n : Nat) : statements? n (p :: t) = statements? n t := by
  cases n with
  | zero => rfl
  | succ n =>
    rw [statements?, statements?, opening?_cons hp, statement?_cons hp, dropBlanks_cons hp]

end Blanks

variable {t u rest : Text} {s : Skeleton} {ss us : List Skeleton} {e : Expr} {n : Nat}

theorem dropBlanks_of_is {p : CodePoint} {f : Char → Bool} (hp : p.is f = true)
    (hblank : f ' ' = false) (hline : f '\n' = false) (t : Text) :
    dropBlanks (p :: t) = p :: t := by
  obtain ⟨c, rfl, hc⟩ := exists_of_is hp
  exact List.dropWhile_cons_of_neg (by simp [not_isBlank_of hblank hline hc])

theorem dropBlanks_of_isIdentifier (ht : isIdentifier t = true) (rest : Text) :
    dropBlanks (t ++ rest) = t ++ rest := by
  obtain _ | ⟨p, front⟩ := t
  · cases ht
  · exact dropBlanks_of_is (Bool.and_eq_true_iff.1 ht).1 rfl rfl _

theorem dropBlanks_of_isDigits (ht : isDigits t = true) (rest : Text) :
    dropBlanks (t ++ rest) = t ++ rest := by
  obtain _ | ⟨p, front⟩ := t
  · cases ht
  · have hall : (p :: front).all (CodePoint.is Char.isDigit) = true := ht
    exact dropBlanks_of_is (Bool.and_eq_true_iff.1 hall).1 rfl rfl _

/-! ### Names -/

/-- A word is over when a blank comes. -/
theorem wordInFront_append (ht : isIdentifier t = true) (rest : Text) :
    wordInFront (t ++ .char ' ' :: rest) = (t, .char ' ' :: rest) := by
  have hword := isWordChar_of_isIdentifier ht
  rw [wordInFront, dropBlanks_of_isIdentifier ht, List.takeWhile_append_of_pos hword,
    List.dropWhile_append_of_pos hword]
  simp [isWordChar]

theorem opening?_of_isName (ht : IsName t) (hprintf : t ≠ "printf") (rest : Text) :
    opening? (t ++ .char ' ' :: rest) = some (.name t, .char ' ' :: rest) := by
  have hword : Opening.ofWord? t = some (.name t) := by
    rw [Opening.ofWord?, lead_of?_eq_none_of_ne ht.2 hprintf]
    simp [ht.1, ht.2]
  obtain ⟨p, front, rfl, hp⟩ : ∃ p front, t = p :: front ∧ p.is isLetter = true := by
    obtain _ | ⟨p, front⟩ := t
    · cases ht.1
    · exact ⟨p, front, rfl, (Bool.and_eq_true_iff.1 ht.1).1⟩
  rw [opening?.eq_def, wordInFront_append ht.1, dropBlanks_of_isIdentifier ht.1, hword]
  split
  · rename_i heq
    cases heq
    cases hp
  · rename_i heq
    cases heq
    cases hp
  · rfl

/-! ### Expressions -/

/-- The marks that come behind expressions. -/
def closers : List Char := [';', ')']

/-- No mark that comes behind an expression is in it. -/
theorem Expr.avoids_closers (h : e.IsReadable) : e.text.Avoids closers := by
  induction e with
  | constant value => exact Text.avoids_integer_of value (by decide) (by decide)
  | variableName t => exact Text.avoids_of_isIdentifier h.1 (by decide)
  | sum l r ihl ihr =>
    have hplus : Text.Avoids closers " + " := by decide
    exact Text.avoids_append.2 ⟨Text.avoids_append.2 ⟨ihl h.1, hplus⟩, ihr h.2⟩
  | relation rel l r ihl ihr =>
    have hblank : Text.Avoids closers " " := by decide
    have hrel : Text.Avoids closers rel.symbol := by cases rel <;> decide
    refine Text.avoids_append.2 ⟨?_, ihr h.2⟩
    exact Text.avoids_append.2
      ⟨Text.avoids_append.2 ⟨Text.avoids_append.2 ⟨ihl h.1, hblank⟩, hrel⟩, hblank⟩
  | diagnostic t => exact h.elim

/-- An expression does not begin with a blank. -/
theorem Expr.dropBlanks_text (h : e.IsReadable) (rest : Text) :
    dropBlanks (e.text ++ rest) = e.text ++ rest := by
  induction e generalizing rest with
  | constant value =>
    cases value with
    | ofNat n => exact dropBlanks_of_isDigits (isDigits_repr n) rest
    | negSucc n =>
      rw [Expr.text, ofString_negSucc]
      rfl
  | variableName t => exact dropBlanks_of_isIdentifier h.1 rest
  | sum l r ihl ihr =>
    simp only [Expr.text, List.append_assoc]
    exact ihl h.1 _
  | relation rel l r ihl ihr =>
    simp only [Expr.text, List.append_assoc]
    exact ihl h.1 _
  | diagnostic t => exact h.elim

theorem expression?_text (h : e.IsReadable) {mark : Char} (hmark : mark ∈ closers) (rest : Text) :
    expression? mark (e.text ++ .char mark :: rest) = some (e.text, rest) := by
  have hwritten : ∀ p ∈ e.text, (p != .char mark) = true := by
    rintro p hp
    refine bne_iff_ne.2 ?_
    rintro rfl
    exact e.avoids_closers h mark hmark hp
  rw [expression?, Expr.dropBlanks_text h, List.dropWhile_append_of_pos hwritten,
    List.takeWhile_append_of_pos hwritten]
  simp [Expr.read?_text h]

/-! ### Reading statements -/

/-- A text that is a statement of its own, whatever follows it other than an `else`. -/
structure ReadsStatement (t : Text) (s : Skeleton) : Prop where
  /-- It begins like a statement. -/
  start : ∀ rest, (opening? (t ++ rest)).isSome = true
  /-- It is read as the statement, if the bound is large enough. -/
  read : ∀ n rest, t.length ≤ n → else? rest = none → statement? n (t ++ rest) = some (s, rest)

/-- A text that is some statements, one after the other, with blanks between them. -/
inductive ReadsStatements : Text → List Skeleton → Prop
  | nil : ReadsStatements [] []
  | blank {p : CodePoint} {t : Text} {ss : List Skeleton} : p.is isBlank = true →
      ReadsStatements t ss → ReadsStatements (p :: t) ss
  | cons {t u : Text} {s : Skeleton} {ss : List Skeleton} : ReadsStatement t s →
      ReadsStatements u ss → ReadsStatements (t ++ u) (s :: ss)

/-- No statement begins with an `else`. -/
theorem else?_of_opening? (h : (opening? t).isSome = true) : else? t = none := by
  refine if_neg fun helse ↦ ?_
  have hnone : Opening.ofWord? (wordInFront t).1 = none := by
    rw [helse]
    rfl
  rw [opening?.eq_def, hnone] at h
  -- the other statements begin with a mark, where there is no word
  split at h
  · rw [wordInFront, ‹dropBlanks t = _›] at helse
    cases helse
  · rw [wordInFront, ‹dropBlanks t = _›] at helse
    cases helse
  · cases h

theorem ReadsStatement.length_pos (h : ReadsStatement t s) : 0 < t.length := by
  refine List.length_pos_iff.2 ?_
  rintro rfl
  cases h.start []

/-- The bound is counted down with the opening of a statement. -/
theorem ReadsStatement.of_succ (hstart : ∀ rest, (opening? (t ++ rest)).isSome = true)
    (h : ∀ n rest, t.length ≤ n + 1 → else? rest = none →
      statement? (n + 1) (t ++ rest) = some (s, rest)) : ReadsStatement t s := by
  refine ⟨hstart, fun n rest hn hrest ↦ ?_⟩
  cases n with
  | zero =>
    obtain rfl := List.eq_nil_of_length_eq_zero (Nat.le_zero.1 hn)
    cases hstart []
  | succ n => exact h n rest hn hrest

theorem ReadsStatement.single (h : ReadsStatement t s) : ReadsStatements t [s] := by
  rw [← List.append_nil t]
  exact .cons h .nil

theorem ReadsStatements.append (h : ReadsStatements t ss) (hu : ReadsStatements u us) :
    ReadsStatements (t ++ u) (ss ++ us) := by
  induction h with
  | nil => exact hu
  | blank hp _ ih => exact .blank hp ih
  | cons hs _ ih =>
    rw [List.append_assoc]
    exact .cons hs ih

/-- Statements do not begin with an `else`. -/
theorem ReadsStatements.else?_eq_none (h : ReadsStatements t ss) (hrest : else? rest = none) :
    else? (t ++ rest) = none := by
  induction h with
  | nil => exact hrest
  | blank hp _ ih => exact (else?_cons hp _).trans ih
  | cons hs _ _ =>
    rw [List.append_assoc]
    exact else?_of_opening? (hs.start _)

/-- Statements are read up to what is no statement. -/
theorem ReadsStatements.statements?_eq (h : ReadsStatements t ss) (hopening : opening? rest = none)
    (helse : else? rest = none) (hn : t.length < n) :
    statements? n (t ++ rest) = some (ss, dropBlanks rest) := by
  induction h generalizing n with
  | nil =>
    obtain _ | n := n
    · cases hn
    · rw [List.nil_append, statements?, hopening]
      rfl
  | blank hp _ ih =>
    rw [List.cons_append, statements?_cons hp]
    exact ih (Nat.lt_of_succ_lt hn)
  | @cons t u s ss hs hss ih =>
    obtain _ | n := n
    · cases hn
    rw [List.length_append] at hn
    have hpos := hs.length_pos
    have hread : statement? n (t ++ (u ++ rest)) = some (s, u ++ rest) :=
      hs.read n _ (by omega) (hss.else?_eq_none helse)
    have hstart : (opening? (t ++ (u ++ rest))).isNone = false := by
      rw [← Option.not_isSome, hs.start]
      rfl
    rw [List.append_assoc, statements?, hstart, hread]
    simp [ih (n := n) (by omega)]

/-! ### The statements -/

theorem readsStatement_empty : ReadsStatement ";" .empty :=
  .of_succ (fun _ ↦ rfl) fun _ _ _ _ ↦ rfl

theorem readsStatement_nextRound : ReadsStatement "continue;" .nextRound :=
  .of_succ (fun _ ↦ rfl) fun _ _ _ _ ↦ rfl

theorem readsStatement_exitLoop : ReadsStatement "break;" .exitLoop :=
  .of_succ (fun _ ↦ rfl) fun _ _ _ _ ↦ rfl

theorem readsStatement_exitFunction : ReadsStatement "return;" .exitFunction :=
  .of_succ (fun _ ↦ rfl) fun _ _ _ _ ↦ rfl

theorem readsStatement_assign (ht : IsName t) (hprintf : t ≠ "printf") (he : e.IsReadable) :
    ReadsStatement (t ++ " = " ++ e.text ++ ";") (.assign t e.text) := by
  have hopening (rest : Text) : opening? (t ++ " = " ++ e.text ++ ";" ++ rest) =
      some (.name t, " = " ++ (e.text ++ .char ';' :: rest)) := by
    simp only [List.append_assoc]
    exact opening?_of_isName ht hprintf _
  refine .of_succ (fun rest ↦ by rw [hopening]; rfl) fun n rest _ _ ↦ ?_
  have hassign : behind? "=" (" = " ++ (e.text ++ .char ';' :: rest)) =
      some (.char ' ' :: (e.text ++ .char ';' :: rest)) := rfl
  have hvalue : expression? ';' (.char ' ' :: (e.text ++ .char ';' :: rest)) =
      some (e.text, rest) :=
    (expression?_cons rfl _ _).trans (expression?_text he (by decide) rest)
  rw [statement?, hopening]
  simp [assigned?, hassign, hvalue]

theorem readsStatement_print (he : e.IsReadable) :
    ReadsStatement ("printf(\"%d\\n\", " ++ e.text ++ ");") (.print e.text) := by
  have hopening (rest : Text) : opening? ("printf(\"%d\\n\", " ++ e.text ++ ");" ++ rest) =
      some (.lead .print, "(\"%d\\n\", " ++ (e.text ++ .char ')' :: .char ';' :: rest)) := by
    simp only [List.append_assoc]
    rfl
  refine .of_succ (fun rest ↦ by rw [hopening]; rfl) fun n rest _ _ ↦ ?_
  have hvalue : expression? ')' (.char ' ' :: (e.text ++ .char ')' :: .char ';' :: rest)) =
      some (e.text, .char ';' :: rest) :=
    (expression?_cons rfl _ _).trans (expression?_text he (by decide) _)
  have hprinted : printed? ("(\"%d\\n\", " ++ (e.text ++ .char ')' :: .char ';' :: rest)) =
      some (.print e.text, rest) := by
    show (expression? ')' (.char ' ' :: (e.text ++ .char ')' :: .char ';' :: rest))).bind _ = _
    rw [hvalue]
    rfl
  rw [statement?, hopening]
  exact hprinted

/-- A text between braces. -/
def braced (t : Text) : Text := "\x7b " ++ t ++ " \x7d"

theorem length_braced (t : Text) : (braced t).length = t.length + 4 := by
  have hopen : (Text.ofString "\x7b ").length = 2 := rfl
  have hclose : (Text.ofString " \x7d").length = 2 := rfl
  rw [braced, List.length_append, List.length_append]
  omega

/-- A compound is over with its brace, also in front of an `else`. -/
theorem statement?_braced (h : ReadsStatements t ss) (hn : (braced t).length ≤ n) (rest : Text) :
    statement? n (braced t ++ rest) = some (.compound ss, rest) := by
  rw [length_braced] at hn
  obtain _ | n := n
  · cases hn
  have hopening : opening? (braced t ++ rest) =
      some (.brace, .char ' ' :: (t ++ .char ' ' :: .char '\x7d' :: rest)) := by
    simp only [braced, List.append_assoc]
    rfl
  have hparts : statements? n (.char ' ' :: (t ++ .char ' ' :: .char '\x7d' :: rest)) =
      some (ss, .char '\x7d' :: rest) :=
    (statements?_cons rfl _ _).trans (h.statements?_eq rfl rfl (by omega))
  have hclosing : behind? "\x7d" (.char '\x7d' :: rest) = some rest := rfl
  rw [statement?, hopening]
  simp [hparts, hclosing]

theorem readsStatement_braced (h : ReadsStatements t ss) :
    ReadsStatement (braced t) (.compound ss) := by
  refine ⟨fun rest ↦ ?_, fun n rest hn _ ↦ statement?_braced h hn rest⟩
  rw [braced, List.append_assoc, List.append_assoc]
  rfl

theorem readsStatement_loop (h : ReadsStatement t s) :
    ReadsStatement ("while (1) " ++ t) (.loop s) := by
  refine .of_succ (fun rest ↦ rfl) fun n rest hn hrest ↦ ?_
  have hbody : statement? n (.char ' ' :: (t ++ rest)) = some (s, rest) := by
    refine (statement?_cons rfl _ _).trans (h.read n rest ?_ hrest)
    have hlength : (Text.ofString "while (1) " ++ t).length = 10 + t.length := List.length_append
    omega
  show (statement? n (.char ' ' :: (t ++ rest))).bind _ = _
  rw [hbody]
  rfl

theorem tested?_text (he : e.IsReadable) (rest : Text) :
    tested? (" (" ++ e.text ++ ") " ++ rest) = some (e.text, " " ++ rest) := by
  simp only [List.append_assoc]
  exact expression?_text he (by decide) _

theorem readsStatement_ifThen (he : e.IsReadable) (h : ReadsStatement t s) :
    ReadsStatement ("if (" ++ e.text ++ ") " ++ t) (.ifThen e.text s) := by
  refine .of_succ (fun rest ↦ rfl) fun n rest hn hrest ↦ ?_
  have hopening : opening? ("if (" ++ e.text ++ ") " ++ t ++ rest) =
      some (.lead .cond, " (" ++ e.text ++ ") " ++ (t ++ rest)) := by
    simp only [List.append_assoc]
    rfl
  have hyes : statement? n (" " ++ (t ++ rest)) = some (s, rest) := by
    refine (statement?_cons rfl _ _).trans (h.read n rest ?_ hrest)
    have hif : 0 < (Text.ofString "if (").length := Nat.zero_lt_succ _
    simp only [List.length_append] at hn
    omega
  rw [statement?, hopening]
  simp only [Option.bind_eq_bind, Option.bind_some, tested?_text he, hyes, hrest]
  rfl

theorem readsStatement_ifElse {v : Skeleton} (he : e.IsReadable) (h : ReadsStatements t ss)
    (hu : ReadsStatement u v) :
    ReadsStatement ("if (" ++ e.text ++ ") " ++ braced t ++ " else " ++ u)
      (.ifElse e.text (.compound ss) v) := by
  refine .of_succ (fun rest ↦ rfl) fun n rest hn hrest ↦ ?_
  have hif : 0 < (Text.ofString "if (").length := Nat.zero_lt_succ _
  simp only [List.length_append] at hn
  have hopening : opening? ("if (" ++ e.text ++ ") " ++ braced t ++ " else " ++ u ++ rest) =
      some (.lead .cond, " (" ++ e.text ++ ") " ++ (braced t ++ " else " ++ u ++ rest)) := by
    simp only [List.append_assoc]
    rfl
  have hyes : statement? n (" " ++ (braced t ++ " else " ++ u ++ rest)) =
      some (.compound ss, " else " ++ u ++ rest) := by
    simp only [List.append_assoc]
    exact (statement?_cons rfl _ _).trans (statement?_braced h (by omega) _)
  have helse : else? (" else " ++ u ++ rest) = some (" " ++ (u ++ rest)) := rfl
  have hno : statement? n (" " ++ (u ++ rest)) = some (v, rest) :=
    (statement?_cons rfl _ _).trans (hu.read n rest (by omega) hrest)
  rw [statement?, hopening]
  simp only [Option.bind_eq_bind, Option.bind_some, tested?_text he, hyes, helse, hno]
  rfl

/-! ### Reading generated statements -/

namespace Stmt

mutual
/-- What the text of a statement is read as. -/
def skeletons : Stmt → List Skeleton
  | assign name value => [.assign name value.text]
  | nextRound => [.nextRound]
  | exitLoop => [.exitLoop]
  | exitFunction => [.exitFunction]
  | print value => [.print value.text]
  | ifThen c yes => [.ifThen c.text (.compound yes.skeletons)]
  | ifElse c yes no => [.ifElse c.text (.compound yes.skeletons) (.compound no.skeletons)]
  | scope parts => [.compound (skeletonsOfAll parts)]
  | loop parts => [.loop (.compound (skeletonsOfAll parts))]
  | sequence parts => if parts.isEmpty then [.empty] else skeletonsOfAll parts
  | diagnostic _ => []

/-- What the texts of some statements are read as. -/
def skeletonsOfAll : List Stmt → List Skeleton
  | [] => []
  | s :: rest => s.skeletons ++ skeletonsOfAll rest
end

theorem text_ifThen (c : Expr) (yes : Stmt) :
    (ifThen c yes).text = "if (" ++ c.text ++ ") " ++ braced yes.text := by
  simp only [text, braced, List.append_assoc]
  rfl

theorem text_ifElse (c : Expr) (yes no : Stmt) : (ifElse c yes no).text =
    "if (" ++ c.text ++ ") " ++ braced yes.text ++ " else " ++ braced no.text := by
  simp only [text, braced, List.append_assoc]
  rfl

theorem text_loop (parts : List Stmt) :
    (loop parts).text = "while (1) " ++ braced (onLines (texts parts)) := by
  simp only [text, braced, List.append_assoc]
  rfl

variable {names : List Text} {inLoop : Bool} {s : Stmt} {parts : List Stmt}

theorem readsStatements_following (h : ∀ p ∈ parts, ReadsStatements p.text p.skeletons) :
    ReadsStatements (following parts []) (skeletonsOfAll parts) := by
  induction parts with
  | nil => exact .nil
  | cons s rest ih =>
    obtain ⟨hs, hrest⟩ := List.forall_mem_cons.1 h
    have hline : ReadsStatements (Text.ofString "\n" ++ (s.text ++ following rest []))
        (s.skeletons ++ skeletonsOfAll rest) := .blank rfl (hs.append (ih hrest))
    simpa [following, skeletonsOfAll] using hline

theorem readsStatements_onLines (h : ∀ p ∈ parts, ReadsStatements p.text p.skeletons) :
    ReadsStatements (onLines (texts parts)) (skeletonsOfAll parts) := by
  cases parts with
  | nil => exact .nil
  | cons s rest =>
    obtain ⟨hs, hrest⟩ := List.forall_mem_cons.1 h
    rw [← List.append_nil (onLines _), onLines_texts_cons, skeletonsOfAll]
    exact hs.append (readsStatements_following hrest)

/-- **The text of a statement is read as its skeletons**, if its names are not those of statements.
-/
theorem IsReadable.readsStatements (hnames : ∀ t ∈ names, IsName t ∧ t ≠ "printf")
    (h : s.IsReadable names inLoop) : ReadsStatements s.text s.skeletons := by
  have hexpr {e : Expr} (he : e.IsOver names) : e.IsReadable :=
    he.isReadable fun t ht ↦ (hnames t ht).1
  induction h with
  | assign ht he =>
    exact (readsStatement_assign (hnames _ ht).1 (hnames _ ht).2 (hexpr he)).single
  | nextRound => exact readsStatement_nextRound.single
  | exitLoop => exact readsStatement_exitLoop.single
  | exitFunction => exact readsStatement_exitFunction.single
  | print he => exact (readsStatement_print (hexpr he)).single
  | ifThen hc _ ih =>
    rw [text_ifThen]
    exact (readsStatement_ifThen (hexpr hc) (readsStatement_braced ih)).single
  | ifElse hc _ _ ihyes ihno =>
    rw [text_ifElse]
    exact (readsStatement_ifElse (hexpr hc) ihyes (readsStatement_braced ihno)).single
  | scope _ ih => exact (readsStatement_braced (readsStatements_onLines ih)).single
  | loop _ ih =>
    rw [text_loop]
    exact (readsStatement_loop (readsStatement_braced (readsStatements_onLines ih))).single
  | @sequence _ parts _ ih =>
    rw [text, skeletons]
    split
    · exact readsStatement_empty.single
    · exact readsStatements_onLines ih

end Stmt

/-- **What a text of statements is read as.** -/
theorem ReadsStatements.read?_eq (h : ReadsStatements t ss) : Skeleton.read? t = some ss := by
  have hread : statements? (t.length + 1) (t ++ []) = some (ss, []) :=
    h.statements?_eq rfl rfl (Nat.lt_succ_self _)
  rw [List.append_nil] at hread
  rw [Skeleton.read?, hread]
  rfl

end StructuredIL.C
