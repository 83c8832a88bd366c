import Mathlib.Tactic.IntervalCases
import StructuredIL.C.Code

/-!
# Reading a text as tokens

The texts that are generated are read back as C here, from the front, one code point after the
other. A token is known to be over only when something comes that cannot be part of it, so the
reader keeps what it has read of the last token as `Pending`. A token goes on as long as it can, as
in C: letters and digits after a digit belong to the number, and two operators without a blank
between them are one. What is no token of this part of C stops the reading.

Two relations carry everything that is said of longer texts. `Reads t ts` says that `t` is a text
with nothing pending at its end, and `ReadsOpen t ts` that it ends in a word or a number, which is
over as soon as a blank or a mark follows. Both are put together by appending.

A text that is an identifier is read as one word (`readsOpen_word`), and nothing else is read as
a word (`areSpelled_of_tokens?`).
-/

namespace StructuredIL.C

/-! ### Tokens -/

/-- A mark. -/
inductive Mark where
  /-- An opening parenthesis. -/
  | openParen
  /-- A closing parenthesis. -/
  | closeParen
  /-- An opening brace. -/
  | openBrace
  /-- A closing brace. -/
  | closeBrace
  /-- A semicolon. -/
  | semicolon
  /-- A comma. -/
  | comma
  /-- An equals sign. -/
  | assign
  /-- A plus sign. -/
  | plus
  /-- A minus sign. -/
  | minus
  /-- A comparison. -/
  | relation (rel : Relation)
  deriving DecidableEq, Repr

/-- A token. -/
inductive Token where
  /-- What follows a `#` on its line. -/
  | directive (text : Text)
  /-- A word. -/
  | word (text : Text)
  /-- A number, or what begins like one. -/
  | number (text : Text)
  /-- What stands between quotes, as it is written. -/
  | quoted (text : Text)
  /-- A mark. -/
  | mark (m : Mark)
  deriving DecidableEq, Repr

/-- Whether a character may begin a word. -/
def isLetter (c : Char) : Bool := c.isAlpha || c == '_'

/-- Whether a character may be in a word. -/
def isWordChar (c : Char) : Bool := c.isAlphanum || c == '_'

/-- Whether a character only separates. -/
def isBlank (c : Char) : Bool := c == ' ' || c == '\n'

/-- The marks that are over at once. -/
def markOf? : CodePoint → Option Mark
  | .char '(' => some .openParen
  | .char ')' => some .closeParen
  | .char '\x7b' => some .openBrace
  | .char '\x7d' => some .closeBrace
  | .char ';' => some .semicolon
  | .char ',' => some .comma
  | _ => none

/-- Whether a character may be in an operator. -/
def isOperatorChar (c : Char) : Bool :=
  c == '=' || c == '+' || c == '-' || c == '<' || c == '>'

/-- The mark of an operator. -/
def operatorOf? : Text → Option Mark
  | [.char '='] => some .assign
  | [.char '+'] => some .plus
  | [.char '-'] => some .minus
  | [.char '=', .char '='] => some (.relation .equal)
  | [.char '<'] => some (.relation .less)
  | [.char '>'] => some (.relation .greater)
  | [.char '>', .char '='] => some (.relation .atLeast)
  | _ => none

/-! ### The reader -/

/-- What has been read of the last token. -/
inductive Pending where
  /-- Nothing: every token is over. -/
  | nothing
  /-- Part of a line with a directive. -/
  | directive (read : Text)
  /-- Part of a word. -/
  | word (read : Text)
  /-- Part of a number. -/
  | number (read : Text)
  /-- Part of what stands between quotes; `escaped` says that the last code point takes the next
  with it. -/
  | quoted (read : Text) (escaped : Bool)
  /-- All of what stands between quotes. -/
  | closed (read : Text)
  /-- Part of an operator. -/
  | operator (read : Text)
  deriving DecidableEq, Repr

namespace Pending

/-- The token that is over now, if there is one and it is one. -/
def tokens? : Pending → Option (List Token)
  | nothing => some []
  | directive t => some [.directive t]
  | word t => some [.word t]
  | number t => some [.number t]
  | quoted _ _ => none
  | closed t => some [.quoted t]
  | operator t => (operatorOf? t).map fun m ↦ [.mark m]

/-- The last token with one more code point, if it goes on. -/
def extend? (p : CodePoint) : Pending → Option Pending
  | nothing => none
  | directive t => if p = .char '\n' then none else some (directive (t ++ [p]))
  | word t => if p.is isWordChar then some (word (t ++ [p])) else none
  | number t => if p.is isWordChar || p == .char '.' then some (number (t ++ [p])) else none
  | quoted t escaped =>
    if escaped then some (quoted (t ++ [p]) false)
    else if p = .char '"' then some (closed t)
    else if p = .char '\n' then none
    else some (quoted (t ++ [p]) (p == .char '\\'))
  | closed _ => none
  | operator t => if p.is isOperatorChar then some (operator (t ++ [p])) else none

/-- What a code point begins: a token that may go on, and those that are over. -/
def begin? (p : CodePoint) : Option (Pending × List Token) :=
  if p.is isBlank then some (nothing, [])
  else if p.is isLetter then some (word [p], [])
  else if p.is Char.isDigit then some (number [p], [])
  else if p.is isOperatorChar then some (operator [p], [])
  else if p = .char '"' then some (quoted [] false, [])
  else if p = .char '#' then some (directive [], [])
  else (markOf? p).map fun m ↦ (nothing, [.mark m])

/-- Reads one code point. -/
def feed (q : Pending) (p : CodePoint) : Option (Pending × List Token) :=
  match q.extend? p with
  | some q => some (q, [])
  | none => do
    let ts ← q.tokens?
    let x ← begin? p
    return (x.1, ts ++ x.2)

theorem feed_of_extend?_eq_none {q : Pending} {p : CodePoint} {ts : List Token}
    (h : q.extend? p = none) (hts : q.tokens? = some ts) :
    q.feed p = (begin? p).map fun x ↦ (x.1, ts ++ x.2) := by
  rw [feed, h, hts]
  cases begin? p <;> rfl

/-- Reads a text. -/
def run (q : Pending) : Text → Option (Pending × List Token)
  | [] => some (q, [])
  | p :: rest => do
    let x ← q.feed p
    let y ← run x.1 rest
    return (y.1, x.2 ++ y.2)

theorem run_cons_eq_some {q : Pending} {p : CodePoint} {rest : Text} {z : Pending × List Token} :
    q.run (p :: rest) = some z ↔
      ∃ x y, q.feed p = some x ∧ x.1.run rest = some y ∧ (y.1, x.2 ++ y.2) = z := by
  simp [run, Option.bind_eq_some_iff]

theorem run_append {q r s : Pending} {t u : Text} {ts us : List Token}
    (ht : q.run t = some (r, ts)) (hu : r.run u = some (s, us)) :
    q.run (t ++ u) = some (s, ts ++ us) := by
  induction t generalizing q ts with
  | nil =>
    cases ht
    exact hu
  | cons p rest ih =>
    obtain ⟨x, y, hx, hy, hz⟩ := run_cons_eq_some.1 ht
    cases hz
    exact run_cons_eq_some.2 ⟨x, _, hx, ih hy, by simp⟩

end Pending

/-- The tokens of a text. -/
def tokens? (t : Text) : Option (List Token) := do
  let x ← Pending.nothing.run t
  let ts ← x.1.tokens?
  return x.2 ++ ts

/-! ### Reading longer texts -/

/-- A text with these tokens, and nothing pending at its end. -/
def Reads (t : Text) (ts : List Token) : Prop := Pending.nothing.run t = some (.nothing, ts)

/-- A text with these tokens of which the last is a word or a number. -/
def ReadsOpen (t : Text) (ts : List Token) : Prop :=
  ∃ q front last, Pending.nothing.run t = some (q, front) ∧ q.tokens? = some last ∧
    ts = front ++ last ∧ ∀ p : CodePoint, p.is isWordChar = false → p ≠ .char '.' →
      q.extend? p = none

/-- A code point that ends a word or a number. -/
def Separates (t : Text) : Prop :=
  ∃ p rest, t = p :: rest ∧ p.is isWordChar = false ∧ p ≠ .char '.'

variable {t u v : Text} {ts us vs : List Token}

theorem Reads.tokens?_eq (h : Reads t ts) : tokens? t = some ts := by
  rw [tokens?, h]
  simp [Pending.tokens?]

theorem ReadsOpen.tokens?_eq (h : ReadsOpen t ts) : tokens? t = some ts := by
  obtain ⟨q, front, last, hrun, hlast, rfl, -⟩ := h
  rw [tokens?, hrun]
  simp [hlast]

theorem reads_nil : Reads [] [] := rfl

theorem Reads.append (ht : Reads t ts) (hu : Reads u us) : Reads (t ++ u) (ts ++ us) :=
  Pending.run_append ht hu

theorem Reads.append_open (ht : Reads t ts) (hu : ReadsOpen u us) :
    ReadsOpen (t ++ u) (ts ++ us) := by
  obtain ⟨q, front, last, hrun, hlast, rfl, hends⟩ := hu
  exact ⟨q, ts ++ front, last, Pending.run_append ht hrun, hlast,
    (List.append_assoc ..).symm, hends⟩

/-- What separates ends the last token. -/
theorem ReadsOpen.append (ht : ReadsOpen t ts) (hsep : Separates u) (hu : Reads u us) :
    Reads (t ++ u) (ts ++ us) := by
  obtain ⟨q, front, last, hrun, hlast, rfl, hends⟩ := ht
  obtain ⟨p, rest, rfl, hword, hpoint⟩ := hsep
  rw [List.append_assoc]
  refine Pending.run_append hrun ?_
  -- the last token of `t` is given out with the first step into `u`
  obtain ⟨x, y, hx, hy, hxy⟩ := Pending.run_cons_eq_some.1 hu
  obtain ⟨hnothing, rfl⟩ := Prod.mk.inj hxy
  rw [Pending.feed_of_extend?_eq_none rfl rfl] at hx
  obtain ⟨z, hz, rfl⟩ := Option.map_eq_some_iff.1 hx
  refine Pending.run_cons_eq_some.2 ⟨(z.1, last ++ z.2), y, ?_, hy, by simp [hnothing]⟩
  rw [Pending.feed_of_extend?_eq_none (hends p hword hpoint) hlast, hz]
  rfl

/-! ### Words and numbers -/

/-- Whether a text is a word. -/
def isIdentifier : Text → Bool
  | [] => false
  | p :: rest => p.is isLetter && rest.all (CodePoint.is isWordChar)

theorem exists_of_is {p : CodePoint} {f : Char → Bool} (h : p.is f = true) :
    ∃ c, p = .char c ∧ f c = true := by
  cases p with
  | half d => cases h
  | char c => exact ⟨c, rfl, h⟩

/-- What holds neither of a blank nor of a line end holds of nothing that only separates. -/
theorem not_isBlank_of {c : Char} {f : Char → Bool} (hblank : f ' ' = false)
    (hline : f '\n' = false) (h : f c = true) : isBlank c = false := by
  refine eq_false_of_ne_true fun hc ↦ ?_
  rcases Bool.or_eq_true_iff.1 hc with hc | hc
  · obtain rfl := beq_iff_eq.1 hc
    exact absurd h (by rw [hblank]; decide)
  · obtain rfl := beq_iff_eq.1 hc
    exact absurd h (by rw [hline]; decide)

/-- Letters come after the digits. -/
theorem toNat_of_isAlpha {c : Char} (h : c.isAlpha = true) : '9'.toNat < c.toNat := by
  rcases Bool.or_eq_true_iff.1 h with hupper | hlower
  · have hfrom : 'A'.toNat ≤ c.toNat := UInt32.le_iff_toNat_le.1 (of_decide_eq_true hupper).1
    exact Nat.lt_of_lt_of_le (by decide) hfrom
  · have hfrom : 'a'.toNat ≤ c.toNat :=
      UInt32.le_iff_toNat_le.1 (of_decide_eq_true (Bool.and_eq_true_iff.1 hlower).1)
    exact Nat.lt_of_lt_of_le (by decide) hfrom

theorem not_isLetter_of_isDigit {c : Char} (h : c.isDigit = true) : isLetter c = false := by
  have hdigit : c.toNat ≤ '9'.toNat := (Char.isDigit_iff_toNat.1 h).2
  refine eq_false_of_ne_true fun hc ↦ ?_
  rcases Bool.or_eq_true_iff.1 hc with hletter | hunderscore
  · have hbehind := toNat_of_isAlpha hletter
    omega
  · obtain rfl := beq_iff_eq.1 hunderscore
    exact absurd hdigit (by decide)

theorem isWordChar_of_isLetter {c : Char} (h : isLetter c = true) : isWordChar c = true := by
  rw [isLetter, Bool.or_eq_true] at h
  rw [isWordChar, Char.isAlphanum, Bool.or_eq_true, Bool.or_eq_true]
  exact h.imp_left .inl

/-- Every character of an identifier may be in a word. -/
theorem isWordChar_of_isIdentifier (h : isIdentifier t = true) :
    ∀ p ∈ t, p.is isWordChar = true := by
  obtain _ | ⟨p, rest⟩ := t
  · cases h
  obtain ⟨hp, hrest⟩ := Bool.and_eq_true_iff.1 h
  obtain ⟨c, rfl, hc⟩ := exists_of_is hp
  exact List.forall_mem_cons.2 ⟨isWordChar_of_isLetter hc, List.all_eq_true.1 hrest⟩

/-- A token that may have letters and digits in it takes all that come. -/
theorem Pending.run_extend {f : Text → Pending} {rest : Text}
    (hf : ∀ read p, p.is isWordChar = true → (f read).extend? p = some (f (read ++ [p])))
    (h : ∀ p ∈ rest, p.is isWordChar = true) (read : Text) :
    (f read).run rest = some (f (read ++ rest), []) := by
  induction rest generalizing read with
  | nil => simp [run]
  | cons p rest ih =>
    have hp : (f read).feed p = some (f (read ++ [p]), []) := by
      rw [feed, hf read p (h p (List.mem_cons_self ..))]
    have hrest := ih (fun r hr ↦ h r (List.mem_cons_of_mem _ hr)) (read ++ [p])
    exact run_cons_eq_some.2 ⟨_, _, hp, hrest, by simp⟩

theorem readsOpen_word (h : isIdentifier t = true) : ReadsOpen t [.word t] := by
  cases t with
  | nil => cases h
  | cons p rest =>
    rw [isIdentifier, Bool.and_eq_true, List.all_eq_true] at h
    obtain ⟨hp, hrest⟩ := h
    have hbegin : Pending.nothing.feed p = some (.word [p], []) := by
      obtain ⟨c, rfl, hc⟩ := exists_of_is hp
      have hblank : isBlank c = false := not_isBlank_of rfl rfl hc
      rw [Pending.feed_of_extend?_eq_none rfl rfl, Pending.begin?]
      simp [hblank, hc]
    have hrun := Pending.run_extend (fun read p hp ↦ by simp [Pending.extend?, hp]) hrest [p]
      (f := .word)
    refine ⟨.word (p :: rest), [], _, Pending.run_cons_eq_some.2 ⟨_, _, hbegin, hrun, rfl⟩, rfl,
      rfl, fun r hr _ ↦ ?_⟩
    simp [Pending.extend?, hr]

/-- Whether a text is all digits. -/
def isDigits (t : Text) : Bool := !t.isEmpty && t.all (CodePoint.is Char.isDigit)

theorem isWordChar_of_isDigit {p : CodePoint} (h : p.is Char.isDigit = true) :
    p.is isWordChar = true := by
  cases p with
  | half d => cases h
  | char c =>
    rw [CodePoint.is_char] at h
    simp [isWordChar, Char.isAlphanum, h]

/-- Digits begin a number and go on to its end, whatever token is over before it. -/
theorem Pending.run_digits {q : Pending} (ht : isDigits t = true)
    (hq : ∀ c : Char, c.isDigit = true → q.extend? (.char c) = none) (hts : q.tokens? = some ts) :
    q.run t = some (.number t, ts) := by
  cases t with
  | nil => cases ht
  | cons p rest =>
    rw [isDigits, List.all_cons, List.isEmpty_cons, Bool.not_false, Bool.true_and,
      Bool.and_eq_true, List.all_eq_true] at ht
    obtain ⟨hp, hrest⟩ := ht
    obtain ⟨c, rfl, hc⟩ := exists_of_is hp
    have hblank : isBlank c = false := not_isBlank_of rfl rfl hc
    have hletter : isLetter c = false := not_isLetter_of_isDigit hc
    have hbegin : q.feed (.char c) = some (.number [.char c], ts) := by
      rw [feed_of_extend?_eq_none (hq c hc) hts, begin?]
      simp [hblank, hletter, hc]
    have hrun := run_extend (fun read p hp ↦ by simp [extend?, hp])
      (fun r hr ↦ isWordChar_of_isDigit (hrest r hr)) [.char c] (f := .number)
    exact run_cons_eq_some.2 ⟨_, _, hbegin, hrun, by simp⟩

theorem extend?_number {p : CodePoint} (hword : p.is isWordChar = false) (hpoint : p ≠ .char '.') :
    (Pending.number t).extend? p = none := by
  simp [Pending.extend?, hword, hpoint]

/-! ### Decimal numbers -/

/-- The number that some digits stand for. A zero in front would make them octal. -/
def decimal? (t : Text) : Option Nat := do
  let cs ← Text.chars? t
  if cs.all Char.isDigit && (cs == ['0'] || !(cs.head? == some '0')) then
    return Nat.ofDigitChars 10 cs 0
  else none

theorem head?_toDigits {n : Nat} (h : n ≠ 0) : (Nat.toDigits 10 n).head? ≠ some '0' := by
  -- the first digit of a number is that of its tenth, down to one digit
  induction n using Nat.strongRecOn with
  | ind n ih =>
    by_cases hn : n < 10
    · rw [Nat.toDigits_of_lt_base hn]
      interval_cases n <;> simp_all [Nat.digitChar]
    · have hdiv : n / 10 ≠ 0 := by omega
      rw [Nat.toDigits_of_base_le (by omega) (by omega), List.head?_append]
      obtain ⟨c, cs, hc⟩ := List.exists_cons_of_ne_nil (Nat.toDigits_ne_nil (n := n / 10) (b := 10))
      have hrest := ih (n / 10) (by omega) hdiv
      rw [hc] at hrest ⊢
      exact hrest

theorem decimal?_repr (n : Nat) : decimal? (Text.ofString n.repr) = some n := by
  have hdigits : (Nat.toDigits 10 n).all Char.isDigit = true :=
    List.all_eq_true.2 fun c hc ↦ Nat.isDigit_of_mem_toDigits (by omega) (by omega) hc
  have hfirst :
      (Nat.toDigits 10 n == ['0'] || !((Nat.toDigits 10 n).head? == some '0')) = true := by
    by_cases h : n = 0
    · subst h
      rfl
    · simp [head?_toDigits h]
  rw [decimal?, Text.ofString, Nat.toList_repr, Text.chars?_ofChars, Option.bind_eq_bind,
    Option.bind_some, hdigits, hfirst]
  simp

/-- The tokens of an integer. -/
def integerTokens : Int → List Token
  | .ofNat n => [.number n.repr]
  | .negSucc n => [.mark .minus, .number (n + 1).repr]

theorem isDigits_repr (n : Nat) : isDigits (Text.ofString n.repr) = true := by
  rw [isDigits, Text.ofString, Nat.toList_repr, Text.ofChars, List.all_map, List.isEmpty_map,
    Bool.and_eq_true]
  refine ⟨by simp [Nat.toDigits_ne_nil], List.all_eq_true.2 fun c hc ↦ ?_⟩
  exact Nat.isDigit_of_mem_toDigits (by omega) (by omega) hc

theorem ofString_negSucc (n : Nat) :
    Text.ofString (toString (Int.negSucc n)) = .char '-' :: Text.ofString (n + 1).repr := by
  rw [Int.toString_eq_repr, Int.repr, Text.ofString_append]
  rfl

theorem readsOpen_integer (value : Int) :
    ReadsOpen (Text.ofString (toString value)) (integerTokens value) := by
  cases value with
  | ofNat n =>
    have hrun := Pending.run_digits (q := .nothing) (isDigits_repr n) (fun _ _ ↦ rfl) rfl
    exact ⟨_, _, _, hrun, rfl, rfl, fun p ↦ extend?_number⟩
  | negSucc n =>
    -- the sign is over when the first digit comes
    have hsign : ∀ c : Char, c.isDigit = true →
        (Pending.operator [.char '-']).extend? (.char c) = none := by
      intro c hc
      have hoperator : isOperatorChar c = false := by
        refine eq_false_of_ne_true fun h ↦ ?_
        simp only [isOperatorChar, Bool.or_eq_true, beq_iff_eq] at h
        rcases h with (((rfl | rfl) | rfl) | rfl) | rfl <;> cases hc
      simp [Pending.extend?, hoperator]
    have hrun : (Pending.operator [.char '-']).run (Text.ofString (n + 1).repr) =
        some (.number (n + 1).repr, [.mark .minus]) :=
      Pending.run_digits (isDigits_repr (n + 1)) hsign rfl
    rw [ofString_negSucc]
    exact ⟨_, _, _, Pending.run_cons_eq_some.2 ⟨_, _, rfl, hrun, rfl⟩, rfl, rfl,
      fun p ↦ extend?_number⟩

/-! ### The words of a text -/

theorem isIdentifier_append {p : CodePoint} (h : isIdentifier t = true)
    (hp : p.is isWordChar = true) : isIdentifier (t ++ [p]) = true := by
  cases t with
  | nil => cases h
  | cons q rest =>
    rw [isIdentifier, Bool.and_eq_true] at h
    rw [List.cons_append, isIdentifier, h.1, List.all_append, h.2]
    simp [hp]

/-- What is pending is part of an identifier, if it is part of a word. -/
def Pending.IsSpelled : Pending → Prop
  | word t => isIdentifier t = true
  | _ => True

/-- Every word among some tokens is an identifier. -/
def AreSpelled (ts : List Token) : Prop := ∀ w, .word w ∈ ts → isIdentifier w = true

theorem AreSpelled.append (ht : AreSpelled ts) (hu : AreSpelled us) : AreSpelled (ts ++ us) :=
  fun w hw ↦ (List.mem_append.1 hw).elim (ht w) (hu w)

theorem Pending.IsSpelled.tokens? {q : Pending} (hq : q.IsSpelled) (h : q.tokens? = some ts) :
    AreSpelled ts := by
  cases q with
  | word t =>
    cases h
    intro w hw
    obtain rfl := Token.word.inj (List.mem_singleton.1 hw)
    exact hq
  | operator t =>
    obtain ⟨m, -, rfl⟩ := Option.map_eq_some_iff.1 h
    exact fun w hw ↦ nomatch List.mem_singleton.1 hw
  | quoted t escaped => cases h
  | nothing =>
    cases h
    exact nofun
  | _ =>
    cases h
    exact fun w hw ↦ nomatch List.mem_singleton.1 hw

theorem Pending.IsSpelled.extend? {q r : Pending} {p : CodePoint} (hq : q.IsSpelled)
    (h : q.extend? p = some r) : r.IsSpelled := by
  cases q with
  | word t =>
    rw [Pending.extend?] at h
    split at h
    · cases h
      exact isIdentifier_append hq ‹_›
    · cases h
  | _ => grind [Pending.extend?, Pending.IsSpelled]

theorem Pending.isSpelled_of_begin? {p : CodePoint} {x : Pending × List Token}
    (h : begin? p = some x) : x.1.IsSpelled ∧ AreSpelled x.2 := by
  rw [begin?] at h
  split at h
  · cases h
    exact ⟨trivial, nofun⟩
  split at h
  · cases h
    exact ⟨by simpa [IsSpelled, isIdentifier], nofun⟩
  -- what else begins a token is no letter
  iterate 4
    split at h
    · cases h
      exact ⟨trivial, nofun⟩
  obtain ⟨m, -, rfl⟩ := Option.map_eq_some_iff.1 h
  exact ⟨trivial, fun w hw ↦ nomatch List.mem_singleton.1 hw⟩

theorem Pending.isSpelled_of_feed {q : Pending} {p : CodePoint} {x : Pending × List Token}
    (hq : q.IsSpelled) (h : q.feed p = some x) : x.1.IsSpelled ∧ AreSpelled x.2 := by
  rw [feed] at h
  split at h
  · cases h
    exact ⟨hq.extend? ‹_›, nofun⟩
  · obtain ⟨ts, hts, h⟩ := Option.bind_eq_some_iff.1 h
    obtain ⟨y, hy, h⟩ := Option.bind_eq_some_iff.1 h
    cases h
    obtain ⟨hspelled, hbegun⟩ := isSpelled_of_begin? hy
    exact ⟨hspelled, (hq.tokens? hts).append hbegun⟩

theorem Pending.isSpelled_of_run {q : Pending} {z : Pending × List Token} (hq : q.IsSpelled)
    (h : q.run t = some z) : z.1.IsSpelled ∧ AreSpelled z.2 := by
  induction t generalizing q z with
  | nil =>
    cases h
    exact ⟨hq, nofun⟩
  | cons p rest ih =>
    obtain ⟨x, y, hx, hy, rfl⟩ := run_cons_eq_some.1 h
    obtain ⟨hspelled, hwords⟩ := isSpelled_of_feed hq hx
    obtain ⟨hspelled, hrest⟩ := ih hspelled hy
    exact ⟨hspelled, hwords.append hrest⟩

/-- **Every word that is read is an identifier.** -/
theorem areSpelled_of_tokens? (h : tokens? t = some ts) : AreSpelled ts := by
  obtain ⟨x, hx, h⟩ := Option.bind_eq_some_iff.1 h
  obtain ⟨us, hus, h⟩ := Option.bind_eq_some_iff.1 h
  cases h
  obtain ⟨hspelled, hwords⟩ := Pending.isSpelled_of_run (q := .nothing) trivial hx
  exact hwords.append (hspelled.tokens? hus)

end StructuredIL.C
