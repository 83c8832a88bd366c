import StructuredIL.Proofs.C.Number
import StructuredIL.Proofs.C.Token

/-!
# Reading an expression

An expression without parentheses is a chain: an operand, and then operators with an operand each.
How a chain is grouped is decided by C alone. A sum binds its operands before a comparison by order
does, and that before a comparison for equality; on one level the chain is grouped from the left.
`Chain.group` does one level after the other, and on each it puts neighbours together from left to
right. It is the same for trees, for values and for whatever else operands may be, so the value of
an expression that is read is found by grouping the values of its operands (`Chain.map_group`).

An `Expr` has a grouping of its own, which its text does not show. What its text is read as is its
chain, grouped by C (`Expr.read?_text`).

The value of a term in C is a number of the type that the term has (`Term.number?`). It depends on
the types of the constants in it. If all of them were `int`s all numbers would be, and the value
would be that of an arithmetic of 32 bits (`Term.value`).
-/

namespace StructuredIL.C

/-! ### Operators -/

/-- An operator between two operands. -/
inductive Operator where
  /-- A sum. -/
  | plus
  /-- A comparison. -/
  | relation (rel : Relation)
  deriving DecidableEq, Repr

namespace Operator

/-- The value of an operation: a sum wraps around, a comparison is one or zero. -/
def apply : Operator → Number → Number → Number
  | plus, a, b => a.add b
  | relation rel, a, b => a.compare rel b

/-- The value of an operation on `int`s. -/
def onInts (o : Operator) (a b : Int32) : Int32 := (o.apply (.ofInt32 a) (.ofInt32 b)).toInt32

theorem onInts_plus (a b : Int32) : onInts plus a b = a + b := by
  rw [onInts, apply, Number.add_ofInt32, Number.toInt32_ofInt32]

theorem onInts_relation (rel : Relation) (a b : Int32) :
    onInts (relation rel) a b = if rel.holds a.toInt b.toInt then 1 else 0 := by
  rw [onInts, apply, Number.compare_eq, Number.toInt_ofInt32, Number.toInt_ofInt32]
  cases rel.holds a.toInt b.toInt <;> rfl

/-- An operation on `int`s is an `int`. -/
theorem apply_ofInt32 (o : Operator) (a b : Int32) :
    o.apply (.ofInt32 a) (.ofInt32 b) = .ofInt32 (o.onInts a b) := by
  have htype : (o.apply (.ofInt32 a) (.ofInt32 b)).type = .int := by cases o <;> rfl
  exact Number.eq_ofInt32 htype

/-- The mark of an operator. -/
def mark : Operator → Mark
  | plus => .plus
  | relation rel => .relation rel

/-- The operator of a mark, if it has one. -/
def ofMark? : Mark → Option Operator
  | .plus => some plus
  | .relation rel => some (relation rel)
  | _ => none

theorem ofMark?_mark (o : Operator) : ofMark? o.mark = some o := by
  cases o <;> rfl

/-- Whether an operator is a sum. -/
def isSum : Operator → Bool
  | plus => true
  | relation _ => false

/-- Whether an operator compares by order. -/
def isOrder : Operator → Bool
  | plus => false
  | relation rel => rel != .equal

/-- Whether an operator compares for equality. -/
def isEquality : Operator → Bool
  | plus => false
  | relation rel => rel == .equal

end Operator

/-! ### Chains -/

/-- An operand, and then operators with an operand each. -/
structure Chain (α : Type) where
  /-- The first operand. -/
  first : α
  /-- The operators and the other operands. -/
  rest : List (Operator × α)

namespace Chain

variable {α β : Type}

/-- One operand. -/
def single (a : α) : Chain α := ⟨a, []⟩

/-- Two chains with an operator between them. -/
def join (o : Operator) (c d : Chain α) : Chain α := ⟨c.first, c.rest ++ (o, d.first) :: d.rest⟩

/-- The same for every operand. -/
def map (f : α → β) (c : Chain α) : Chain β := ⟨f c.first, c.rest.map fun x ↦ (x.1, f x.2)⟩

/-- Something holds of all operands. -/
def All (P : α → Prop) (c : Chain α) : Prop := P c.first ∧ ∀ x ∈ c.rest, P x.2

/-- Puts neighbours together from the left, where they stand beside an operator of one level. -/
def gather (here : Operator → Bool) (combine : Operator → α → α → α) :
    α → List (Operator × α) → Chain α
  | a, [] => single a
  | a, (o, b) :: rest =>
    if here o then gather here combine (combine o a b) rest
    else
      let c := gather here combine b rest
      ⟨a, (o, c.first) :: c.rest⟩

/-- A chain with one level of operators done. -/
def level (here : Operator → Bool) (combine : Operator → α → α → α) (c : Chain α) : Chain α :=
  gather here combine c.first c.rest

/-- **The grouping of C**: sums first, then comparisons by order, then comparisons for equality. -/
def group (combine : Operator → α → α → α) (c : Chain α) : α :=
  (((c.level Operator.isSum combine).level Operator.isOrder combine).level
    Operator.isEquality combine).first

section Map

variable {f : α → β} {combine : Operator → α → α → α} {combine' : Operator → β → β → β}

@[simp] theorem map_single (a : α) : (single a).map f = single (f a) := rfl

@[simp] theorem map_join (o : Operator) (c d : Chain α) :
    (join o c d).map f = join o (c.map f) (d.map f) := by
  simp [join, map]

theorem map_level (here : Operator → Bool)
    (hf : ∀ o a b, f (combine o a b) = combine' o (f a) (f b)) (c : Chain α) :
    (c.level here combine).map f = (c.map f).level here combine' := by
  obtain ⟨a, rest⟩ := c
  rw [level, level]
  -- the first operand is what has been gathered so far, so it is not kept fixed
  induction rest generalizing a with
  | nil => rfl
  | cons x rest ih =>
    rcases x with ⟨o, b⟩
    by_cases ho : here o = true
    · simpa [gather, ho, map, hf] using ih (combine o a b)
    · have hrest := ih b
      simp only [map, List.map_cons, gather, ho] at hrest ⊢
      simp [← hrest]

/-- **A function that respects the operators respects the grouping.** -/
theorem map_group (hf : ∀ o a b, f (combine o a b) = combine' o (f a) (f b)) (c : Chain α) :
    f (c.group combine) = (c.map f).group combine' := by
  rw [group, group, ← map_level _ hf, ← map_level _ hf, ← map_level _ hf]
  rfl

end Map

/-! ### One level -/

section Level

variable {here : Operator → Bool} {combine : Operator → α → α → α} {o : Operator} {c d : Chain α}
  {a b s t : α} {xs ys : List (Operator × α)}

theorem gather_append (ho : here o = false) :
    gather here combine a (xs ++ (o, b) :: ys) =
      join o (gather here combine a xs) (gather here combine b ys) := by
  induction xs generalizing a with
  | nil => simp [gather, ho, join, single]
  | cons x xs ih =>
    obtain ⟨p, e⟩ := x
    by_cases hp : here p = true
    · simp only [List.cons_append, gather, hp, if_true]
      exact ih
    · simp [gather, hp, ih, join]

/-- An operator of another level keeps what is on its two sides apart. -/
theorem level_join (ho : here o = false) :
    (join o c d).level here combine = join o (c.level here combine) (d.level here combine) :=
  gather_append ho

theorem gather_append_of_eq_single (h : gather here combine a xs = single s)
    (ys : List (Operator × α)) :
    gather here combine a (xs ++ ys) = gather here combine s ys := by
  induction xs generalizing a with
  | nil =>
    obtain rfl : a = s := congrArg Chain.first h
    rfl
  | cons x xs ih =>
    obtain ⟨p, e⟩ := x
    by_cases hp : here p = true
    · simp only [List.cons_append, gather, hp, if_true] at h ⊢
      exact ih h
    · simp [gather, hp, single] at h

/-- On its level, an operator takes what is done on its left, and the next operand. -/
theorem level_join_single (ho : here o = true) (hc : c.level here combine = single s) :
    (join o c (single b)).level here combine = single (combine o s b) := by
  have hgather := gather_append_of_eq_single hc [(o, b)]
  rw [gather, if_pos ho] at hgather
  exact hgather

theorem gather_combine (hassoc : ∀ p, here p = true → ∀ a b e,
      combine p (combine o a b) e = combine o a (combine p b e))
    (h : gather here combine b ys = single t) :
    gather here combine (combine o s b) ys = single (combine o s t) := by
  induction ys generalizing b with
  | nil =>
    obtain rfl : b = t := congrArg Chain.first h
    rfl
  | cons y ys ih =>
    obtain ⟨p, e⟩ := y
    by_cases hp : here p = true
    · rw [gather, if_pos hp] at h ⊢
      rw [hassoc p hp]
      exact ih h
    · simp [gather, hp, single] at h

/-- Where the operators of a level are associative, what is on the right may be done first. -/
theorem level_join_of_assoc (ho : here o = true) (hassoc : ∀ p, here p = true → ∀ a b e,
      combine p (combine o a b) e = combine o a (combine p b e))
    (hc : c.level here combine = single s) (hd : d.level here combine = single t) :
    (join o c d).level here combine = single (combine o s t) := by
  have hgather := gather_append_of_eq_single hc ((o, d.first) :: d.rest)
  rw [gather, if_pos ho, gather_combine hassoc hd] at hgather
  exact hgather

theorem All.mono {P Q : α → Prop} (h : c.All P) (hPQ : ∀ b, P b → Q b) : c.All Q :=
  ⟨hPQ _ h.1, fun x hx ↦ hPQ _ (h.2 x hx)⟩

theorem All.join {P : α → Prop} (hc : c.All P) (hd : d.All P) : (Chain.join o c d).All P :=
  ⟨hc.1, List.forall_mem_append.2 ⟨hc.2, List.forall_mem_cons.2 hd⟩⟩

/-- What a level makes of its operands: each is gathered from the left. -/
theorem All.level {P Q : α → Prop} (hP : ∀ b, P b → Q b)
    (hcombine : ∀ o a b, here o = true → Q a → P b → Q (combine o a b)) (h : c.All P) :
    (c.level here combine).All Q := by
  obtain ⟨a, xs⟩ := c
  obtain ⟨ha, hxs⟩ := h
  -- from here on the first operand may be one that was put together
  replace ha : Q a := hP a ha
  show (gather here combine a xs).All Q
  dsimp only at hxs
  induction xs generalizing a with
  | nil => exact ⟨ha, nofun⟩
  | cons x xs ih =>
    obtain ⟨o, b⟩ := x
    obtain ⟨hb, hxs⟩ := List.forall_mem_cons.1 hxs
    by_cases ho : here o = true
    · rw [gather, if_pos ho]
      exact ih _ hxs (hcombine o a b ho ha hb)
    · obtain ⟨hfirst, hrest⟩ := ih b hxs (hP b hb)
      rw [gather, if_neg ho]
      exact ⟨ha, List.forall_mem_cons.2 ⟨hfirst, hrest⟩⟩

theorem All.group {P : α → Prop} (hcombine : ∀ o a b, P a → P b → P (combine o a b))
    (h : c.All P) : P (c.group combine) := by
  have hlevel {here : Operator → Bool} {c : Chain α} (hc : c.All P) :
      (c.level here combine).All P :=
    hc.level (fun _ hb ↦ hb) fun o a b _ ↦ hcombine o a b
  exact (hlevel (hlevel (hlevel h))).1

end Level

/-! ### Operands in order -/

section Order

/-- The operands of a chain of lists, put together in order. -/
def flatten (c : Chain (List β)) : List β := c.first ++ c.rest.flatMap Prod.snd

/-- A level takes its operators out of the chain and leaves the others. -/
theorem map_fst_rest_level (here : Operator → Bool) (combine : Operator → α → α → α)
    (c : Chain α) : (c.level here combine).rest.map Prod.fst =
      (c.rest.map Prod.fst).filter fun o ↦ !here o := by
  obtain ⟨a, rest⟩ := c
  rw [level]
  induction rest generalizing a with
  | nil => rfl
  | cons x rest ih =>
    obtain ⟨o, b⟩ := x
    by_cases ho : here o = true
    · simpa [gather, ho] using ih (combine o a b)
    · simpa [gather, ho] using ih b

/-- Every operator is on one of the levels, so nothing is left in the end. -/
theorem group_eq_single (combine : Operator → α → α → α) (c : Chain α) :
    ((c.level Operator.isSum combine).level Operator.isOrder combine).level Operator.isEquality
      combine = single (c.group combine) := by
  have hlevels (o : Operator) : (!o.isSum && !o.isOrder && !o.isEquality) = false := by
    cases o with
    | plus => rfl
    | relation rel => cases rel <;> rfl
  have hrest : (((c.level Operator.isSum combine).level Operator.isOrder combine).level
      Operator.isEquality combine).rest = [] := by
    rw [← List.map_eq_nil_iff (f := Prod.fst)]
    simp only [map_fst_rest_level, List.filter_filter, List.filter_eq_nil_iff]
    intro o _
    simpa [Bool.and_comm, Bool.and_assoc] using hlevels o
  rw [group, single, ← hrest]

theorem flatten_level (here : Operator → Bool) (c : Chain (List β)) :
    (c.level here fun _ a b ↦ a ++ b).flatten = c.flatten := by
  obtain ⟨a, rest⟩ := c
  rw [level]
  induction rest generalizing a with
  | nil => rfl
  | cons x rest ih =>
    obtain ⟨o, b⟩ := x
    by_cases ho : here o = true
    · simpa [gather, ho, flatten] using ih (a ++ b)
    · simpa [gather, ho, flatten] using ih b

/-- **Grouping keeps the operands in order.** -/
theorem group_append (c : Chain (List β)) : (c.group fun _ a b ↦ a ++ b) = c.flatten := by
  have hflatten := congrArg flatten (group_eq_single (fun _ a b ↦ a ++ b) c)
  rw [flatten_level, flatten_level, flatten_level] at hflatten
  rw [hflatten]
  simp [flatten, single]

end Order

end Chain

/-! ### Terms -/

/-- An expression as it is read. -/
inductive Term where
  /-- An integer. -/
  | literal (value : Int)
  /-- A variable. -/
  | name (t : Text)
  /-- An operator between two operands. -/
  | operation (o : Operator) (left right : Term)
  deriving DecidableEq, Repr

namespace Term

/-- The value of a term, if constants have these types and these are the values of the variables.
A minus sign is not a part of a constant. -/
def evaluate? (typing : Nat → Option IntegerType) (σ : Text → Int32) : Term → Option Number
  | literal value => do return .ofInt (← typing value.natAbs) value
  | name t => some (.ofInt32 (σ t))
  | operation o l r => do return o.apply (← l.evaluate? typing σ) (← r.evaluate? typing σ)

/-- **The value of a term in C**, where a constant has the first type that holds it. -/
def number? (σ : Text → Int32) : Term → Option Number := evaluate? IntegerType.ofConstant? σ

/-- The value of a term in an arithmetic of 32 bits, in which every constant is an `int`. -/
def value (σ : Text → Int32) (t : Term) : Int32 :=
  match t.evaluate? (fun _ ↦ some .int) σ with
  | some a => a.toInt32
  | none => 0

section Value

variable {σ : Text → Int32}

/-- Where all constants are `int`s, so is everything else. -/
theorem evaluate?_int (t : Term) :
    t.evaluate? (fun _ ↦ some .int) σ = some (.ofInt32 (t.value σ)) := by
  suffices hint : ∃ a, t.evaluate? (fun _ ↦ some .int) σ = some (.ofInt32 a) by
    obtain ⟨a, ha⟩ := hint
    rw [value, ha]
    exact congrArg _ (congrArg _ (Number.toInt32_ofInt32 a).symm)
  induction t with
  | literal v => exact ⟨Int32.ofInt v, rfl⟩
  | name s => exact ⟨σ s, rfl⟩
  | operation o l r ihl ihr =>
    obtain ⟨a, ha⟩ := ihl
    obtain ⟨b, hb⟩ := ihr
    refine ⟨o.onInts a b, ?_⟩
    rw [evaluate?, ha, hb, ← Operator.apply_ofInt32]
    rfl

theorem value_literal (v : Int) : (literal v).value σ = Int32.ofInt v := by
  rw [← Number.toInt32_ofInt32 (Int32.ofInt v)]
  rfl

theorem value_name (s : Text) : (name s).value σ = σ s := by
  rw [← Number.toInt32_ofInt32 (σ s)]
  rfl

theorem value_operation (o : Operator) (l r : Term) :
    (operation o l r).value σ = o.onInts (l.value σ) (r.value σ) := by
  rw [value, evaluate?, evaluate?_int, evaluate?_int]
  rfl

end Value

end Term

/-- The words that are no names. -/
def keywords : List String := [
  "auto", "break", "case", "char", "const", "continue", "default", "do", "double", "else", "enum",
  "extern", "float", "for", "goto", "if", "inline", "int", "long", "register", "restrict", "return",
  "short", "signed", "sizeof", "static", "struct", "switch", "typedef", "union", "unsigned", "void",
  "volatile", "while", "_Alignas", "_Alignof", "_Atomic", "_Bool", "_Complex", "_Generic",
  "_Imaginary", "_Noreturn", "_Static_assert", "_Thread_local"]

/-- Whether a word is no name. -/
def isKeyword (t : Text) : Bool := keywords.any fun k ↦ Text.ofString k == t

/-- A name of C: a word that is no keyword. -/
def IsName (t : Text) : Prop := isIdentifier t = true ∧ isKeyword t = false

/-- The operand that begins some tokens, and the tokens behind it. -/
def operand? : List Token → Option (Term × List Token)
  | .word t :: rest => if isKeyword t then none else some (.name t, rest)
  | .number t :: rest => (decimal? t).map fun n ↦ (.literal n, rest)
  | .mark .minus :: .number t :: rest => (decimal? t).map fun n ↦ (.literal (-n), rest)
  | _ => none

/-- The chain that begins some tokens, and the tokens behind it. It has at most as many operands as
the bound says. -/
def chain? : Nat → List Token → Option (Chain Term × List Token)
  | 0, _ => none
  | n + 1, ts => do
    let x ← operand? ts
    match x.2 with
    | .mark m :: rest =>
      match Operator.ofMark? m with
      | some o =>
        let y ← chain? n rest
        return (Chain.join o (.single x.1) y.1, y.2)
      | none => return (.single x.1, x.2)
    | _ => return (.single x.1, x.2)

/-- The expression that begins some tokens, and the tokens behind it. -/
def term? (ts : List Token) : Option (Term × List Token) :=
  (chain? ts.length ts).map fun x ↦ (x.1.group .operation, x.2)

/-- The expression that a text is read as. -/
def Term.read? (t : Text) : Option Term := do
  let ts ← tokens? t
  let x ← term? ts
  if x.2.isEmpty then return x.1 else none

/-! ### Reading generated expressions -/

namespace Expr

/-- An expression that is no diagnostic, nor has one in it, and whose names are names. -/
def IsReadable : Expr → Prop
  | constant _ => True
  | variableName t => isIdentifier t = true ∧ isKeyword t = false
  | sum l r => l.IsReadable ∧ r.IsReadable
  | relation _ l r => l.IsReadable ∧ r.IsReadable
  | diagnostic _ => False

/-- The chain of an expression, in the order of the text. -/
def chain : Expr → Chain Term
  | constant value => .single (.literal value)
  | variableName t => .single (.name t)
  | sum l r => .join .plus l.chain r.chain
  | relation rel l r => .join (.relation rel) l.chain r.chain
  | diagnostic t => .single (.name t)

/-- An expression as C groups it. -/
def regrouped (e : Expr) : Term := e.chain.group .operation

/-- The tokens of an expression. -/
def tokens : Expr → List Token
  | constant value => integerTokens value
  | variableName t => [.word t]
  | sum l r => l.tokens ++ .mark .plus :: r.tokens
  | relation rel l r => l.tokens ++ .mark (.relation rel) :: r.tokens
  | diagnostic t => [.word t]

theorem readsOpen_text {e : Expr} (h : e.IsReadable) : ReadsOpen e.text e.tokens := by
  -- an operator stands between two blanks
  have hbetween {t u v : Text} {ts us : List Token} {m : Mark} (hv : Reads v [.mark m])
      (hsep : Separates v) (ht : ReadsOpen t ts) (hu : ReadsOpen u us) :
      ReadsOpen (t ++ v ++ u) (ts ++ .mark m :: us) := by
    rw [List.append_cons]
    exact (ht.append hsep hv).append_open hu
  induction e with
  | constant value => exact readsOpen_integer value
  | variableName t => exact readsOpen_word h.1
  | sum l r ihl ihr => exact hbetween rfl ⟨_, _, rfl, rfl, nofun⟩ (ihl h.1) (ihr h.2)
  | relation rel l r ihl ihr =>
    have hrel : Reads (Text.ofString " " ++ Text.ofString rel.symbol ++ Text.ofString " ")
        [.mark (.relation rel)] := by cases rel <;> rfl
    have htext := hbetween hrel ⟨_, _, rfl, rfl, nofun⟩ (ihl h.1) (ihr h.2)
    simpa only [text, tokens, List.append_assoc] using htext
  | diagnostic t => exact h.elim

/-- The tokens of an operand. -/
def operandTokens : Term → List Token
  | .literal value => integerTokens value
  | .name t => [.word t]
  | .operation _ _ _ => []

/-- The tokens of a chain. -/
def chainTokens (c : Chain Term) : List Token :=
  operandTokens c.first ++ c.rest.flatMap fun x ↦ .mark x.1.mark :: operandTokens x.2

theorem chainTokens_join (o : Operator) (c d : Chain Term) :
    chainTokens (.join o c d) = chainTokens c ++ .mark o.mark :: chainTokens d := by
  simp [chainTokens, Chain.join]

theorem tokens_eq_chainTokens (e : Expr) : e.tokens = chainTokens e.chain := by
  induction e with
  | constant value => exact (List.append_nil _).symm
  | variableName t => rfl
  | sum l r ihl ihr =>
    rw [tokens, chain, chainTokens_join, ihl, ihr]
    rfl
  | relation rel l r ihl ihr =>
    rw [tokens, chain, chainTokens_join, ihl, ihr]
    rfl
  | diagnostic t => rfl

/-- An operand that is read from its tokens. -/
def IsOperand : Term → Prop
  | .literal _ => True
  | .name t => isKeyword t = false
  | .operation _ _ _ => False

theorem operand?_operandTokens {x : Term} (hx : IsOperand x) (rest : List Token) :
    operand? (operandTokens x ++ rest) = some (x, rest) := by
  cases x with
  | literal value =>
    cases value with
    | ofNat n =>
      show operand? (.number n.repr :: rest) = _
      rw [operand?, decimal?_repr]
      rfl
    | negSucc n =>
      show operand? (.mark .minus :: .number (n + 1).repr :: rest) = _
      rw [operand?, decimal?_repr]
      rfl
  | name t =>
    show operand? (.word t :: rest) = _
    rw [operand?, show isKeyword t = false from hx]
    rfl
  | operation o l r => exact hx.elim

/-- Tokens that do not go on with an operator. -/
def Ends (rest : List Token) : Prop :=
  ∀ m rest', rest = .mark m :: rest' → Operator.ofMark? m = none

theorem chain?_chainTokens {c : Chain Term} {n : Nat} {rest : List Token}
    (hfirst : IsOperand c.first) (hrest : ∀ x ∈ c.rest, IsOperand x.2)
    (hn : c.rest.length < n) (hends : Ends rest) :
    chain? n (chainTokens c ++ rest) = some (c, rest) := by
  obtain ⟨a, xs⟩ := c
  induction xs generalizing a n with
  | nil =>
    obtain _ | n := n
    · cases hn
    have htokens : chainTokens ⟨a, []⟩ = operandTokens a := List.append_nil _
    rw [chain?, htokens, operand?_operandTokens hfirst, Option.bind_eq_bind, Option.bind_some]
    split
    · -- a mark may follow the last operand, but it is no operator
      rename_i m rest' hm
      rw [hends m rest' hm]
      rfl
    · rfl
  | cons x xs ih =>
    obtain _ | n := n
    · cases hn
    obtain ⟨o, b⟩ := x
    obtain ⟨hb, hxs⟩ := List.forall_mem_cons.1 hrest
    have htokens : chainTokens ⟨a, (o, b) :: xs⟩ ++ rest =
        operandTokens a ++ (.mark o.mark :: (chainTokens ⟨b, xs⟩ ++ rest)) := by
      simp [chainTokens]
    rw [chain?, htokens, operand?_operandTokens hfirst, Option.bind_eq_bind, Option.bind_some]
    dsimp only
    rw [Operator.ofMark?_mark]
    dsimp only
    rw [ih b hb hxs (Nat.lt_of_succ_lt_succ hn)]
    rfl

theorem length_operandTokens_pos {x : Term} (hx : IsOperand x) : 0 < (operandTokens x).length := by
  cases x with
  | literal value => cases value <;> exact Nat.succ_pos _
  | name t => exact Nat.succ_pos _
  | operation o l r => exact hx.elim

/-- There are more tokens than operators, so the bound for a chain is kept. -/
theorem length_rest_lt {c : Chain Term} (hfirst : IsOperand c.first)
    (hrest : ∀ x ∈ c.rest, IsOperand x.2) : c.rest.length < (chainTokens c).length := by
  obtain ⟨a, xs⟩ := c
  have ha := length_operandTokens_pos hfirst
  have hxs : xs.length ≤ (xs.flatMap fun x ↦ Token.mark x.1.mark :: operandTokens x.2).length := by
    clear hfirst hrest ha
    induction xs with
    | nil => exact Nat.le_refl _
    | cons x xs ih =>
      rw [List.flatMap_cons, List.length_append, List.length_cons, List.length_cons]
      omega
  rw [chainTokens, List.length_append]
  dsimp only at ha hxs ⊢
  omega

theorem all_isOperand_chain {e : Expr} (h : e.IsReadable) : e.chain.All IsOperand := by
  induction e with
  | constant value => exact ⟨trivial, nofun⟩
  | variableName t => exact ⟨h.2, nofun⟩
  | sum l r ihl ihr => exact (ihl h.1).join (ihr h.2)
  | relation rel l r ihl ihr => exact (ihl h.1).join (ihr h.2)
  | diagnostic t => exact h.elim

/-- **What a generated expression is read as**: its chain, grouped by C. -/
theorem term?_tokens {e : Expr} (h : e.IsReadable) {rest : List Token} (hends : Ends rest) :
    term? (e.tokens ++ rest) = some (e.regrouped, rest) := by
  obtain ⟨hfirst, hrest⟩ := all_isOperand_chain h
  have hlength := length_rest_lt hfirst hrest
  rw [term?, tokens_eq_chainTokens, chain?_chainTokens hfirst hrest ?_ hends]
  · rfl
  · rw [List.length_append]
    omega

theorem read?_text {e : Expr} (h : e.IsReadable) : Term.read? e.text = some e.regrouped := by
  have hends : Ends [] := fun m rest' h ↦ nomatch h
  have hterm := term?_tokens h hends
  rw [List.append_nil] at hterm
  rw [Term.read?, (readsOpen_text h).tokens?_eq, Option.bind_eq_bind, Option.bind_some, hterm]
  rfl

theorem value_regrouped (e : Expr) (σ : Text → Int32) :
    e.regrouped.value σ = (e.chain.map (Term.value σ)).group Operator.onInts :=
  Chain.map_group Term.value_operation e.chain

end Expr

end StructuredIL.C
