import StructuredIL.Proofs.C.Grammar
import StructuredIL.Proofs.C.Reassociation

/-!
# The types of expressions

C gives every expression a type before it is run. A constant has the first type that holds it,
variables are promoted to `int`, a sum has the common type of its operands, and a comparison is an
`int`, whatever it compares. The value of a term is a number of its type (`Term.map_type_number?`).

From the least constant of 32 bits, which is a `long`, this type spreads through the sums above it
up to a comparison (`Term.IsTypable.type?_eq`), and without it everything is an `int`
(`Term.IsTypable.forall_type?_iff`).

What is stored of a number is the value in 32 bits, whatever its type is. Only where numbers are
compared does their type matter: a sum with the least constant does not wrap around there. As long
as no such sum is compared, the term has the value in 32 bits (`Term.IsTypable.toInt32_number?`).
-/

namespace StructuredIL.C

/-! ### Terms -/

namespace Term

/-- The type of a term, if these are the variables with their types. -/
def type? (locals : List (CType × Text)) : Term → Option IntegerType
  | literal value => IntegerType.ofConstant? value.natAbs
  | name t => (locals.find? fun d ↦ d.2 == t).map fun d ↦ d.1.promoted
  | operation .plus l r => do return (← l.type? locals).common (← r.type? locals)
  | operation (.relation _) l r => do
    let _ ← l.type? locals
    let _ ← r.type? locals
    return .int

/-- A term with all terms in it. -/
def subterms : Term → List Term
  | literal value => [literal value]
  | name t => [name t]
  | operation o l r => operation o l r :: (l.subterms ++ r.subterms)

/-- The constants of a term, in order. -/
def literals : Term → List Int
  | literal value => [value]
  | name _ => []
  | operation _ l r => l.literals ++ r.literals

/-- The constants that are summed up in a term, in order: not those that are only compared. -/
def summands : Term → List Int
  | literal value => [value]
  | name _ => []
  | operation .plus l r => l.summands ++ r.summands
  | operation (.relation _) _ _ => []

variable {locals : List (CType × Text)} {t u : Term}

theorem mem_literals_iff {value : Int} : value ∈ t.literals ↔ literal value ∈ t.subterms := by
  induction t with
  | literal v => simp [literals, subterms]
  | name s => simp [literals, subterms]
  | operation o l r ihl ihr => simp [literals, subterms, ihl, ihr]

theorem summands_subset_literals (t : Term) : t.summands ⊆ t.literals := by
  induction t with
  | literal v => exact List.Subset.refl _
  | name s => exact List.Subset.refl _
  | operation o l r ihl ihr =>
    cases o with
    | plus =>
      refine List.append_subset.2 ⟨fun v hv ↦ ?_, fun v hv ↦ ?_⟩
      · exact List.mem_append_left _ (ihl hv)
      · exact List.mem_append_right _ (ihr hv)
    | relation rel => exact List.nil_subset _

/-- What operands inherit from an operation holds of all terms in a term. -/
theorem forall_subterms_of {P : Term → Prop} (h : P t)
    (hP : ∀ o l r, P (operation o l r) → P l ∧ P r) : ∀ u ∈ t.subterms, P u := by
  induction t with
  | literal value => exact List.forall_mem_singleton.2 h
  | name s => exact List.forall_mem_singleton.2 h
  | operation o l r ihl ihr =>
    obtain ⟨hl, hr⟩ := hP o l r h
    exact List.forall_mem_cons.2 ⟨h, List.forall_mem_append.2 ⟨ihl hl, ihr hr⟩⟩

/-- A term that has a type among variables of these names: it has no other names, and its constants
have 32 bits. -/
structure IsTypable (names : List Text) (t : Term) : Prop where
  /-- The names are declared. -/
  names : t.isOver names = true
  /-- The constants have 32 bits. -/
  constants : ∀ v ∈ t.literals, Build.minInt32 ≤ v ∧ v ≤ Build.maxInt32

theorem IsTypable.operands {names : List Text} {o : Operator} {l r : Term}
    (h : (operation o l r).IsTypable names) : l.IsTypable names ∧ r.IsTypable names := by
  obtain ⟨hnames, hconstants⟩ := h
  rw [isOver, Bool.and_eq_true] at hnames
  rw [literals, List.forall_mem_append] at hconstants
  exact ⟨⟨hnames.1, hconstants.1⟩, hnames.2, hconstants.2⟩

/-- A variable that is declared is promoted to `int`, whatever its type is. -/
theorem type?_name {s : Text} (h : (name s).isOver (locals.map Prod.snd) = true) :
    (name s).type? locals = some .int := by
  have hname : (locals.find? fun d ↦ d.2 == s).isSome = true := by
    obtain ⟨d, hd, rfl⟩ := List.mem_map.1 (List.contains_iff_mem.1 h)
    exact List.find?_isSome.2 ⟨d, hd, beq_self_eq_true _⟩
  obtain ⟨d, hd⟩ := Option.isSome_iff_exists.1 hname
  have hpromoted : d.1.promoted = .int := by cases d.1 <;> rfl
  rw [type?, hd, Option.map_some, hpromoted]

/-- **The type of a term**: it is an `int`, unless the least constant is summed up in it. -/
theorem IsTypable.type?_eq (h : t.IsTypable (locals.map Prod.snd)) :
    t.type? locals = some (if Build.minInt32 ∈ t.summands then .long else .int) := by
  induction t with
  | literal value =>
    have hvalue := h.constants value (List.mem_singleton_self _)
    rw [type?, IntegerType.ofConstant?_natAbs hvalue, summands]
    simp only [List.mem_singleton, eq_comm]
  | name s => exact type?_name h.names
  | operation o l r ihl ihr =>
    have hl := ihl h.operands.1
    have hr := ihr h.operands.2
    cases o with
    | plus =>
      rw [type?, hl, hr, summands]
      by_cases hleft : Build.minInt32 ∈ l.summands <;>
        by_cases hright : Build.minInt32 ∈ r.summands <;>
        simp [hleft, hright, IntegerType.common, IntegerType.rank]
    | relation rel =>
      rw [type?, hl, hr]
      rfl

/-- **When everything in a term is an `int`**: the least constant does not occur. -/
theorem IsTypable.forall_type?_iff (h : t.IsTypable (locals.map Prod.snd)) :
    (∀ u ∈ t.subterms, u.type? locals = some .int) ↔ Build.minInt32 ∉ t.literals := by
  constructor
  · intro hint hleast
    cases hint _ (mem_literals_iff.1 hleast)
  · intro hleast u hu
    have htypable := forall_subterms_of h (fun _ _ _ ↦ IsTypable.operands) u hu
    have hliterals : u.literals ⊆ t.literals :=
      forall_subterms_of (List.Subset.refl _) (fun _ _ _ h ↦ List.append_subset.1 h) u hu
    have hsummands : Build.minInt32 ∉ u.summands := fun hmem ↦
      hleast (hliterals (u.summands_subset_literals hmem))
    rw [htypable.type?_eq, if_neg hsummands]

/-! ### Values -/

section Values

variable {names : List Text} {τ : Text → Int32} {a : Number}

theorem number?_operation (o : Operator) (l r : Term) :
    (operation o l r).number? τ = do return o.apply (← l.number? τ) (← r.number? τ) := rfl

/-- **The value of a term is a number of its type.** -/
theorem map_type_number? (h : t.isOver (locals.map Prod.snd) = true) :
    (t.number? τ).map Number.type = t.type? locals := by
  induction t with
  | literal value =>
    rw [type?, number?, evaluate?]
    cases IntegerType.ofConstant? value.natAbs <;> rfl
  | name s => exact (type?_name h).symm
  | operation o l r ihl ihr =>
    obtain ⟨hl, hr⟩ := Bool.and_eq_true_iff.1 h
    rw [number?_operation]
    cases o with
    | plus | relation rel =>
      rw [type?, ← ihl hl, ← ihr hr]
      cases l.number? τ <;> cases r.number? τ <;> rfl

/-- A term that is no sum with the least constant in it. -/
def IsNarrow : Term → Prop
  | operation o l r => Build.minInt32 ∉ (operation o l r).summands
  | _ => True

/-- A term in which only narrow terms are compared. -/
def ComparesNarrow : Term → Prop
  | operation .plus l r => l.ComparesNarrow ∧ r.ComparesNarrow
  | operation (.relation _) l r =>
    l.IsNarrow ∧ r.IsNarrow ∧ l.ComparesNarrow ∧ r.ComparesNarrow
  | _ => True

/-- A term that can be given a type has a value, of that type. -/
theorem IsTypable.exists_number? (h : t.IsTypable names) (τ : Text → Int32) :
    ∃ a, t.number? τ = some a ∧
      a.type = if Build.minInt32 ∈ t.summands then .long else .int := by
  -- the types of the variables are of no matter, so long as they have some
  have hlocals : (names.map fun s ↦ (CType.int32, s)).map Prod.snd = names := by simp
  rw [← hlocals] at h
  have htype := (map_type_number? (τ := τ) h.names).trans h.type?_eq
  exact Option.map_eq_some_iff.1 htype

/-- **The value of a term is that in 32 bits**: what is stored of it always, and all of it if the
term is narrow. -/
theorem IsTypable.toInt32_number? (h : t.IsTypable names) (hnarrow : t.ComparesNarrow)
    (ha : t.number? τ = some a) :
    a.toInt32 = t.value τ ∧ (t.IsNarrow → a.toInt = (t.value τ).toInt) := by
  induction t generalizing a with
  | literal v =>
    have hvalue := h.constants v (List.mem_singleton_self _)
    obtain ⟨type, -, ha⟩ := Option.bind_eq_some_iff.1 ha
    obtain rfl := Option.some.inj ha
    have hint : (Number.ofInt .int v).toInt = v := Number.toInt_ofInt hvalue
    have hstored : (Int32.ofInt v).toInt = v := hint
    rw [value_literal, Number.toInt32, Number.toInt_ofInt hvalue, hstored]
    exact ⟨rfl, fun _ ↦ rfl⟩
  | name s =>
    obtain rfl := Option.some.inj ha
    rw [value_name]
    exact ⟨Number.toInt32_ofInt32 _, fun _ ↦ rfl⟩
  | operation o l r ihl ihr =>
    obtain ⟨hl, hr⟩ := h.operands
    obtain ⟨b, hb, htypeb⟩ := hl.exists_number? τ
    obtain ⟨c, hc, htypec⟩ := hr.exists_number? τ
    obtain ⟨a', ha', htype⟩ := h.exists_number? τ
    obtain rfl := Option.some.inj (ha.symm.trans ha')
    rw [number?_operation, hb, hc] at ha
    obtain rfl := Option.some.inj ha
    rw [value_operation]
    cases o with
    | plus =>
      obtain ⟨hbvalue, -⟩ := ihl hl hnarrow.1 hb
      obtain ⟨hcvalue, -⟩ := ihr hr hnarrow.2 hc
      have hvalue : (b.add c).toInt32 = Operator.plus.onInts (l.value τ) (r.value τ) := by
        rw [Number.toInt32_add, hbvalue, hcvalue, Operator.onInts_plus]
      refine ⟨hvalue, fun hsum ↦ ?_⟩
      rw [if_neg hsum] at htype
      rw [← hvalue]
      exact congrArg Number.toInt (Number.eq_ofInt32 htype)
    | relation rel =>
      obtain ⟨hlnarrow, hrnarrow, hlcompares, hrcompares⟩ := hnarrow
      obtain ⟨-, hbvalue⟩ := ihl hl hlcompares hb
      obtain ⟨-, hcvalue⟩ := ihr hr hrcompares hc
      rw [Operator.apply, Number.compare_eq, hbvalue hlnarrow, hcvalue hrnarrow,
        Operator.onInts_relation]
      cases rel.holds (l.value τ).toInt (r.value τ).toInt <;> exact ⟨rfl, fun _ ↦ rfl⟩

/-! ### Values up to the grouping of sums -/

theorem SameSums.summands_eq (h : t.SameSums u) : t.summands = u.summands := by
  induction h with
  | refl t => rfl
  | symm _ ih => exact ih.symm
  | trans _ _ iht ihu => exact iht.trans ihu
  | operation o _ _ iha ihb =>
    cases o with
    | plus => rw [summands, summands, iha, ihb]
    | relation rel => rfl
  | assoc a b c => simp only [summands, List.append_assoc]

theorem SameSums.isNarrow_iff (h : t.SameSums u) : t.IsNarrow ↔ u.IsNarrow := by
  induction h with
  | refl t => rfl
  | symm _ ih => exact ih.symm
  | trans _ _ iht ihu => exact iht.trans ihu
  | operation o ha hb _ _ => rw [IsNarrow, IsNarrow, (SameSums.operation o ha hb).summands_eq]
  | assoc a b c => rw [IsNarrow, IsNarrow, (SameSums.assoc a b c).summands_eq]

/-- The grouping of sums does not matter for what is compared. -/
theorem SameSums.comparesNarrow_iff (h : t.SameSums u) : t.ComparesNarrow ↔ u.ComparesNarrow := by
  induction h with
  | refl t => rfl
  | symm _ ih => exact ih.symm
  | trans _ _ iht ihu => exact iht.trans ihu
  | operation o ha hb iha ihb =>
    cases o with
    | plus => rw [ComparesNarrow, ComparesNarrow, iha, ihb]
    | relation rel =>
      rw [ComparesNarrow, ComparesNarrow, iha, ihb, ha.isNarrow_iff, hb.isNarrow_iff]
  | assoc a b c => simp only [ComparesNarrow, and_assoc]

end Values

end Term

/-! ### What is read -/

/-- The constants of an expression, in order. -/
def Expr.literals : Expr → List Int
  | constant value => [value]
  | variableName _ => []
  | sum l r => l.literals ++ r.literals
  | relation _ l r => l.literals ++ r.literals
  | diagnostic _ => []

/-- **No constant is lost or moved** where an expression is read. -/
theorem Expr.literals_regrouped (e : Expr) : e.regrouped.literals = e.literals := by
  have hgroup : e.regrouped.literals = (e.chain.map Term.literals).flatten := by
    rw [← Chain.group_append]
    exact Chain.map_group (fun _ _ _ ↦ rfl) e.chain
  have hjoin (o : Operator) (c d : Chain (List Int)) :
      (Chain.join o c d).flatten = c.flatten ++ d.flatten := by
    simp [Chain.join, Chain.flatten]
  rw [hgroup]
  clear hgroup
  induction e with
  | sum l r ihl ihr => rw [chain, Chain.map_join, hjoin, ihl, ihr, literals]
  | relation rel l r ihl ihr => rw [chain, Chain.map_join, hjoin, ihl, ihr, literals]
  | _ => rfl

end StructuredIL.C
