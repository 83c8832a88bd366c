import StructuredIL.Proofs.Loading.Functions

/-!
# Loads one after another

A workspace may be used for one load after another, whether the loads before have succeeded or have
ended in the middle of a function, with variables declared and containers open. Every load answers
as if it were the first (`Build.answers_eq`): what it gives, why it fails and what it logs depend on
the request alone.

There are two halves to this. Below a function, the log is written and never read, so a step does
the same after whatever was logged before (`Build.OnlyAdds`); this is said of every builder and goes
up the tree by the height of the document. And a function begins by clearing the rest of the
workspace. So from functions on, a step does in every workspace what it does in an empty one, behind
what was logged before (`Build.Forgets`). Such steps can be told by their answers alone, and the
answer of a sequence is the sequence of the answers (`Build.alone_bind`).
-/

namespace StructuredIL

/-- A workspace in which more has been logged before. -/
def Workspace.after (earlier : List Record) (w : Workspace) : Workspace :=
  { w with log := earlier ++ w.log }

namespace Build

variable {α β : Type}

/-! ### Steps that do not read the log -/

/-- The same ending, where more has been logged before. -/
def endAfter (earlier : List Record) :
    EStateM.Result LoadFault Workspace α → EStateM.Result LoadFault Workspace α
  | .ok a w => .ok a (w.after earlier)
  | .error e w => .error e (w.after earlier)

/-- A step that does the same after whatever has been logged before. -/
def OnlyAdds (x : Build α) : Prop := ∀ earlier w, x (w.after earlier) = endAfter earlier (x w)

namespace OnlyAdds

variable {x : Build α} {f : α → Build β}

theorem pure (a : α) : OnlyAdds (pure a : Build α) := fun _ _ ↦ rfl

theorem throw (e : LoadFault) : OnlyAdds (throw e : Build α) := fun _ _ ↦ rfl

theorem reject (e : FormatError) : OnlyAdds (reject e : Build α) := throw _

theorem bind (hx : OnlyAdds x) (hf : ∀ a, OnlyAdds (f a)) : OnlyAdds (x >>= f) := by
  intro earlier w
  show EStateM.bind x f (w.after earlier) = endAfter earlier (EStateM.bind x f w)
  rw [EStateM.bind, EStateM.bind, hx earlier w]
  rcases x w with ⟨a, v⟩ | ⟨e, v⟩
  · exact hf a earlier v
  · rfl

theorem map (hx : OnlyAdds x) (g : α → β) : OnlyAdds (g <$> x) := by
  rw [map_eq_pure_bind]
  exact hx.bind fun a ↦ pure (g a)

/-- Looking at anything but the log. -/
theorem get_bind {f : Workspace → Build β} (hsame : ∀ earlier w, f (w.after earlier) = f w)
    (hf : ∀ w, OnlyAdds (f w)) : OnlyAdds (get >>= f) := by
  intro earlier w
  show f (w.after earlier) (w.after earlier) = endAfter earlier (f w w)
  rw [hsame earlier w]
  exact hf w earlier w

end OnlyAdds

theorem onlyAdds_progress (text : Text) : OnlyAdds (progress text) := by
  intro earlier w
  show EStateM.Result.ok () _ = EStateM.Result.ok () _
  simp [Workspace.after]

theorem onlyAdds_fresh : OnlyAdds fresh := fun _ _ ↦ rfl

theorem onlyAdds_declare (v : Variable) : OnlyAdds (declare v) := fun _ _ ↦ rfl

theorem onlyAdds_findVariable (name : Text) : OnlyAdds (findVariable name) :=
  .get_bind (fun _ _ ↦ rfl) fun _ ↦ .pure _

/-- A container is opened and closed without a look at the log. -/
theorem OnlyAdds.within {work : Build α} (h : OnlyAdds work) (c : OpenContainer) :
    OnlyAdds (within c work) := by
  intro earlier w
  have hinside := h earlier { w with containers := c :: w.containers }
  rw [Build.within, Build.within]
  show (match work (Workspace.after earlier { w with containers := c :: w.containers }) with
    | .ok a w => _
    | .error e w => _) = _
  rw [hinside]
  rcases work { w with containers := c :: w.containers } with ⟨a, v⟩ | ⟨e, v⟩
  · rfl
  · rfl

/-! ### Builders -/

section

variable {data : Value}

theorem onlyAdds_require (operation : Operation) (key : String) :
    OnlyAdds (require data operation key) := by
  rw [require]
  split
  · exact .pure _
  · exact .reject _

theorem onlyAdds_elementsOf (key : String) : OnlyAdds (elementsOf data key) := by
  rw [elementsOf]
  split
  · exact .pure _
  · split
    · exact .throw _
    · exact .pure _

theorem onlyAdds_spelled {α : Type} [Vocabulary α] (what : String) (v : Value) :
    OnlyAdds (spelled what v : Build α) := by
  rw [spelled.eq_def]
  split
  · split
    · exact .pure _
    · exact .reject _
  · exact .reject _

theorem onlyAdds_variableOf (operation : Operation) : OnlyAdds (variableOf data operation) := by
  refine (onlyAdds_require operation "var").bind fun name ↦ ?_
  split
  · refine (onlyAdds_findVariable _).bind fun v? ↦ ?_
    split
    · exact .pure _
    · exact .reject _
  · exact .reject _

theorem onlyAdds_buildConstant : OnlyAdds (buildConstant data) := by
  refine (onlyAdds_require .constant "value").bind fun value ↦ ?_
  split
  · split
    · exact .pure _
    · exact .reject _
  · exact .reject _

theorem onlyAdds_buildBranch : OnlyAdds (buildBranch data) := by
  refine (onlyAdds_require .branch "target").bind fun target ↦ ?_
  refine .get_bind (fun _ _ ↦ rfl) fun w ↦ ?_
  split
  · exact .reject _
  · split
    · exact .pure _
    · exact .reject _

theorem onlyAdds_blockHead (unlabelled : String) : OnlyAdds (blockHead data unlabelled) := by
  refine (onlyAdds_spelled _ _).bind fun kind ↦ ?_
  exact onlyAdds_fresh.bind fun serial ↦ .pure _

theorem onlyAdds_blockHeads (container : Value) (index : Nat) (items : List Value) :
    OnlyAdds (blockHeads container index items) := by
  induction items generalizing index with
  | nil => exact .pure _
  | cons data rest ih =>
    cases data with
    | object members =>
      exact (onlyAdds_blockHead _).bind fun head ↦ (ih (index + 1)).bind fun heads ↦ .pure _
    | _ => exact .reject _

/-- What is below a bound is built by steps that do not read the log. -/
def BelowOnlyAdds {bound : Nat} (build : Below bound) : Prop := ∀ v h, OnlyAdds (build v h)

variable {build : Below data.height}

theorem onlyAdds_buildMember (h : BelowOnlyAdds build) (operation : Operation) (key : String) :
    OnlyAdds (buildMember data build operation key) := by
  rw [buildMember]
  split
  · exact h _ _
  · exact .reject _

theorem onlyAdds_buildMember? (h : BelowOnlyAdds build) (key : String) :
    OnlyAdds (buildMember? data build key) := by
  rw [buildMember?]
  split
  · exact .pure _
  · exact .pure _
  · exact (h _ _).map _

theorem onlyAdds_buildAll {bound : Nat} {build : Below bound} (h : BelowOnlyAdds build)
    (items : List Value) (hitems : ∀ v ∈ items, v.height < bound) :
    OnlyAdds (buildAll build items hitems) := by
  induction items with
  | nil => exact .pure _
  | cons v rest ih => exact (h _ _).bind fun n ↦ (ih _).bind fun ns ↦ .pure _

theorem onlyAdds_buildLeave (h : BelowOnlyAdds build) : OnlyAdds (buildLeave data build) := by
  refine .get_bind (fun _ _ ↦ rfl) fun w ↦ ?_
  split
  · exact .reject _
  · refine (onlyAdds_buildMember? h "value").bind fun value ↦ ?_
    dsimp only
    split
    · exact (OnlyAdds.pure _).bind fun c ↦ .pure _
    · split
      · exact (OnlyAdds.pure _).bind fun c ↦ .pure _
      · exact (OnlyAdds.reject _).bind fun c ↦ .pure _

theorem onlyAdds_buildCall (h : BelowOnlyAdds build) : OnlyAdds (buildCall data build) := by
  rw [buildCall]
  split
  · exact (OnlyAdds.pure _).bind fun arguments ↦ .pure _
  · exact (onlyAdds_buildAll h _ _).bind fun arguments ↦ .pure _
  · exact (OnlyAdds.reject _).bind fun arguments ↦ .pure _

theorem onlyAdds_buildInstructions (s : LoadSettings) (h : BelowOnlyAdds build) :
    OnlyAdds (buildInstructions s data build) :=
  (onlyAdds_elementsOf "instructions").bind fun items ↦
    (onlyAdds_buildAll h items.1 items.2).bind fun _ ↦ .pure _

theorem onlyAdds_buildBlocks (s : LoadSettings) {bound : Nat} {build : Below bound}
    (h : BelowOnlyAdds build) (heads : List BlockHead) (items : List Value)
    (hitems : ∀ v ∈ items, v.height < bound) :
    OnlyAdds (buildBlocks s build heads items hitems) := by
  induction heads generalizing items with
  | nil => exact .pure _
  | cons head heads ih =>
    cases items with
    | nil => exact .pure _
    | cons data rest =>
      refine OnlyAdds.bind (onlyAdds_buildInstructions s fun v hv ↦ h v _) fun _ ↦ ?_
      exact (ih rest _).bind fun blocks ↦ .pure _

theorem onlyAdds_buildContainer (s : LoadSettings) (h : BelowOnlyAdds build) :
    OnlyAdds (buildContainer s data build) := by
  refine (onlyAdds_spelled _ _).bind fun kind ↦ .get_bind (fun _ _ ↦ rfl) fun w ↦ ?_
  refine onlyAdds_fresh.bind fun serial ↦ ?_
  split
  · exact .pure _
  · refine (onlyAdds_blockHeads _ 0 _).bind fun heads ↦ ?_
    exact ((onlyAdds_buildBlocks s h heads _ _).within _).bind fun blocks ↦ .pure _
  · exact .reject _

theorem onlyAdds_buildOperation (s : LoadSettings) (h : BelowOnlyAdds build)
    (operation : Operation) : OnlyAdds (buildOperation s data build operation) := by
  cases operation with
  | nop => exact .pure _
  | constant => exact onlyAdds_buildConstant
  | load => exact (onlyAdds_variableOf .load).bind fun v ↦ .pure _
  | store =>
    exact (onlyAdds_variableOf .store).bind fun v ↦
      (onlyAdds_buildMember h .store "value").bind fun value ↦ .pure _
  | compare =>
    exact (onlyAdds_require .compare "kind").bind fun v ↦ (onlyAdds_spelled _ v).bind fun kind ↦
      (onlyAdds_buildMember h .compare "left").bind fun l ↦
        (onlyAdds_buildMember h .compare "right").bind fun r ↦ .pure _
  | binary =>
    exact (onlyAdds_require .binary "operator").bind fun v ↦ (onlyAdds_spelled _ v).bind fun op ↦
      (onlyAdds_buildMember h .binary "left").bind fun l ↦
        (onlyAdds_buildMember h .binary "right").bind fun r ↦ .pure _
  | cond =>
    exact (onlyAdds_buildMember h .cond "condition").bind fun c ↦
      (onlyAdds_buildMember h .cond "true").bind fun yes ↦
        (onlyAdds_buildMember? h "false").bind fun no ↦ .pure _
  | call => exact onlyAdds_buildCall h
  | branch => exact onlyAdds_buildBranch
  | leave => exact onlyAdds_buildLeave h
  | block =>
    exact (onlyAdds_blockHead "Block").bind fun head ↦
      (onlyAdds_buildInstructions s h).bind fun instructions ↦ .pure _
  | container => exact onlyAdds_buildContainer s h

theorem onlyAdds_buildWith (s : LoadSettings) (h : BelowOnlyAdds build) :
    OnlyAdds (buildWith s data build) := by
  rw [buildWith]
  split
  · exact .reject _
  · exact .throw _
  · exact .throw _
  · split
    · exact onlyAdds_buildOperation s h _
    · exact .reject _
  · exact .reject _

end

/-- **A node is built** without a look at the log. -/
theorem onlyAdds_buildNode (s : LoadSettings) (data : Value) : OnlyAdds (buildNode s data) := by
  rw [buildNode_eq]
  exact onlyAdds_buildWith s fun v _ ↦ onlyAdds_buildNode s v
termination_by data.height

/-! ### Steps that forget -/

/-- The same answer, where more has been logged before. -/
def answerAfter (earlier : List Record) (answer : Logged LoadFault α) : Logged LoadFault α :=
  { answer with log := earlier ++ answer.log }

theorem answerAfter_bind (earlier : List Record) (answer : Logged LoadFault α)
    (next : α → Logged LoadFault β) :
    answerAfter earlier answer >>= next = answerAfter earlier (answer >>= next) := by
  obtain ⟨a | a, log⟩ := answer
  · rfl
  · rw [answerAfter, Logged.bind_of_ok rfl, Logged.bind_of_ok rfl, answerAfter, List.append_assoc]

/-- What a step gives in a workspace, with all that has been logged when it ends. -/
def shown (x : Build α) (w : Workspace) : Logged LoadFault α :=
  match x w with
  | .ok a w => ⟨.ok a, w.log⟩
  | .error e w => ⟨.error e, w.log⟩

/-- The answer of a step when nothing has been done before it. -/
def alone (x : Build α) : Logged LoadFault α := shown x .empty

/-- A step that answers in every workspace as it does in an empty one. -/
def Forgets (x : Build α) : Prop := ∀ w, shown x w = answerAfter w.log (alone x)

/-- Where the second of two steps forgets, it is enough to know its answer. -/
theorem shown_bind (x : Build α) {f : α → Build β} (hf : ∀ a, Forgets (f a)) (w : Workspace) :
    shown (x >>= f) w = shown x w >>= fun a ↦ alone (f a) := by
  show (match EStateM.bind x f w with
    | .ok b v => (⟨.ok b, v.log⟩ : Logged LoadFault β)
    | .error e v => ⟨.error e, v.log⟩) = _
  rw [EStateM.bind, shown]
  rcases x w with ⟨a, v⟩ | ⟨e, v⟩
  · exact hf a v
  · rfl

/-- **The answer of two steps** is that of the first followed by that of the second. -/
theorem alone_bind (x : Build α) {f : α → Build β} (hf : ∀ a, Forgets (f a)) :
    alone (x >>= f) = alone x >>= fun a ↦ alone (f a) := shown_bind x hf .empty

namespace Forgets

variable {x : Build α} {f : α → Build β}

theorem pure (a : α) : Forgets (pure a : Build α) := fun w ↦
  congrArg (Logged.mk _) (List.append_nil w.log).symm

theorem throw (e : LoadFault) : Forgets (throw e : Build α) := fun w ↦
  congrArg (Logged.mk _) (List.append_nil w.log).symm

theorem reject (e : FormatError) : Forgets (reject e : Build α) := throw _

theorem progress (text : Text) : Forgets (progress text) := fun _ ↦ rfl

theorem bind (hx : Forgets x) (hf : ∀ a, Forgets (f a)) : Forgets (x >>= f) := by
  intro w
  rw [shown_bind x hf, hx w, answerAfter_bind, alone_bind x hf]

theorem map (hx : Forgets x) (g : α → β) : Forgets (g <$> x) := by
  rw [map_eq_pure_bind]
  exact hx.bind fun a ↦ pure (g a)

/-- What comes after a clearing finds nothing in the workspace but the log. -/
theorem clear_bind {f : Unit → Build β} (hf : OnlyAdds (f ())) : Forgets (clear >>= f) := by
  intro w
  have hcleared : shown (clear >>= f) w = shown (f ()) (Workspace.empty.after w.log) := by
    rw [Workspace.after]
    show shown (f ()) ⟨[], [], 0, w.log⟩ = shown (f ()) ⟨[], [], 0, w.log ++ []⟩
    rw [List.append_nil]
  rw [hcleared, shown, hf w.log .empty]
  show _ = answerAfter w.log (shown (f ()) .empty)
  rw [shown]
  rcases f () .empty with ⟨b, v⟩ | ⟨e, v⟩
  · rfl
  · rfl

end Forgets

/-- A step that forgets succeeds in every workspace or in none. -/
theorem Forgets.exists_ok_iff {x : Build α} (hx : Forgets x) (w : Workspace) {a : α} :
    (∃ v, x w = .ok a v) ↔ (alone x).outcome = .ok a := by
  have houtcome := congrArg Logged.outcome (hx w)
  rw [shown] at houtcome
  show _ ↔ (answerAfter w.log (alone x)).outcome = .ok a
  rw [← houtcome]
  rcases x w with ⟨b, v⟩ | ⟨e, v⟩
  · simp
  · simp

/-- What a load answers does not depend on the workspace that it is run in. -/
theorem run_eq_alone {x : Build α} (hx : Forgets x) (w : Workspace) : (x.run w).1 = alone x := by
  have hrun : (x.run w).1 = shown x { w with log := [] } := by
    rw [run, shown]
    rcases x { w with log := [] } with ⟨a, v⟩ | ⟨e, v⟩
    · rfl
    · rfl
  rw [hrun, hx]
  rfl

/-! ### Functions and modules -/

theorem onlyAdds_buildVariable (data : Value) (index : Nat) :
    OnlyAdds (buildVariable data index) := by
  rw [buildVariable]
  split
  · exact (onlyAdds_spelled _ _).bind fun type ↦ .pure _
  · exact .reject _

theorem onlyAdds_declareAll (function : Text) (index : Nat) (items : List Value) :
    OnlyAdds (declareAll function index items) := by
  induction items generalizing index with
  | nil => exact .pure _
  | cons data rest ih =>
    refine (onlyAdds_buildVariable data index).bind fun v ↦ ?_
    refine (onlyAdds_findVariable v.name).bind fun found ↦ ?_
    split
    · exact .reject _
    · exact (onlyAdds_declare v).bind fun _ ↦ ih (index + 1)

theorem forgets_functionName (data : Value) : Forgets (functionName data) := by
  rw [functionName]
  split
  · exact .pure _
  · exact .reject _

theorem forgets_buildMembers (s : LoadSettings) (data : Value) : Forgets (buildMembers s data) := by
  refine (forgets_functionName data).bind fun name ↦ .clear_bind ?_
  refine (onlyAdds_elementsOf "variables").bind fun items ↦ ?_
  refine (onlyAdds_declareAll name 0 items.1).bind fun _ ↦ ?_
  split
  · exact .reject _
  · refine (onlyAdds_buildNode s _).bind fun body ↦ .get_bind (fun _ _ ↦ rfl) fun w ↦ ?_
    dsimp only
    split
    · exact (onlyAdds_progress _).bind fun _ ↦ .pure _
    · exact (onlyAdds_progress _).bind fun _ ↦ .pure _
    · exact (OnlyAdds.reject _).bind fun _ ↦ (onlyAdds_progress _).bind fun _ ↦ .pure _

/-- **A function is built** as if nothing had been built before it. -/
theorem forgets_buildFunction (s : LoadSettings) (data : Value) :
    Forgets (buildFunction s data) := by
  cases data with
  | object members => exact forgets_buildMembers s (.object members)
  | _ => exact .throw _

theorem forgets_buildWanted (s : LoadSettings) (items : List Value) :
    Forgets (buildWanted s items) := by
  induction items with
  | nil => exact .pure _
  | cons data rest ih =>
    refine (forgets_functionName data).bind fun name ↦ ?_
    split
    · exact (forgets_buildFunction s data).bind fun f ↦ ih.bind fun fs ↦ .pure _
    · exact (Forgets.progress _).bind fun _ ↦ ih

theorem forgets_buildModule (s : LoadSettings) (data : Value) : Forgets (buildModule s data) := by
  rw [buildModule.eq_def]
  split
  · exact forgets_buildWanted s _
  · exact .reject _

theorem forgets_readModule (s : LoadSettings) (text : List Char) : Forgets (readModule s text) := by
  rw [readModule]
  split
  · exact forgets_buildModule s _
  · exact .reject _

/-! ### Requests -/

/-- What a loader may be asked for. -/
inductive Request where
  /-- The wanted functions of the module that a text is written for. -/
  | ofText (text : List Char)
  /-- The wanted functions of a module. -/
  | ofModule (data : Value)
  /-- A function, wanted or not. -/
  | ofFunction (data : Value)

/-- What a loader gives. -/
inductive Loaded where
  /-- Some functions. -/
  | functions (fs : List Function)
  /-- A function. -/
  | function (f : Function)

/-- Does what is asked for. -/
def Request.perform (s : LoadSettings) : Request → Build Loaded
  | .ofText text => .functions <$> readModule s text
  | .ofModule data => .functions <$> buildModule s data
  | .ofFunction data => .function <$> buildFunction s data

/-- The answers to some requests, each performed in the workspace that the one before has left. -/
def answers (s : LoadSettings) : List Request → Workspace → List (Logged LoadFault Loaded)
  | [], _ => []
  | r :: rest, w => ((r.perform s).run w).1 :: answers s rest ((r.perform s).run w).2

theorem Request.forgets_perform (s : LoadSettings) (r : Request) : Forgets (r.perform s) := by
  cases r with
  | ofText text => exact (forgets_readModule s text).map _
  | ofModule data => exact (forgets_buildModule s data).map _
  | ofFunction data => exact (forgets_buildFunction s data).map _

/-- **A loader can be used again.** Whatever it has been asked for before, and wherever that has
failed, it answers every request as a new loader does: with the same functions or for the same
reason, and with the same records. -/
theorem answers_eq (s : LoadSettings) (requests : List Request) (w : Workspace) :
    answers s requests w = requests.map fun r ↦ ((r.perform s).run .empty).1 := by
  induction requests generalizing w with
  | nil => rfl
  | cons r rest ih =>
    have hforgets := r.forgets_perform s
    rw [answers, ih, List.map_cons, run_eq_alone hforgets w, run_eq_alone hforgets .empty]

end Build

end StructuredIL
