import StructuredIL.Loading.Module
import StructuredIL.Proofs.Lowering.Arms

/-!
# Loading without empty instructions

A load that leaves out empty instructions does the same as one that keeps them and prunes what comes
of it (`Build.buildModule_eq_pruned`). This is an equation between steps of a load, so it is said of
failures, of the log and of the workspace as well: what one of the loads cannot build the other
cannot build for the same reason.

The equation holds of every builder whose parts are built that way, and goes up the tree by the
height of the document. It does so because pruning changes nothing that a builder looks at. An
instruction is left out only after it has been built, and what is left out has no number.
-/

namespace StructuredIL.Build

/-! ### Builders of parts -/

/-- Builds what is below a bound, and prunes it. -/
def prunedBelow {bound : Nat} (build : Below bound) : Below bound :=
  fun v h ↦ Node.pruned <$> build v h

section

variable {data : Value} (build : Below data.height)

theorem buildMember_pruned (operation : Operation) (key : String) :
    buildMember data (prunedBelow build) operation key =
      Node.pruned <$> buildMember data build operation key := by
  rw [buildMember, buildMember]
  split <;> rfl

theorem buildMember?_pruned (key : String) :
    buildMember? data (prunedBelow build) key =
      Option.map Node.pruned <$> buildMember? data build key := by
  rw [buildMember?, buildMember?]
  split
  · rfl
  · rfl
  · simp only [prunedBelow, Functor.map_map, Option.map_some]

end

theorem buildAll_pruned {bound : Nat} (build : Below bound) (items : List Value)
    (h : ∀ v ∈ items, v.height < bound) :
    buildAll (prunedBelow build) items h = List.map Node.pruned <$> buildAll build items h := by
  induction items with
  | nil => rfl
  | cons v rest ih =>
    simp only [buildAll, ih, prunedBelow, map_bind, bind_map_left, map_pure, List.map_cons]

/-! ### Expressions and statements -/

section

variable (data : Value)

theorem buildConstant_pruned : buildConstant data = Node.pruned <$> buildConstant data := by
  rw [buildConstant, map_bind]
  congr 1
  funext value
  cases value with
  | int n => dsimp only; split <;> rfl
  | _ => rfl

theorem buildLoad_pruned : buildLoad data = Node.pruned <$> buildLoad data := by
  rw [buildLoad, map_bind]
  rfl

theorem buildBranch_pruned : buildBranch data = Node.pruned <$> buildBranch data := by
  simp only [buildBranch, map_bind]
  congr 1
  funext target
  congr 1
  funext w
  cases w.containers with
  | nil => rfl
  | cons c outer => dsimp only; split <;> rfl

variable (build : Below data.height)

theorem buildCompare_pruned :
    buildCompare data (prunedBelow build) = Node.pruned <$> buildCompare data build := by
  simp only [buildCompare, buildMember_pruned, map_bind, bind_map_left, map_pure, Node.pruned]

theorem buildBinary_pruned :
    buildBinary data (prunedBelow build) = Node.pruned <$> buildBinary data build := by
  simp only [buildBinary, buildMember_pruned, map_bind, bind_map_left, map_pure, Node.pruned]

theorem buildStore_pruned :
    buildStore data (prunedBelow build) = Node.pruned <$> buildStore data build := by
  simp only [buildStore, buildMember_pruned, map_bind, bind_map_left, map_pure, Node.pruned]

/-- What stands where a part is absent stays. -/
theorem getD_map_pruned (n? : Option Node) :
    (n?.map Node.pruned).getD .nop = (n?.getD .nop).pruned := by
  cases n? <;> rfl

theorem buildCond_pruned :
    buildCond data (prunedBelow build) = Node.pruned <$> buildCond data build := by
  simp only [buildCond, buildMember_pruned, buildMember?_pruned, map_bind, bind_map_left, map_pure,
    getD_map_pruned, Node.pruned]

theorem buildCall_pruned :
    buildCall data (prunedBelow build) = Node.pruned <$> buildCall data build := by
  rw [buildCall, buildCall]
  split
  · rfl
  · simp only [buildAll_pruned, map_bind, bind_map_left, map_pure, Node.pruned, Node.allPruned_eq]
  · rfl

theorem buildLeave_pruned :
    buildLeave data (prunedBelow build) = Node.pruned <$> buildLeave data build := by
  simp only [buildLeave, map_bind]
  congr 1
  funext w
  cases w.containers with
  | nil => rfl
  | cons innermost outer =>
    simp only [buildMember?_pruned, map_bind, bind_map_left, getD_map_pruned]
    congr 1
    funext value?
    -- which container is left does not depend on the value
    cases (data.get? "target").getD .null with
    | null => rfl
    | _ => dsimp only; split <;> rfl

end

/-! ### Blocks and containers -/

section

variable (filter : Text)

/-- **The empty instructions of a block** are left out as soon as they have been built. -/
theorem buildInstructions_pruned (data : Value) (build : Below data.height) :
    buildInstructions ⟨filter, true⟩ data (prunedBelow build) =
      Node.instructionsPruned <$> buildInstructions ⟨filter, false⟩ data build := by
  have hkept : ∀ ns : List Node,
      (ns.map Node.pruned).filter (fun n ↦ !n.isNop) = Node.instructionsPruned ns := by
    intro ns
    rw [Node.instructionsPruned_eq, List.filter_map]
    congr 2
    funext n
    exact congrArg not n.isNop_pruned
  simp only [buildInstructions, buildAll_pruned, map_bind, bind_map_left, map_pure, hkept, if_true,
    Bool.false_eq_true, if_false]

theorem buildBlock_pruned (data : Value) (build : Below data.height) :
    buildBlock ⟨filter, true⟩ data (prunedBelow build) =
      Node.pruned <$> buildBlock ⟨filter, false⟩ data build := by
  simp only [buildBlock, buildInstructions_pruned, map_bind, bind_map_left, map_pure, Node.pruned,
    Block.pruned]

theorem buildBlocks_pruned {bound : Nat} (build : Below bound) (heads : List BlockHead)
    (items : List Value) (h : ∀ v ∈ items, v.height < bound) :
    buildBlocks ⟨filter, true⟩ (prunedBelow build) heads items h =
      List.map Block.pruned <$> buildBlocks ⟨filter, false⟩ build heads items h := by
  induction heads generalizing items with
  | nil => rfl
  | cons head heads ih =>
    cases items with
    | nil => rfl
    | cons data rest =>
      have hinstructions := buildInstructions_pruned filter data fun v hv ↦
        build v (Nat.lt_trans hv (h data (List.mem_cons_self ..)))
      have hrest := ih rest fun w hw ↦ h w (List.mem_cons_of_mem data hw)
      rw [buildBlocks, buildBlocks, hrest]
      refine (congrArg (· >>= _) hinstructions).trans ?_
      simp only [map_bind, bind_map_left, map_pure, List.map_cons, Block.pruned]

theorem within_map {α β : Type} (c : OpenContainer) (g : α → β) (work : Build α) :
    within c (g <$> work) = g <$> within c work := by
  funext w
  show _ = EStateM.map g (within c work) w
  have hmap : (g <$> work) = EStateM.map g work := rfl
  rw [hmap]
  simp only [within, EStateM.map]
  cases work { w with containers := c :: w.containers } <;> rfl

theorem buildContainer_pruned (data : Value) (build : Below data.height) :
    buildContainer ⟨filter, true⟩ data (prunedBelow build) =
      Node.pruned <$> buildContainer ⟨filter, false⟩ data build := by
  simp only [buildContainer, map_bind]
  congr 1
  funext kind
  congr 1
  funext w
  congr 1
  funext serial
  split
  · rfl
  · simp only [buildBlocks_pruned, within_map, map_bind, bind_map_left, map_pure, Node.pruned,
      Block.allPruned_eq]
  · rfl

/-! ### Nodes -/

theorem buildOperation_pruned (data : Value) (build : Below data.height) (operation : Operation) :
    buildOperation ⟨filter, true⟩ data (prunedBelow build) operation =
      Node.pruned <$> buildOperation ⟨filter, false⟩ data build operation := by
  cases operation with
  | nop => rfl
  | constant => exact buildConstant_pruned data
  | load => exact buildLoad_pruned data
  | store => exact buildStore_pruned data build
  | compare => exact buildCompare_pruned data build
  | binary => exact buildBinary_pruned data build
  | cond => exact buildCond_pruned data build
  | call => exact buildCall_pruned data build
  | branch => exact buildBranch_pruned data
  | leave => exact buildLeave_pruned data build
  | block => exact buildBlock_pruned filter data build
  | container => exact buildContainer_pruned filter data build

theorem buildWith_pruned (data : Value) (build : Below data.height) :
    buildWith ⟨filter, true⟩ data (prunedBelow build) =
      Node.pruned <$> buildWith ⟨filter, false⟩ data build := by
  rw [buildWith, buildWith]
  cases data.get? "op" with
  | none => rfl
  | some v =>
    cases v with
    | string name =>
      dsimp only
      cases Operation.ofName? name with
      | none => rfl
      | some operation => exact buildOperation_pruned filter data build operation
    | _ => rfl

/-- **A node is built pruned** by a load that leaves out empty instructions. -/
theorem buildNode_pruned (data : Value) :
    buildNode ⟨filter, true⟩ data = Node.pruned <$> buildNode ⟨filter, false⟩ data := by
  have hparts : (fun v (_ : v.height < data.height) ↦ buildNode ⟨filter, true⟩ v) =
      prunedBelow fun v _ ↦ buildNode ⟨filter, false⟩ v := by
    funext v hv
    exact buildNode_pruned v
  rw [buildNode_eq, buildNode_eq ⟨filter, false⟩, hparts]
  exact buildWith_pruned filter data _
termination_by data.height

/-! ### Functions and modules -/

theorem buildMembers_pruned (data : Value) :
    buildMembers ⟨filter, true⟩ data = Function.pruned <$> buildMembers ⟨filter, false⟩ data := by
  simp only [buildMembers, map_bind]
  congr 1
  funext name
  congr 1
  funext _
  congr 1
  funext items
  congr 1
  funext _
  cases data.get? "body" with
  | none => rfl
  | some bodyData =>
    dsimp only
    rw [buildNode_pruned, bind_map_left, map_bind]
    congr 1
    funext body
    cases body <;> rfl

theorem buildFunction_pruned (data : Value) :
    buildFunction ⟨filter, true⟩ data = Function.pruned <$> buildFunction ⟨filter, false⟩ data := by
  cases data with
  | object members => exact buildMembers_pruned filter (.object members)
  | _ => rfl

theorem buildWanted_pruned (items : List Value) :
    buildWanted ⟨filter, true⟩ items =
      List.map Function.pruned <$> buildWanted ⟨filter, false⟩ items := by
  induction items with
  | nil => rfl
  | cons data rest ih =>
    simp only [buildWanted, map_bind]
    congr 1
    funext name
    have hselects : LoadSettings.selects ⟨filter, true⟩ name =
        LoadSettings.selects ⟨filter, false⟩ name := rfl
    rw [hselects]
    split
    · simp only [buildFunction_pruned, ih, map_bind, bind_map_left, map_pure, List.map_cons]
    · rw [ih, map_bind]

theorem buildModule_eq_pruned (data : Value) :
    buildModule ⟨filter, true⟩ data =
      List.map Function.pruned <$> buildModule ⟨filter, false⟩ data := by
  rw [buildModule, buildModule]
  cases data.get? "functions" with
  | none => rfl
  | some v =>
    cases v with
    | list items => exact buildWanted_pruned filter items
    | _ => rfl

theorem readModule_pruned (text : List Char) :
    readModule ⟨filter, true⟩ text =
      List.map Function.pruned <$> readModule ⟨filter, false⟩ text := by
  rw [readModule, readModule]
  cases Document.readDocument? text with
  | none => rfl
  | some data => exact buildModule_eq_pruned filter data

end

/-! ### Runs of a load -/

theorem run_map {α β : Type} (g : α → β) (work : Build α) (w : Workspace) :
    ((g <$> work).run w).1 = g <$> (work.run w).1 := by
  have hmap : (g <$> work) = EStateM.map g work := rfl
  rw [hmap, run, run, EStateM.map]
  cases work { w with log := [] } with
  | ok a w => exact congrArg (Logged.mk _) (List.append_nil _).symm
  | error e w => rfl

/-- **Leaving out empty instructions is pruning.** A load that leaves them out does what the other
load does, with the same failures, and prunes the functions. Of the children of a node, pruning
drops the empty instructions of a block and nothing else, and the blocks and containers that
branches and leaves name are still there. A statement does nothing exactly if it does nothing when
it is pruned, so the conditionals show the same second arms, in C and in a dump. -/
theorem buildModule_pruned (filter : Text) :
    (∀ data, buildModule ⟨filter, true⟩ data =
      List.map Function.pruned <$> buildModule ⟨filter, false⟩ data) ∧
    (∀ text, load ⟨filter, true⟩ text = List.map Function.pruned <$> load ⟨filter, false⟩ text) ∧
    (∀ n : Node,
      n.pruned.children = (n.children.filter fun c ↦ !n.dropsChild c).map Node.pruned ∧
      n.pruned.serials = n.serials ∧ n.pruned.isEmptyStatement = n.isEmptyStatement) ∧
    ∀ f : Function, f.pruned.name = f.name ∧ f.pruned.locals = f.locals ∧
      (∀ mode file file', (C.lowerFunction mode f).outcome = .ok file →
        (C.lowerFunction mode f.pruned).outcome = .ok file' → file'.body.arms = file.body.arms) ∧
      ∀ indent lines, f.dumpLines indent = .ok lines → ∃ lines',
        f.pruned.dumpLines indent = .ok lines' ∧
          lines'.filter Dump.isBetweenArms = lines.filter Dump.isBetweenArms := by
  refine ⟨buildModule_eq_pruned filter, fun text ↦ ?_, fun n ↦ ?_, fun f ↦ ⟨rfl, rfl, ?_, ?_⟩⟩
  · rw [load, load, readModule_pruned, run_map]
  · exact ⟨n.children_pruned, n.serials_pruned, n.isEmptyStatement_pruned⟩
  · intro mode file file' h h'
    rw [C.arms_of_lowerFunction h, C.arms_of_lowerFunction h']
    exact f.body.arms_pruned
  · exact fun indent lines h ↦ Dump.keepsArms_dumpLines h

/-- A function with empty instructions in the arms of its conditionals. Of the first conditional no
second arm is shown, of the second one it is. -/
def nopsInArms : Function :=
  let x : Variable := ⟨"x", .i4, some 0⟩
  let store : Node := .store x (.load x)
  let arm (serial : Nat) (ns : List Node) : Node :=
    .block ⟨⟨serial, .controlFlow, .string "arm"⟩, ns⟩
  ⟨"Main", [x], arm 0 [.nop, .cond (.load x) (arm 1 [.nop, store]) (arm 2 [.nop, .nop]),
    .cond (.load x) (arm 3 [.nop]) (arm 4 [store, .nop]), .nop]⟩

theorem arms_of_nopsInArms :
    ∃ file file' lines lines',
      (C.lowerFunction .bestEffort nopsInArms).outcome = .ok file ∧
      (C.lowerFunction .bestEffort nopsInArms.pruned).outcome = .ok file' ∧
      nopsInArms.dumpLines (.string " ") = .ok lines ∧
      nopsInArms.pruned.dumpLines (.string " ") = .ok lines' ∧
      file.body.arms = [false, true] ∧ file'.body.arms = file.body.arms ∧
      lines.length = 22 ∧ lines'.length = 17 ∧
      lines.filter Dump.isBetweenArms = [("  \x7d else \x7b" : Text)] ∧
      lines'.filter Dump.isBetweenArms = lines.filter Dump.isBetweenArms := by
  obtain ⟨-, -, -, hall⟩ := buildModule_pruned "Main"
  obtain ⟨-, -, hlowered, hdumped⟩ := hall nopsInArms
  obtain ⟨lines', hlines', hsame⟩ := hdumped (.string " ") _ rfl
  have harms := hlowered .bestEffort _ _ rfl rfl
  refine ⟨_, _, _, lines', rfl, rfl, rfl, hlines', rfl, harms, rfl, ?_, ?_, hsame⟩
  · cases hlines'
    rfl
  · rfl

end StructuredIL.Build
