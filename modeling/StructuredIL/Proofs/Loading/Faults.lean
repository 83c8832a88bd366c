import StructuredIL.Proofs.Loading.Grammar

/-!
# What is wrong with a document

A load ends at the first fault that it comes to. Here all faults of a document are listed, in the
order in which a load comes to them, without loading anything: `Value.faults` for a node,
`Value.functionFaults` and `Value.moduleFaults` above it. A fault of one part hides nothing of the
next part, except where the next part has no meaning without the first.

The list does not depend on the settings of the load, nor on what has been loaded before.
-/

namespace StructuredIL

/-- The opcode of the nodes that an operation makes. -/
def Operation.opcode : Operation → Opcode
  | nop => .nop
  | constant => .ldcI4
  | load => .ldloc
  | store => .stloc
  | compare => .comp
  | binary => .binaryNumeric
  | cond => .ifInstruction
  | call => .call
  | branch => .branch
  | leave => .leave
  | block => .block
  | container => .blockContainer

namespace Value

/-! ### Members -/

/-- The faults of the values that are lower than a bound. -/
abbrev FaultsBelow (bound : Nat) := (v : Value) → v.height < bound → List LoadFault

/-- A member is lower than what it is a member of. -/
theorem height_lt_of_member {data v : Value} {key : String} (h : data.get? key = some v) :
    v.height < data.height :=
  height_lt_of_get? h

/-- What is in a member is lower. -/
theorem height_lt_of_element {data v w : Value} {key : String} {items : List Value}
    (h : data.get? key = some v) (hitems : v.elements? = some items) (hw : w ∈ items) :
    w.height < data.height :=
  Nat.lt_of_le_of_lt (height_le_of_elements? hitems hw) (height_lt_of_get? h)

/-- What is in a list is lower than what the list is a member of. -/
theorem height_lt_of_item {data w : Value} {key : String} {items : List Value}
    (h : data.get? key = some (.list items)) (hw : w ∈ items) : w.height < data.height :=
  height_lt_of_element h rfl hw

/-- The faults of a member that a node must have. -/
def memberFaults (data : Value) (below : FaultsBelow data.height) (operation : Operation)
    (key : String) : List LoadFault :=
  match h : data.get? key with
  | some v => below v (height_lt_of_member h)
  | none => [.ofFormat (.missingMember operation key)]

theorem memberFaults_of_some {data v : Value} {below : FaultsBelow data.height}
    {operation : Operation} {key : String} (h : data.get? key = some v) :
    memberFaults data below operation key = below v (height_lt_of_member h) := by
  rw [memberFaults]
  split
  · rename_i w hw
    obtain rfl : w = v := Option.some.inj (hw.symm.trans h)
    rfl
  · cases h.symm.trans ‹_›

theorem memberFaults_of_none {data : Value} {below : FaultsBelow data.height}
    {operation : Operation} {key : String} (h : data.get? key = none) :
    memberFaults data below operation key = [.ofFormat (.missingMember operation key)] := by
  rw [memberFaults]
  split
  · cases h.symm.trans ‹_›
  · rfl

/-- The faults of a member that a node may have. -/
def memberFaults? (data : Value) (below : FaultsBelow data.height) (key : String) :
    List LoadFault :=
  match h : data.get? key with
  | none => []
  | some .null => []
  | some v => below v (height_lt_of_member h)

theorem memberFaults?_of_some {data v : Value} {below : FaultsBelow data.height} {key : String}
    (h : data.given? key = some v) :
    memberFaults? data below key = below v (height_lt_of_member (given?_eq_some.1 h).1) := by
  obtain ⟨hget, hnull⟩ := given?_eq_some.1 h
  rw [memberFaults?]
  split
  · cases hget.symm.trans ‹_›
  · exact absurd (Option.some.inj (hget.symm.trans ‹_›)) hnull
  · rename_i w _ hw
    obtain rfl : w = v := Option.some.inj (hw.symm.trans hget)
    rfl

theorem memberFaults?_of_none {data : Value} {below : FaultsBelow data.height} {key : String}
    (h : data.given? key = none) : memberFaults? data below key = [] := by
  rw [memberFaults?]
  split
  · rfl
  · rfl
  · rename_i v hnull hget
    have hgiven : data.given? key = some v := given?_eq_some.2 ⟨hget, hnull⟩
    cases h.symm.trans hgiven

theorem height_lt_of_head {bound : Nat} {v : Value} {rest : List Value}
    (h : ∀ w ∈ v :: rest, w.height < bound) : v.height < bound :=
  (List.forall_mem_cons.1 h).1

theorem height_lt_of_tail {bound : Nat} {v : Value} {rest : List Value}
    (h : ∀ w ∈ v :: rest, w.height < bound) : ∀ w ∈ rest, w.height < bound :=
  (List.forall_mem_cons.1 h).2

/-- The faults of some values, in order. -/
def allFaults {bound : Nat} (below : FaultsBelow bound) :
    (items : List Value) → (∀ v ∈ items, v.height < bound) → List LoadFault
  | [], _ => []
  | v :: rest, h => below v (height_lt_of_head h) ++ allFaults below rest (height_lt_of_tail h)

/-- The faults of what a walk over a member meets. -/
def walkFaults (data : Value) (below : FaultsBelow data.height) (key : String) : List LoadFault :=
  match h : data.get? key with
  | none => []
  | some v =>
    match h' : v.elements? with
    | none => [.notIterable]
    | some items => allFaults below items fun _ ↦ height_lt_of_element h h'

/-- What a walk over a member meets is lower. -/
theorem height_lt_of_walkOf? {data v : Value} {key : String} {items : List Value}
    (h : data.walkOf? key = some items) (hv : v ∈ items) : v.height < data.height := by
  rw [walkOf?] at h
  split at h
  · cases h
    cases hv
  · exact height_lt_of_element ‹_› h hv

theorem walkFaults_of_some {data : Value} {below : FaultsBelow data.height} {key : String}
    {items : List Value} (h : data.walkOf? key = some items) :
    walkFaults data below key = allFaults below items fun _ ↦ height_lt_of_walkOf? h := by
  rw [walkFaults]
  split
  · rename_i hget
    rw [walkOf?, hget] at h
    cases h
    rfl
  · rename_i v hget
    have hwalk : v.elements? = some items := by rwa [walkOf?, hget] at h
    split
    · cases hwalk.symm.trans ‹_›
    · rename_i items' helements
      obtain rfl : items' = items := Option.some.inj (helements.symm.trans hwalk)
      rfl

theorem walkFaults_of_none {data : Value} {below : FaultsBelow data.height} {key : String}
    (h : data.walkOf? key = none) : walkFaults data below key = [.notIterable] := by
  rw [walkFaults]
  split
  · rename_i hget
    rw [walkOf?, hget] at h
    cases h
  · rename_i v hget
    have hwalk : v.elements? = none := by rwa [walkOf?, hget] at h
    split
    · rfl
    · cases hwalk.symm.trans ‹_›

theorem height_lt_of_listOf? {data v : Value} {key : String} {items : List Value}
    (h : data.listOf? key = some items) (hv : v ∈ items) : v.height < data.height :=
  height_lt_of_walkOf? (walkOf?_of_listOf? h) hv

/-! ### Names -/

/-- The faults of the spelling of a member of a vocabulary. -/
def spellingFaults (α : Type) [Vocabulary α] (what : String) (v : Value) : List LoadFault :=
  match v with
  | .string s =>
    match Vocabulary.ofSpelling (α := α) s with
    | .ok _ => []
    | .error _ => [.ofFormat (.unknownKind what s)]
  | v => [.ofFormat (.kindNotAString what v)]

/-- The faults of the member that spells a member of a vocabulary. -/
def requiredSpellingFaults (α : Type) [Vocabulary α] (data : Value) (operation : Operation)
    (key what : String) : List LoadFault :=
  match data.get? key with
  | some v => spellingFaults α what v
  | none => [.ofFormat (.missingMember operation key)]

/-- The faults of the name of a variable. -/
def variableFaults (names : List Text) (data : Value) (operation : Operation) : List LoadFault :=
  match data.get? "var" with
  | some (.string name) => if name ∈ names then [] else [.ofFormat (.undeclared (.string name))]
  | some v => [.ofFormat (.undeclared v)]
  | none => [.ofFormat (.missingMember operation "var")]

/-- The faults of the value of a constant. -/
def constantFaults (data : Value) : List LoadFault :=
  match data.get? "value" with
  | some (.int n) =>
    if Build.minInt32 ≤ n ∧ n ≤ Build.maxInt32 then [] else [.ofFormat (.outOfRange n)]
  | some v => [.ofFormat (.notAnInteger v)]
  | none => [.ofFormat (.missingMember .constant "value")]

/-- The faults of the target of a branch. -/
def branchFaults (scope : List Labels) (data : Value) : List LoadFault :=
  match data.get? "target", scope with
  | none, _ => [.ofFormat (.missingMember .branch "target")]
  | some target, [] => [.ofFormat (.branchOutside target)]
  | some target, labels :: _ =>
    if labels.blocks.any fun label ↦ label.same target then []
    else [.ofFormat (.noSuchBlock target labels.container)]

/-- The faults of the target of a leave in a scope. -/
def leaveFaults (scope : List Labels) (data : Value) : List LoadFault :=
  match data.given? "target" with
  | none => []
  | some target =>
    if scope.any fun labels ↦ labels.container.same target then []
    else [.ofFormat (.noSuchContainer target)]

/-! ### Blocks and containers -/

/-- The faults of a block apart from its instructions. -/
def blockHeadFaults (data : Value) : List LoadFault :=
  spellingFaults BlockKind "block kind" (data.kindOr "ControlFlow")

/-- The faults of the blocks of a container apart from their instructions. -/
def blockHeadsFaults (container : Value) (index : Nat) : List Value → List LoadFault
  | [] => []
  | data :: rest =>
    match data with
    | .object _ => blockHeadFaults data ++ blockHeadsFaults container (index + 1) rest
    | _ => [.ofFormat (.blockNotAnObject container index)]

/-- What is lower than the first of some values has their bound. -/
theorem height_lt_of_lt_head {bound : Nat} {v w : Value} {rest : List Value}
    (h : ∀ u ∈ v :: rest, u.height < bound) (hw : w.height < v.height) : w.height < bound :=
  Nat.lt_trans hw (height_lt_of_head h)

/-- The faults of the instructions of some blocks. -/
def blocksFaults {bound : Nat} (below : FaultsBelow bound) :
    (items : List Value) → (∀ v ∈ items, v.height < bound) → List LoadFault
  | [], _ => []
  | data :: rest, h =>
    walkFaults data (fun v hv ↦ below v (height_lt_of_lt_head h hv)) "instructions" ++
      blocksFaults below rest (height_lt_of_tail h)

/-! ### Nodes -/

/-- The faults of the arguments of a call. -/
def argumentFaults (data : Value) (below : FaultsBelow data.height) : List LoadFault :=
  match h : data.get? "args" with
  | none => []
  | some (.list items) => allFaults below items fun _ ↦ height_lt_of_item h
  | some v => [.ofFormat (.argumentsNotAList v)]

theorem argumentFaults_of_list {data : Value} {below : FaultsBelow data.height}
    {items : List Value} (h : data.listOf? "args" = some items) :
    argumentFaults data below = allFaults below items fun _ ↦ height_lt_of_listOf? h := by
  rw [listOf?] at h
  rw [argumentFaults]
  split <;> simp_all [allFaults]

theorem argumentFaults_of_not_list {data v : Value} {below : FaultsBelow data.height}
    (h : data.get? "args" = some v) (hv : ∀ items, v ≠ .list items) :
    argumentFaults data below = [.ofFormat (.argumentsNotAList v)] := by
  rw [argumentFaults]
  split
  · cases h.symm.trans ‹_›
  · exact absurd (Option.some.inj (h.symm.trans ‹_›)) (hv _)
  · rename_i w _ hw
    obtain rfl : w = v := Option.some.inj (hw.symm.trans h)
    rfl

/-- The faults of the blocks of a container. -/
def containerFaults (depth : Nat) (data : Value)
    (inside : Labels → FaultsBelow data.height) : List LoadFault :=
  match h : data.get? "blocks" with
  | none => []
  | some (.list items) =>
    blockHeadsFaults (data.containerLabel depth) 0 items ++
      blocksFaults (inside (.ofContainer depth data items)) items fun _ ↦ height_lt_of_item h
  | some _ => [.ofFormat (.blocksNotAList (data.containerLabel depth))]

theorem containerFaults_of_list {depth : Nat} {data : Value}
    {inside : Labels → FaultsBelow data.height} {items : List Value}
    (h : data.listOf? "blocks" = some items) :
    containerFaults depth data inside =
      blockHeadsFaults (data.containerLabel depth) 0 items ++
        blocksFaults (inside (.ofContainer depth data items)) items
          fun _ ↦ height_lt_of_listOf? h := by
  rw [listOf?] at h
  rw [containerFaults]
  split <;> simp_all [blockHeadsFaults, blocksFaults]

theorem containerFaults_of_not_list {depth : Nat} {data v : Value}
    {inside : Labels → FaultsBelow data.height} (h : data.get? "blocks" = some v)
    (hv : ∀ items, v ≠ .list items) :
    containerFaults depth data inside =
      [.ofFormat (.blocksNotAList (data.containerLabel depth))] := by
  rw [containerFaults]
  split
  · cases h.symm.trans ‹_›
  · exact absurd (Option.some.inj (h.symm.trans ‹_›)) (hv _)
  · rfl

/-- The faults of the node of an operation. -/
def operationFaults (names : List Text) (scope : List Labels) (data : Value)
    (below : List Labels → FaultsBelow data.height) : Operation → List LoadFault
  | .nop => []
  | .constant => constantFaults data
  | .load => variableFaults names data .load
  | .store =>
    variableFaults names data .store ++ memberFaults data (below scope) .store "value"
  | .compare =>
    requiredSpellingFaults ComparisonKind data .compare "kind" "comparison kind" ++
      (memberFaults data (below scope) .compare "left" ++
        memberFaults data (below scope) .compare "right")
  | .binary =>
    requiredSpellingFaults BinaryOperator data .binary "operator" "binary operator" ++
      (memberFaults data (below scope) .binary "left" ++
        memberFaults data (below scope) .binary "right")
  | .cond =>
    memberFaults data (below scope) .cond "condition" ++
      (memberFaults data (below scope) .cond "true" ++ memberFaults? data (below scope) "false")
  | .call => argumentFaults data (below scope)
  | .branch => branchFaults scope data
  | .leave =>
    match scope with
    | [] => [.ofFormat .leaveOutside]
    | _ :: _ => memberFaults? data (below scope) "value" ++ leaveFaults scope data
  | .block => blockHeadFaults data ++ walkFaults data (below scope) "instructions"
  | .container =>
    spellingFaults ContainerKind "container kind" (data.kindOr "Normal") ++
      containerFaults scope.length data fun labels ↦ below (labels :: scope)

/-- The faults of a node whose parts have these faults. -/
def faultsWith (names : List Text) (scope : List Labels) (data : Value)
    (below : List Labels → FaultsBelow data.height) : List LoadFault :=
  match data.get? "op" with
  | none => [.ofFormat (.notANode data)]
  | some (.list _) => [.notHashable]
  | some (.object _) => [.notHashable]
  | some (.string name) =>
    match Operation.ofName? name with
    | some operation => operationFaults names scope data below operation
    | none => [.ofFormat (.unknownOperation (.string name))]
  | some v => [.ofFormat (.unknownOperation v)]

/-- The faults of a node, where these names are declared and these labels are in scope. -/
def faults (names : List Text) (scope : List Labels) (data : Value) : List LoadFault :=
  faultsWith names scope data fun scope v _ ↦ faults names scope v
termination_by data.height

theorem faults_eq (names : List Text) (scope : List Labels) (data : Value) :
    faults names scope data = faultsWith names scope data fun scope v _ ↦ faults names scope v := by
  rw [faults]

/-! ### Functions and modules -/

/-- The faults of the declarations of a function, from an index on; these names are declared
before. -/
def declarationFaults (function : Text) (index : Nat) (names : List Text) :
    List Value → List LoadFault
  | [] => []
  | data :: rest =>
    match data.name? with
    | none => [.ofFormat (.variableWithoutName index)]
    | some name =>
      spellingFaults PrimitiveType "variable type" ((data.get? "type").getD .null) ++
        if name ∈ names then [.ofFormat (.declaredTwice function name)]
        else declarationFaults function (index + 1) (names ++ [name]) rest

/-- The faults of a body apart from those of its nodes. -/
def bodyFaults (function : Text) (body : Value) : List LoadFault :=
  match body.operation? with
  | none => []
  | some .block => []
  | some .container => []
  | some operation => [.ofFormat (.notABody function operation.opcode)]

/-- The faults of a function. -/
def functionFaults (data : Value) : List LoadFault :=
  match data.name?, data.walkOf? "variables" with
  | none, _ => [.ofFormat .functionWithoutName]
  | some _, none => [.notIterable]
  | some name, some items =>
    declarationFaults name 0 [] items ++
      match data.get? "body" with
      | none => [.ofFormat (.missingBody name)]
      | some body => faults (items.filterMap name?) [] body ++ bodyFaults name body

/-- The faults of a function of a module, if the function is wanted. -/
def wantedFaults (s : LoadSettings) (data : Value) : List LoadFault :=
  match data.name? with
  | none => [.ofFormat .functionWithoutName]
  | some name => if s.selects name then functionFaults data else []

/-- The faults of a module. -/
def moduleFaults (s : LoadSettings) (data : Value) : List LoadFault :=
  match data.get? "functions" with
  | some (.list items) => items.flatMap (wantedFaults s)
  | _ => [.ofFormat .notAModule]

end Value

end StructuredIL
