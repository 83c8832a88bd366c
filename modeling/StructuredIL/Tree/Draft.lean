import StructuredIL.Tree.Basic

/-!
# Drafts

A draft is a set of parts under construction. A part may stand in many others, and blocks and
containers can still grow: what is added to one is seen through every part that holds it. So the
nodes of a draft hold blocks and containers by their heads alone, and the draft keeps beside them
what each has inside. `Draft.complete` puts the insides in place and gives an ordinary tree.

Every part gets a serial number of its own when it is made. Two parts are one object when their
serial numbers agree, except that variables are one when their names and places agree.
-/

namespace StructuredIL

/-- Something that can be named in a draft. -/
inductive Part where
  /-- A variable. -/
  | ofVariable (v : Variable)
  /-- A function. -/
  | ofFunction (f : Function)
  /-- A node whose blocks and containers are empty: their insides are kept in the draft. -/
  | ofNode (n : Node)
  deriving Inhabited

/-- A part with the number that tells it from all others. -/
structure Piece where
  /-- The number. -/
  serial : Nat
  /-- The part. -/
  part : Part
  deriving Inhabited

/-- Whether two pieces are one: variables by name and place, all else by identity. -/
def Piece.same (p q : Piece) : Bool :=
  match p.part, q.part with
  | .ofVariable v, .ofVariable w => v.same w
  | _, _ => p.serial == q.serial

/-- Parts under construction. -/
structure Draft where
  /-- The next serial number. -/
  next : Nat
  /-- What the blocks have inside, by serial number. -/
  instructions : List (Nat × List Node)
  /-- What the containers have inside, by serial number. -/
  blocks : List (Nat × List BlockHead)
  deriving Inhabited

namespace Draft

/-- A draft with no parts. -/
def empty : Draft := ⟨0, [], []⟩

/-! ### Insides -/

/-- The entry of a serial number. -/
def insideOf {α : Type} (entries : List (Nat × List α)) (serial : Nat) : List α :=
  match entries.find? fun e ↦ e.1 == serial with
  | some e => e.2
  | none => []

/-- Adds to the end of an entry. -/
def grow {α : Type} (serial : Nat) (a : α) : List (Nat × List α) → List (Nat × List α)
  | [] => [(serial, [a])]
  | (s, inside) :: rest =>
    if s == serial then (s, inside ++ [a]) :: rest else (s, inside) :: grow serial a rest

theorem insideOf_grow {α : Type} (serial : Nat) (a : α) (entries : List (Nat × List α)) :
    insideOf (grow serial a entries) serial = insideOf entries serial ++ [a] := by
  induction entries with
  | nil => simp [grow, insideOf]
  | cons e rest ih =>
    obtain ⟨s, inside⟩ := e
    by_cases h : s = serial
    · simp [grow, insideOf, h]
    · have hs : (s == serial) = false := by simp [h]
      simpa [grow, insideOf, hs] using ih

/-! ### Making parts -/

/-- Takes a part into the draft. -/
def add (part : Part) (d : Draft) : Piece × Draft :=
  (⟨d.next, part⟩, { d with next := d.next + 1 })

/-- Makes a block; one without a label is called `Block`. -/
def addBlock (kind : BlockKind) (instructions : List Node) (label? : Option Value) (d : Draft) :
    Piece × Draft :=
  let head : BlockHead := ⟨d.next, kind, Value.orElse label? (.string "Block")⟩
  (⟨d.next, .ofNode (.block ⟨head, []⟩)⟩,
    { d with next := d.next + 1, instructions := (d.next, instructions) :: d.instructions })

/-- Makes a container; one without a label is called `BlockContainer`. -/
def addContainer (kind : ContainerKind) (blocks : List BlockHead) (label? : Option Value)
    (d : Draft) : Piece × Draft :=
  let head : ContainerHead := ⟨d.next, kind, Value.orElse label? (.string "BlockContainer")⟩
  (⟨d.next, .ofNode (.container head [])⟩,
    { d with next := d.next + 1, blocks := (d.next, blocks) :: d.blocks })

/-- Adds an instruction to the end of a block. -/
def appendInstruction (block : BlockHead) (instruction : Node) (d : Draft) : Draft :=
  { d with instructions := grow block.serial instruction d.instructions }

/-- Adds a block to the end of a container. -/
def appendBlock (container : ContainerHead) (block : BlockHead) (d : Draft) : Draft :=
  { d with blocks := grow container.serial block d.blocks }

end Draft

/-! ### Completion -/

namespace Node

mutual
/-- A node with the insides of its blocks and containers put in place. -/
def fill (inBlock : BlockHead → List Node) (inContainer : ContainerHead → List Block) :
    Node → Node
  | nop => nop
  | bare op => bare op
  | constant value => constant value
  | load v => load v
  | compare kind l r => compare kind (fill inBlock inContainer l) (fill inBlock inContainer r)
  | binary op l r => binary op (fill inBlock inContainer l) (fill inBlock inContainer r)
  | store v value => store v (fill inBlock inContainer value)
  | branch target => branch target
  | cond c yes no =>
    cond (fill inBlock inContainer c) (fill inBlock inContainer yes) (fill inBlock inContainer no)
  | call arguments method => call (fillAll inBlock inContainer arguments) method
  | leave target value => leave target (fill inBlock inContainer value)
  | block b => block ⟨b.head, inBlock b.head⟩
  | container head _ => container head (inContainer head)

/-- Some nodes with the insides of their blocks and containers put in place. -/
def fillAll (inBlock : BlockHead → List Node) (inContainer : ContainerHead → List Block) :
    List Node → List Node
  | [] => []
  | n :: rest => fill inBlock inContainer n :: fillAll inBlock inContainer rest
end

end Node

namespace Draft

/-- A node of a draft as a tree, down to a number of blocks and containers within each other. -/
def completeTo (d : Draft) : Nat → Node → Node
  | 0, n => n.fill (fun _ ↦ []) (fun _ ↦ [])
  | depth + 1, n =>
    let inside (b : BlockHead) := (insideOf d.instructions b.serial).map (d.completeTo depth)
    n.fill inside fun c ↦ (insideOf d.blocks c.serial).map fun b ↦ ⟨b, inside b⟩

/-- A node of a draft as a tree. No path of a tree goes through one block or container twice, so the
number of parts bounds the depth. -/
def complete (d : Draft) (n : Node) : Node := d.completeTo d.next n

/-- A function of a draft with its whole body. -/
def completeFunction (d : Draft) (f : Function) : Function :=
  { f with body := d.complete f.body }

/-- A part of a draft with all its insides. -/
def completePart (d : Draft) : Part → Part
  | .ofVariable v => .ofVariable v
  | .ofFunction f => .ofFunction (d.completeFunction f)
  | .ofNode n => .ofNode (d.complete n)

end Draft

end StructuredIL
