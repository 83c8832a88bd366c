import Mathlib.Data.List.Perm.Basic
import StructuredIL.Proofs.Tree.Nodes

/-!
# The numbers in a tree

Blocks and containers are told apart by their serial numbers, so in a tree no two of them may have
one number. `Node.serials` lists the numbers of a tree. `Numbers a serials b` says of some numbers
what makes them fit to be given out one after the other: they are different, and they lie from `a`
up to `b`. Numbers that were given out from `a` to `b` and from `b` to `c` fit together
(`Numbers.append`), in whatever order they stand in the tree.
-/

namespace StructuredIL

/-! ### Numbers that are given out -/

/-- Different numbers, from a first one up to the next one that is free. -/
structure Numbers (first : Nat) (serials : List Nat) (next : Nat) : Prop where
  /-- Numbers are given out upwards. -/
  le : first ≤ next
  /-- No number is there twice. -/
  nodup : serials.Nodup
  /-- All numbers lie within the bounds. -/
  bounds : ∀ i ∈ serials, first ≤ i ∧ i < next

namespace Numbers

variable {a b c : Nat} {l m : List Nat}

theorem nil (h : a ≤ b) : Numbers a [] b := ⟨h, List.nodup_nil, nofun⟩

theorem singleton (h : a ≤ b) : Numbers a [b] (b + 1) where
  le := by omega
  nodup := List.nodup_singleton b
  bounds := by simp [h]

theorem append (hl : Numbers a l b) (hm : Numbers b m c) : Numbers a (l ++ m) c where
  le := Nat.le_trans hl.le hm.le
  nodup := by
    refine List.nodup_append.2 ⟨hl.nodup, hm.nodup, fun i hi j hj ↦ ?_⟩
    have hib := (hl.bounds i hi).2
    have hbj := (hm.bounds j hj).1
    omega
  bounds i hi := by
    have hbc := hm.le
    have hab := hl.le
    rcases List.mem_append.1 hi with hi | hi
    · have hbounds := hl.bounds i hi
      omega
    · have hbounds := hm.bounds i hi
      omega

/-- More numbers may be given out afterwards. -/
theorem mono (h : Numbers a l b) (hbc : b ≤ c) : Numbers a l c where
  le := Nat.le_trans h.le hbc
  nodup := h.nodup
  bounds i hi := ⟨(h.bounds i hi).1, Nat.lt_of_lt_of_le (h.bounds i hi).2 hbc⟩

theorem perm (h : Numbers a l b) (hp : l.Perm m) : Numbers a m b :=
  ⟨h.le, hp.nodup_iff.1 h.nodup, fun i hi ↦ h.bounds i (hp.mem_iff.2 hi)⟩

/-- Fewer numbers fit as well. -/
theorem sublist (h : Numbers a l b) (hm : m.Sublist l) : Numbers a m b :=
  ⟨h.le, hm.nodup h.nodup, fun i hi ↦ h.bounds i (hm.subset hi)⟩

end Numbers

/-! ### The numbers of a tree -/

namespace Node

/-- The number of a block or a container. -/
def serial? : Node → Option Nat
  | block b => some b.head.serial
  | container head _ => some head.serial
  | _ => none

/-- The numbers of the blocks and containers of a tree. -/
def serials (n : Node) : List Nat := n.nodes.filterMap serial?

theorem serials_eq (n : Node) : n.serials = n.serial?.toList ++ n.children.flatMap serials := by
  rw [serials, nodes_eq]
  cases h : n.serial? with
  | none =>
    simp only [List.filterMap_cons, h, List.filterMap_flatMap]
    rfl
  | some i =>
    simp only [List.filterMap_cons, h, List.filterMap_flatMap]
    rfl

end Node

/-- The numbers of a block and of what is in it. -/
def Block.serials (b : Block) : List Nat := b.head.serial :: b.instructions.flatMap Node.serials

namespace Node

@[simp] theorem serials_block (b : Block) : (block b).serials = b.serials := by
  rw [serials_eq]
  rfl

@[simp] theorem serials_container (head : ContainerHead) (blocks : List Block) :
    (container head blocks).serials = head.serial :: blocks.flatMap Block.serials := by
  rw [serials_eq, children, List.flatMap_map]
  simp [serial?]

end Node

/-- A container has a number, then its blocks have, and then what is in them. -/
theorem Numbers.container {a b c d : Nat} {head : ContainerHead} {blocks : List Block}
    (hhead : Numbers a [head.serial] b) (hheads : Numbers b (blocks.map (·.head.serial)) c)
    (hinside : Numbers c (blocks.flatMap fun b ↦ b.instructions.flatMap Node.serials) d) :
    Numbers a (Node.container head blocks).serials d := by
  rw [Node.serials_container]
  refine hhead.append ((hheads.append hinside).perm ?_)
  exact List.map_append_flatMap_perm blocks (·.head.serial) _

end StructuredIL
