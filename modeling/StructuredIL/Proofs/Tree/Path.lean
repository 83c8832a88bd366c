import StructuredIL.Proofs.Tree.Scope

/-!
# Paths into a tree

A path is a list of places among parts, from the top of a tree down. `follow` goes along a path in
anything that has parts; it is used on the statements of a tree and on the places of a C text, and
`follow_of_rel` takes a path from the one to the other.

The parts of a node are the statements that lowering goes into: the arms of a conditional, except
a second arm that does nothing, the instructions of a block, the blocks of a container. What a jump
in a resolved tree refers to lies on the path that leads to the jump: a leave names a container on
it (`Node.Resolved.exists_of_leave`) and a branch a block of the last one
(`Node.Resolved.exists_of_branch`). No two containers on a path have one number
(`Node.Resolved.ne_of_prefix`).
-/

namespace StructuredIL

/-! ### Following a path -/

section Follow

variable {α β : Type} {parts : α → List α} {parts' : β → List β}

/-- The part that a path leads to. -/
def follow (parts : α → List α) : List Nat → α → Option α
  | [], a => some a
  | i :: p, a => (parts a)[i]?.bind (follow parts p)

theorem follow_nil (a : α) : follow parts [] a = some a := rfl

theorem follow_cons_eq_some {i : Nat} {p : List Nat} {a c : α} :
    follow parts (i :: p) a = some c ↔
      ∃ b, (parts a)[i]? = some b ∧ follow parts p b = some c :=
  Option.bind_eq_some_iff

theorem follow_append_eq_some {p q : List Nat} {a c : α} :
    follow parts (p ++ q) a = some c ↔
      ∃ b, follow parts p a = some b ∧ follow parts q b = some c := by
  induction p generalizing a with
  | nil => simp [follow_nil]
  | cons i p ih =>
    simp only [List.cons_append, follow_cons_eq_some, ih]
    constructor
    · rintro ⟨b, hb, d, hd, hc⟩
      exact ⟨d, ⟨b, hb, hd⟩, hc⟩
    · rintro ⟨d, ⟨b, hb, hd⟩, hc⟩
      exact ⟨b, hb, d, hd, hc⟩

/-- What holds of a thing and its parts holds all along a path. -/
theorem follow_invariant {P : α → Prop} (hP : ∀ {a b} {i : Nat}, P a → (parts a)[i]? = some b → P b)
    {p : List Nat} {a c : α} (ha : P a) (hc : follow parts p a = some c) : P c := by
  induction p generalizing a with
  | nil =>
    cases hc
    exact ha
  | cons i p ih =>
    obtain ⟨b, hb, hc⟩ := follow_cons_eq_some.1 hc
    exact ih (hP ha hb) hc

/-- If the parts of related things are related one by one, so is what a path leads to. -/
theorem follow_of_rel {R : α → β → Prop}
    (hR : ∀ {a b}, R a b → List.Forall₂ R (parts a) (parts' b)) {p : List Nat} {a c : α} {b : β}
    (hab : R a b) (hc : follow parts p a = some c) :
    ∃ d, follow parts' p b = some d ∧ R c d := by
  induction p generalizing a b with
  | nil =>
    cases hc
    exact ⟨b, rfl, hab⟩
  | cons i p ih =>
    obtain ⟨a', ha', hc⟩ := follow_cons_eq_some.1 hc
    obtain ⟨hlength, hget⟩ := List.forall₂_iff_get.1 (hR hab)
    obtain ⟨hi, rfl⟩ := List.getElem?_eq_some_iff.1 ha'
    obtain ⟨d, hd, hcd⟩ := ih (hget i hi (hlength ▸ hi)) hc
    exact ⟨d, follow_cons_eq_some.2 ⟨_, List.getElem?_eq_getElem (hlength ▸ hi), hd⟩, hcd⟩

end Follow

namespace Node

/-- The parts of a node as a statement. -/
def parts : Node → List Node
  | cond _ yes no => if no.isEmptyStatement then [yes] else [yes, no]
  | block b => b.instructions
  | container _ blocks => blocks.map block
  | _ => []

/-- The statement that a path leads to. -/
abbrev at? (p : List Nat) (n : Node) : Option Node := follow parts p n

theorem parts_container_getElem? {head : ContainerHead} {blocks : List Block} {i : Nat}
    {m : Node} :
    (container head blocks).parts[i]? = some m ↔ ∃ b, blocks[i]? = some b ∧ block b = m := by
  rw [parts, List.getElem?_map, Option.map_eq_some_iff]

/-! ### Names along a path -/

/-- The containers around the parts of a node, if these are around the node. -/
def opens (around : List OpenContainer) : Node → List OpenContainer
  | container head blocks => .ofBlocks head blocks :: around
  | _ => around

variable {locals : List Variable} {around : List OpenContainer} {n m : Node} {p : List Nat}

theorem Resolved.of_mem_parts (h : n.Resolved locals around) (hm : m ∈ n.parts) :
    m.Resolved locals (n.opens around) := by
  cases n with
  | cond c yes no =>
    obtain ⟨-, hyes, hno⟩ := h
    rw [parts] at hm
    split at hm
    · obtain rfl := List.mem_singleton.1 hm
      exact hyes
    · rcases List.mem_pair.1 hm with rfl | rfl
      · exact hyes
      · exact hno
  | block b => exact Block.resolved_iff.1 h m hm
  | container head blocks =>
    obtain ⟨b, hb, rfl⟩ := List.mem_map.1 hm
    exact Block.allResolved_iff.1 h.2.2 b hb
  | _ => exact absurd hm List.not_mem_nil

theorem mem_opens {c : OpenContainer} (hc : c ∈ n.opens around) :
    c ∈ around ∨ ∃ head blocks, n = .container head blocks ∧ c = .ofBlocks head blocks := by
  cases n with
  | container head blocks =>
    rcases List.mem_cons.1 hc with rfl | hc
    · exact .inr ⟨head, blocks, rfl, rfl⟩
    · exact .inl hc
  | _ => exact .inl hc

theorem subset_opens : around ⊆ n.opens around := by
  cases n with
  | container head blocks => exact List.subset_cons_self _ _
  | _ => exact List.Subset.refl _

theorem Resolved.at? (h : n.Resolved locals around) (hm : n.at? p = some m) :
    ∃ inner, around ⊆ inner ∧ m.Resolved locals inner := by
  induction p generalizing n around with
  | nil =>
    cases hm
    exact ⟨around, List.Subset.refl _, h⟩
  | cons i p ih =>
    obtain ⟨part, hpart, hm⟩ := follow_cons_eq_some.1 hm
    obtain ⟨inner, hsub, hinner⟩ := ih (h.of_mem_parts (List.mem_of_getElem? hpart)) hm
    exact ⟨inner, List.Subset.trans subset_opens hsub, hinner⟩

/-- A container inside another has another number. -/
theorem Resolved.ne_of_prefix {q r : List Nat} {i : Nat} {head inner : ContainerHead}
    {blocks innerBlocks : List Block} (h : n.Resolved locals around)
    (hq : n.at? q = some (container head blocks))
    (hr : n.at? (q ++ i :: r) = some (container inner innerBlocks)) :
    head.serial ≠ inner.serial := by
  obtain ⟨outside, -, hcontainer⟩ := h.at? hq
  obtain ⟨m, hm, hr⟩ := follow_append_eq_some.1 hr
  obtain rfl : container head blocks = m := Option.some.inj (hq.symm.trans hm)
  obtain ⟨part, hpart, hr⟩ := follow_cons_eq_some.1 hr
  obtain ⟨around', hsub, hinner⟩ :=
    (hcontainer.of_mem_parts (List.mem_of_getElem? hpart)).at? hr
  exact hinner.1 (.ofBlocks head blocks) (hsub (List.mem_cons_self ..))

/-- Of the containers on a path, one at most has a given number. -/
theorem Resolved.eq_of_serial {q q' : List Nat} {head head' : ContainerHead}
    {blocks blocks' : List Block} (h : n.Resolved locals around) (hq : q <+: p)
    (hcontainer : n.at? q = some (container head blocks)) (hq' : q' <+: p)
    (hcontainer' : n.at? q' = some (container head' blocks'))
    (hserial : head'.serial = head.serial) : q' = q := by
  have hshorter : ∀ {u v : List Nat} {inner outer : ContainerHead} {bs cs : List Block}, u <+: v →
      n.at? u = some (container outer bs) → n.at? v = some (container inner cs) →
      outer.serial = inner.serial → u = v := by
    rintro u _ inner outer bs cs ⟨t, rfl⟩ hu hv hsame
    cases t with
    | nil => exact (List.append_nil u).symm
    | cons j t => exact absurd hsame (h.ne_of_prefix hu hv)
  -- one of two prefixes of a path is a prefix of the other
  rcases List.prefix_or_prefix_of_prefix hq hq' with hqq' | hqq'
  · exact (hshorter hqq' hcontainer hcontainer' hserial.symm).symm
  · exact hshorter hqq' hcontainer' hcontainer hserial

/-- Of the blocks of a container, one has a given number. -/
theorem Resolved.eq_of_block_serial {head : ContainerHead} {blocks : List Block} {b b' : Block}
    {k k' : Nat} (h : (container head blocks).Resolved locals around) (hk : blocks[k]? = some b)
    (hk' : blocks[k']? = some b') (hserial : b'.head.serial = b.head.serial) : k' = k := by
  have hnodup : (blocks.map (·.head.serial)).Nodup := h.2.1
  have hlt : k' < (blocks.map (·.head.serial)).length := by
    rw [List.length_map]
    exact (List.getElem?_eq_some_iff.1 hk').1
  refine (List.getElem?_inj hlt hnodup).1 ?_
  rw [List.getElem?_map, List.getElem?_map, hk, hk', Option.map_some, Option.map_some, hserial]

/-- **A leave names a container on the path to it.** -/
theorem Resolved.exists_of_leave {target : ContainerHead} {value : Node}
    (h : n.Resolved locals around) (hp : n.at? p = some (leave target value)) :
    (∃ c ∈ around, c.head = target) ∨
      ∃ q i r blocks, p = q ++ i :: r ∧ n.at? q = some (container target blocks) := by
  induction p generalizing n around with
  | nil =>
    cases hp
    exact .inl h.1
  | cons i p ih =>
    obtain ⟨part, hpart, hp⟩ := follow_cons_eq_some.1 hp
    rcases ih (h.of_mem_parts (List.mem_of_getElem? hpart)) hp with
      ⟨c, hc, rfl⟩ | ⟨q, j, r, blocks, rfl, hq⟩
    · rcases mem_opens hc with hc | ⟨head, blocks, rfl, rfl⟩
      · exact .inl ⟨c, hc, rfl⟩
      · exact .inr ⟨[], i, p, blocks, rfl, rfl⟩
    · exact .inr ⟨i :: q, j, r, blocks, rfl, follow_cons_eq_some.2 ⟨part, hpart, hq⟩⟩

/-- No container on a path lies behind this point of it. -/
def IsInnermost (n : Node) (q p : List Nat) : Prop :=
  ∀ q' head blocks, q' <+: p → n.at? q' = some (container head blocks) → q' <+: q

theorem IsInnermost.ne_container {q r q' : List Nat} {i : Nat} (h : n.IsInnermost q (q ++ i :: r))
    (hq' : q' <+: r) (head : ContainerHead) (blocks : List Block) :
    n.at? (q ++ i :: q') ≠ some (container head blocks) := by
  intro hcontainer
  have hprefix : q ++ i :: q' <+: q ++ i :: r :=
    (List.prefix_append_right_inj q).2 (List.cons_prefix_cons.2 ⟨rfl, hq'⟩)
  have hlonger := (h _ head blocks hprefix hcontainer).length_le
  rw [List.length_append, List.length_cons] at hlonger
  omega

/-- **A branch names a block of the last container on the path to it.** -/
theorem Resolved.exists_of_branch {target : BlockHead} (h : n.Resolved locals around)
    (hp : n.at? p = some (branch target)) :
    (∃ c, around.head? = some c ∧ target ∈ c.blocks ∧
      ∀ q head blocks, q <+: p → n.at? q ≠ some (container head blocks)) ∨
    ∃ q i r head blocks, p = q ++ i :: r ∧ n.at? q = some (container head blocks) ∧
      target ∈ blocks.map Block.head ∧ n.IsInnermost q p := by
  induction p generalizing n around with
  | nil =>
    cases hp
    obtain ⟨c, hc, hmem⟩ := h
    refine .inl ⟨c, hc, hmem, fun q head blocks hq ↦ ?_⟩
    obtain rfl := List.prefix_nil.1 hq
    exact nofun
  | cons i p ih =>
    obtain ⟨part, hpart, hp⟩ := follow_cons_eq_some.1 hp
    have hstep : ∀ q m, n.at? (i :: q) = some m → part.at? q = some m := by
      intro q m hm
      obtain ⟨part', hpart', hm⟩ := follow_cons_eq_some.1 hm
      obtain rfl : part = part' := Option.some.inj (hpart.symm.trans hpart')
      exact hm
    rcases ih (h.of_mem_parts (List.mem_of_getElem? hpart)) hp with
      ⟨c, hc, hmem, hnone⟩ | ⟨q, j, r, head, blocks, rfl, hq, hmem, hinnermost⟩
    · -- no container on the rest of the path: it is this node, or the one that was open before
      by_cases hn : ∃ head blocks, n = container head blocks
      · obtain ⟨head, blocks, rfl⟩ := hn
        cases hc
        refine .inr ⟨[], i, p, head, blocks, rfl, rfl, hmem, fun q' head' blocks' hprefix hq' ↦ ?_⟩
        rcases List.prefix_cons_iff.1 hprefix with rfl | ⟨q'', rfl, hq''⟩
        · exact List.nil_prefix
        · exact absurd (hstep _ _ hq') (hnone q'' head' blocks' hq'')
      · have hopens : n.opens around = around := by
          cases n with
          | container head blocks => exact absurd ⟨head, blocks, rfl⟩ hn
          | _ => rfl
        refine .inl ⟨c, hopens ▸ hc, hmem, fun q head blocks hprefix hq ↦ ?_⟩
        rcases List.prefix_cons_iff.1 hprefix with rfl | ⟨q', rfl, hq'⟩
        · exact hn ⟨head, blocks, Option.some.inj hq⟩
        · exact hnone q' head blocks hq' (hstep _ _ hq)
    · refine .inr ⟨i :: q, j, r, head, blocks, rfl, follow_cons_eq_some.2 ⟨part, hpart, hq⟩,
        hmem, fun q' head' blocks' hprefix hq' ↦ ?_⟩
      rcases List.prefix_cons_iff.1 hprefix with rfl | ⟨q'', rfl, hq''⟩
      · exact List.nil_prefix
      · exact List.cons_prefix_cons.2 ⟨rfl, hinnermost q'' head' blocks' hq'' (hstep _ _ hq')⟩

end Node

end StructuredIL
