import StructuredIL.Proofs.Loading.Scope

/-!
# Loading by evaluation

Building a node goes down by the height of its document, and such a recursion does not unfold by
itself. `buildUpTo` goes down by a number instead. It is the same for every document that is lower
than the number (`buildUpTo_eq`), and on a document that is written out it can be evaluated, so what
comes of a given document is found by computation (`buildFunction_eq_ok`).
-/

namespace StructuredIL

/-! ### Documents -/

namespace Value

/-- An object with members of these names. -/
def ofFields (fields : List (String × Value)) : Value :=
  .object (fields.map fun m ↦ (Text.ofString m.1, m.2))

/-- The document of a node. -/
def ofOperation (op : String) (fields : List (String × Value)) : Value :=
  ofFields (("op", .string op) :: fields)

/-- The document of a container with a label; its blocks are labelled as well. -/
def ofContainer (kind label : String) (blocks : List (String × List Value)) : Value :=
  ofOperation "BlockContainer" [("kind", .string kind), ("label", .string label),
    ("blocks", .list (blocks.map fun b ↦
      ofFields [("label", .string b.1), ("instructions", .list b.2)]))]

end Value

/-! ### Building up to a bound -/

namespace Build

/-- Builds a node that is nested at most as deep as a bound. -/
def buildUpTo (s : LoadSettings) : Nat → Value → Build Node
  | 0, _ => throw .notAnObject
  | n + 1, data => buildWith s data fun v _ ↦ buildUpTo s n v

theorem buildUpTo_eq (s : LoadSettings) {n : Nat} {data : Value} (h : data.height < n) :
    buildUpTo s n data = buildNode s data := by
  induction n generalizing data with
  | zero => exact absurd h (Nat.not_lt_zero _)
  | succ n ih =>
    have hparts : (fun v (_ : v.height < data.height) ↦ buildUpTo s n v) =
        fun v _ ↦ buildNode s v := by
      funext v hv
      exact ih (Nat.lt_of_lt_of_le hv (Nat.le_of_lt_succ h))
    rw [buildNode_eq, buildUpTo, hparts]

/-- A function is built if its variables can be declared and its body, a container, can be built. -/
theorem buildFunction_eq_ok {s : LoadSettings} {members : List (Text × Value)}
    {w w₁ w₂ w₃ : Workspace} {name : Text} {bodyData : Value} {head : ContainerHead}
    {blocks : List Block} {locals : List Variable}
    {items : { items : List Value // ∀ v ∈ items, v.height < (Value.object members).height }}
    (n : Nat) (hheight : bodyData.height < n)
    (hname : functionName (.object members) w = .ok name w)
    (hitems : elementsOf (.object members) "variables"
      { w with locals := [], containers := [], nextSerial := 0 } = .ok items w₁)
    (hdeclare : declareAll name 0 items.1 w₁ = .ok () w₂)
    (hbodyData : (Value.object members).get? "body" = some bodyData)
    (hbody : buildUpTo s n bodyData w₂ = .ok (.container head blocks) w₃)
    (hlocals : w₃.locals = locals) :
    ∃ w', buildFunction s (.object members) w = .ok ⟨name, locals, .container head blocks⟩ w' := by
  subst hlocals
  rw [buildUpTo_eq s hheight] at hbody
  rw [buildFunction, buildMembers]
  refine ⟨{ w₃ with log := w₃.log ++ [⟨.debug, .loader,
    "Loaded " ++ name ++ s!": {w₃.locals.length} variables"⟩] }, ?_⟩
  refine bind_eq_ok.2 ⟨name, w, hname, bind_eq_ok.2 ⟨(), _, rfl, ?_⟩⟩
  refine bind_eq_ok.2 ⟨items, w₁, hitems, bind_eq_ok.2 ⟨(), w₂, hdeclare, ?_⟩⟩
  rw [hbodyData]
  exact bind_eq_ok.2 ⟨_, w₃, hbody, bind_eq_ok.2 ⟨w₃, w₃, rfl, rfl⟩⟩

end Build

end StructuredIL
