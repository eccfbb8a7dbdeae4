import FlowGate.Flow.Reading
import FlowGate.Proofs.Outcome

/-!
# What flows are read from

Reading a node or a flow comes to reading each of its parts. `Node.ReadFrom` and `Flow.ReadFrom` say
from which entry each part is read. By `Node.read_eq_ok` and `Flow.read_eq_ok` a node or a flow is
what is read from a mapping exactly if this holds of the entries.
-/

namespace FlowGate

open Entries (field)

/-! ## Kinds and headers -/

namespace NodeKind

theorem ofName?_eq_some_iff {s : String} {k : NodeKind} : ofName? s = some k ↔ s = k.name := by
  constructor
  · intro h
    have hname := List.find?_some h
    exact (beq_iff_eq.1 hname).symm
  · rintro rfl
    exact ofName?_name k

theorem ofValue?_eq_some_iff {v : Value} {k : NodeKind} :
    ofValue? v = some k ↔ v = .str k.name := by
  unfold ofValue?
  split
  · rw [ofName?_eq_some_iff]
    simp
  · next hstr =>
    refine iff_of_false nofun ?_
    rintro rfl
    exact hstr _ rfl

theorem str_name_inj {k l : NodeKind} : Value.str k.name = .str l.name ↔ k = l := by
  constructor
  · intro h
    have hname : k.name = l.name := by simpa using h
    exact Option.some.inj (by rw [← ofName?_name k, hname, ofName?_name])
  · rintro rfl
    rfl

end NodeKind

theorem Flow.header?_eq_some_iff {es header : Entries} : header? (.map es) = some header ↔
    field es "flow" = .map header ∧ (field header "id").isGiven = true := by
  unfold header?
  dsimp only
  split
  · next given hgiven =>
    rw [hgiven, Value.map.injEq]
    split
    · next hid =>
      rw [Option.some.injEq]
      exact ⟨fun h => ⟨h, h ▸ hid⟩, fun h => h.1⟩
    · next hid =>
      refine iff_of_false nofun ?_
      rintro ⟨rfl, h⟩
      exact hid h
  · next hnot => exact iff_of_false nofun fun h => hnot header h.1

/-! ## Connections, nodes and flows -/

theorem Connection.read_eq_ok {v : Value} {c : Connection} : Connection.read v = .ok c ↔
    ∃ es, v = .map es ∧ (field es "targetNodeId").isGiven = true ∧
      readText (field es "targetNodeId") = .ok c.target ∧
      c.sourceHandle = field es "sourceHandle" ∧ c.targetHandle = field es "targetHandle" := by
  cases v with
  | scalar s => exact iff_of_false nofun nofun
  | list items => exact iff_of_false nofun nofun
  | map es =>
    unfold read
    simp only [Value.map.injEq, exists_eq_left']
    split
    · next hgiven =>
      rw [and_iff_right hgiven, map_eq_ok]
      constructor
      · rintro ⟨target, htarget, rfl⟩
        exact ⟨htarget, rfl, rfl⟩
      · obtain ⟨target, sourceHandle, targetHandle⟩ := c
        rintro ⟨htarget, rfl, rfl⟩
        exact ⟨target, htarget, rfl⟩
    · next hgiven => exact iff_of_false nofun fun h => hgiven h.1

/-- What the parts of a node are read from; the default kind is for a node that names none. -/
structure Node.ReadFrom (defaultKind : Value) (es : Entries) (n : Node) : Prop where
  given : (field es "id").isGiven = true
  id : readText (field es "id") = .ok n.id
  kind : (Entries.get? es "type").getD defaultKind = .str n.kind.name
  spec : Spec.read n.kind (field es "spec") = .ok n.spec
  label : readText ((field es "label").orElse (.str "")) = .ok n.label
  position : Position.read (field es "id") (field es "position") = .ok n.position
  connections : ∃ items, (field es "connections").items (.badNodeList "connections") = .ok items ∧
    items.mapM Connection.read = .ok n.connections
  parent : n.parent = field es "parentId"

theorem Node.read_eq_ok {defaultKind v : Value} {n : Node} :
    Node.read defaultKind v = .ok n ↔ ∃ es, v = .map es ∧ n.ReadFrom defaultKind es := by
  cases v with
  | scalar s => exact iff_of_false nofun nofun
  | list items => exact iff_of_false nofun nofun
  | map es =>
    unfold read
    simp only [Value.map.injEq, exists_eq_left']
    cases hgiven : (field es "id").isGiven with
    | false =>
      refine iff_of_false nofun fun h => ?_
      rw [h.given] at hgiven
      cases hgiven
    | true =>
      simp only [Bool.not_true, Bool.false_eq_true, if_false]
      cases hkind : NodeKind.ofValue? ((Entries.get? es "type").getD defaultKind) with
      | none =>
        refine iff_of_false nofun fun h => ?_
        rw [NodeKind.ofValue?_eq_some_iff.2 h.kind] at hkind
        cases hkind
      | some kind =>
        have hname := NodeKind.ofValue?_eq_some_iff.1 hkind
        simp only [bind_eq_ok]
        constructor
        · rintro ⟨position, hposition, id, hid, spec, hspec, label, hlabel, items, hitems,
            connections, hconnections, h⟩
          cases h
          exact ⟨hgiven, hid, hname, hspec, hlabel, hposition, ⟨items, hitems, hconnections⟩, rfl⟩
        · obtain ⟨id, k, spec, label, position, connections, parent⟩ := n
          rintro ⟨-, hid, hk, hspec, hlabel, hposition, ⟨items, hitems, hconnections⟩, rfl⟩
          -- The kind decides the type of the spec, so it has to be the same before the rest is.
          obtain rfl := NodeKind.str_name_inj.1 (hname.symm.trans hk)
          exact ⟨position, hposition, id, hid, spec, hspec, label, hlabel, items, hitems,
            connections, hconnections, rfl⟩

namespace Flow

/-- What the parts of a flow are read from, its header and its times among them. -/
structure ReadFrom (es header times : Entries) (f : Flow) : Prop where
  flow : field es "flow" = .map header
  given : (field header "id").isGiven = true
  id : readText (field header "id") = .ok f.id
  name : f.name = (Entries.get? header "name").getD (field header "id")
  domain : f.domain = (Entries.get? header "domain").getD (.str "")
  kind : f.kind = (FlowKind.ofValue? (kindValue header)).getD .traditional
  description : f.description = field header "description"
  trigger : readTrigger (field es "trigger") = .ok f.trigger
  nodes : ∃ items, (field es "nodes").items (.badNodeList "nodes") = .ok items ∧
    items.mapM (Node.read .null) = .ok f.nodes
  metadata : (field es "metadata").entries (fun _ => .badMetadata (field header "id")) = .ok times
  created : f.created = (Entries.get? times "created").getD (.str "")
  modified : f.modified = (Entries.get? times "modified").getD (.str "")

theorem read_eq_ok {v : Value} {f : Flow} :
    Flow.read v = .ok f ↔ ∃ es header times, v = .map es ∧ f.ReadFrom es header times := by
  cases v with
  | scalar s => exact iff_of_false nofun nofun
  | list items => exact iff_of_false nofun nofun
  | map es =>
    unfold read
    dsimp only
    cases hheader : header? (.map es) with
    | none =>
      refine iff_of_false nofun ?_
      rintro ⟨_, header, times, ⟨⟩, h⟩
      rw [header?_eq_some_iff.2 ⟨h.flow, h.given⟩] at hheader
      cases hheader
    | some header =>
      obtain ⟨hflow, hgiven⟩ := header?_eq_some_iff.1 hheader
      simp only [bind_eq_ok]
      constructor
      · rintro ⟨trigger, htrigger, times, htimes, id, hid, items, hitems, nodes, hnodes, h⟩
        cases h
        exact ⟨es, header, times, rfl, hflow, hgiven, hid, rfl, rfl, rfl, rfl, htrigger,
          ⟨items, hitems, hnodes⟩, htimes, rfl, rfl⟩
      · rintro ⟨_, header', times, ⟨⟩, h⟩
        obtain rfl : header = header' := Value.map.inj (hflow.symm.trans h.flow)
        obtain ⟨items, hitems, hnodes⟩ := h.nodes
        refine ⟨f.trigger, h.trigger, times, h.metadata, f.id, h.id, items, hitems, f.nodes, hnodes,
          ?_⟩
        rw [← h.name, ← h.domain, ← h.kind, ← h.description, ← h.created, ← h.modified]
        rfl

end Flow

end FlowGate
