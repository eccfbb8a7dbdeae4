import FlowGate.Proofs.Flow.Reading
import FlowGate.Proofs.Project.Loading
import FlowGate.Proofs.Record.Grammar

/-!
# The grammar of flows

`Flow.WellFormed` says what a document of a flow looks like, from the header down to the fields of
specs. Null, false, zero and what is empty may stand for a mapping or a list; inside a spec only
null may. `Flow.read_iff_wellFormed` says that flows are read from these documents and from no
others, as long as all integers have few enough digits to be written.
-/

namespace FlowGate

open Entries (field)

/-! ## The grammar -/

namespace Value

/-- Whether a value is a mapping or counts as none. -/
def FitsMap (v : Value) : Prop := v.isGiven = false ∨ ∃ es, v = .map es

/-- Whether a value is a list of items of a form or counts as none. -/
def FitsList (Item : Value → Prop) (v : Value) : Prop :=
  v.isGiven = false ∨ ∃ items, v = .list items ∧ ∀ item ∈ items, Item item

end Value

/-- Whether a value has the form of a connection: it names the node that it leads to. -/
def Connection.WellFormed (v : Value) : Prop :=
  ∃ es, v = .map es ∧ (field es "targetNodeId").isGiven = true

/-- Whether the entries of a mapping are those of a node; the default kind is for a node that names
none. -/
structure Node.Fits (defaultKind : Value) (es : Entries) : Prop where
  id : (field es "id").isGiven = true
  /-- The kind is one of the kinds, and the spec is one of that kind. -/
  spec : ∃ k : NodeKind, (Entries.get? es "type").getD defaultKind = .str k.name ∧
    Spec.WellFormed k (field es "spec")
  position : (field es "position").FitsMap
  connections : (field es "connections").FitsList Connection.WellFormed

def Node.WellFormed (defaultKind v : Value) : Prop := ∃ es, v = .map es ∧ Node.Fits defaultKind es

/-- Whether the entries of a mapping are those of a flow. -/
structure Flow.Fits (es : Entries) : Prop where
  header : ∃ header, field es "flow" = .map header ∧ (field header "id").isGiven = true
  metadata : (field es "metadata").FitsMap
  trigger : (field es "trigger").isGiven = false ∨
    Node.WellFormed (.str "trigger") (field es "trigger")
  nodes : (field es "nodes").FitsList (Node.WellFormed .null)

def Flow.WellFormed (v : Value) : Prop := ∃ es, v = .map es ∧ Flow.Fits es

/-! ## Its parts are what is read -/

namespace Value

theorem exists_entries {v : Value} (fault : Value → Fault) :
    (∃ es, v.entries fault = .ok es) ↔ v.FitsMap := by
  unfold entries orElse FitsMap
  cases hgiven : v.isGiven with
  | false => exact iff_of_true ⟨[], rfl⟩ (.inl rfl)
  | true => cases v <;> simp

/-- The items of a list are read if each of them has the form that is read. -/
theorem exists_items {v : Value} (htext : v.HasText) {α : Type} {read : Value → Except Fault α}
    {Item : Value → Prop}
    (hread : ∀ item : Value, item.HasText → ((∃ a, read item = .ok a) ↔ Item item))
    (fault : Value → Fault) :
    (∃ items, v.items fault = .ok items ∧ ∃ as, items.mapM read = .ok as) ↔ v.FitsList Item := by
  simp only [exists_mapM_eq_ok]
  unfold items orElse FitsList
  cases hgiven : v.isGiven with
  | false => exact iff_of_true ⟨[], rfl, nofun⟩ (.inl rfl)
  | true =>
    cases v with
    | scalar s => simp
    | map es => simp
    | list items =>
      have hitems := (hasText_list items).1 htext
      simp only [if_true, Except.ok.injEq, exists_eq_left', Bool.true_eq_false, false_or,
        list.injEq]
      exact forall₂_congr fun item hitem => hread item (hitems item hitem)

end Value

theorem exists_readText {v : Value} (h : v.HasText) : ∃ s, readText v = .ok s :=
  ⟨v.text, readText_eq_ok.2 ⟨h, rfl⟩⟩

theorem Connection.accepts_iff {v : Value} (htext : v.HasText) :
    (∃ c, Connection.read v = .ok c) ↔ Connection.WellFormed v := by
  simp only [read_eq_ok]
  constructor
  · rintro ⟨c, es, rfl, hgiven, -⟩
    exact ⟨es, rfl, hgiven⟩
  · rintro ⟨es, rfl, hgiven⟩
    obtain ⟨target, htarget⟩ := exists_readText (htext.field "targetNodeId")
    exact ⟨⟨target, field es "sourceHandle", field es "targetHandle"⟩, es, rfl, hgiven, htarget,
      rfl, rfl⟩

theorem Position.exists_read {id v : Value} :
    (∃ position, Position.read id v = .ok position) ↔ v.FitsMap := by
  rw [← Value.exists_entries (.badPosition id)]
  exact exists_bind_eq_ok.trans (exists_congr fun es => and_iff_left ⟨_, rfl⟩)

theorem Node.accepts_iff (defaultKind : Value) {v : Value} (htext : v.HasText) :
    (∃ n, Node.read defaultKind v = .ok n) ↔ Node.WellFormed defaultKind v := by
  have hlist (es : Entries) (h : (Value.map es).HasText) := Value.exists_items
    (h.field "connections") (fun _ => Connection.accepts_iff) (.badNodeList "connections")
  simp only [read_eq_ok]
  constructor
  · rintro ⟨n, es, rfl, h⟩
    obtain ⟨items, hitems, hconnections⟩ := h.connections
    have hspec := (Spec.accepts_iff n.kind (htext.field "spec")).1 ⟨n.spec, h.spec⟩
    exact ⟨es, rfl, h.given, ⟨n.kind, h.kind, hspec⟩, Position.exists_read.1 ⟨_, h.position⟩,
      (hlist es htext).1 ⟨items, hitems, _, hconnections⟩⟩
  · rintro ⟨es, rfl, h⟩
    obtain ⟨kind, hkind, hfits⟩ := h.spec
    obtain ⟨spec, hspec⟩ := (Spec.accepts_iff kind (htext.field "spec")).2 hfits
    obtain ⟨position, hposition⟩ := Position.exists_read.2 h.position
    obtain ⟨items, hitems, connections, hconnections⟩ := (hlist es htext).2 h.connections
    obtain ⟨id, hid⟩ := exists_readText (htext.field "id")
    obtain ⟨label, hlabel⟩ := exists_readText ((htext.field "label").orElse (Value.hasText_str ""))
    exact ⟨⟨id, kind, spec, label, position, connections, field es "parentId"⟩, es, rfl, h.id, hid,
      hkind, hspec, hlabel, hposition, ⟨items, hitems, hconnections⟩, rfl⟩

namespace Flow

theorem exists_readTrigger {v : Value} (htext : v.HasText) :
    (∃ t, readTrigger v = .ok t) ↔ v.isGiven = false ∨ Node.WellFormed (.str "trigger") v := by
  unfold readTrigger
  split
  · next hgiven =>
    rw [or_iff_right (by rw [hgiven]; nofun), exists_map_eq_ok]
    exact Node.accepts_iff _ htext
  · next hgiven => exact iff_of_true ⟨none, rfl⟩ (.inl (Bool.eq_false_iff.2 hgiven))

/-- A flow is read from a document exactly if that has the form of one. -/
theorem read_iff_wellFormed {v : Value} (htext : v.HasText) :
    (∃ f, (readLogged v).result = .ok f) ↔ WellFormed v := by
  have hlist (es : Entries) (h : (Value.map es).HasText) := Value.exists_items
    (h.field "nodes") (fun _ => Node.accepts_iff .null) (.badNodeList "nodes")
  simp only [result_readLogged, read_eq_ok]
  constructor
  · rintro ⟨f, es, header, times, rfl, h⟩
    obtain ⟨items, hitems, hnodes⟩ := h.nodes
    exact ⟨es, rfl, ⟨header, h.flow, h.given⟩, (Value.exists_entries _).1 ⟨times, h.metadata⟩,
      (exists_readTrigger (htext.field "trigger")).1 ⟨_, h.trigger⟩,
      (hlist es htext).1 ⟨items, hitems, _, hnodes⟩⟩
  · rintro ⟨es, rfl, h⟩
    obtain ⟨header, hflow, hgiven⟩ := h.header
    obtain ⟨trigger, htrigger⟩ := (exists_readTrigger (htext.field "trigger")).2 h.trigger
    obtain ⟨times, hmetadata⟩ :=
      (Value.exists_entries fun _ => .badMetadata (field header "id")).2 h.metadata
    obtain ⟨id, hid⟩ := exists_readText ((hflow ▸ htext.field "flow").field "id")
    obtain ⟨items, hitems, nodes, hnodes⟩ := (hlist es htext).2 h.nodes
    exact ⟨{ id, trigger, nodes, .. }, es, header, times, rfl, hflow, hgiven, hid, rfl, rfl, rfl,
      rfl, htrigger, ⟨items, hitems, hnodes⟩, hmetadata, rfl, rfl⟩

/-- A flow in which much stands in another form than it is written in: a trigger that does not say
what it is, empty texts and zeros for lists and mappings, numbers and booleans in words. The spec of
its other node is given. -/
def loose (spec : Value) : Value :=
  .map [
    (.str "flow", .map [(.str "id", .int 7), (.str "type", .str "cyclic")]),
    (.str "metadata", .str ""),
    (.str "trigger", .map [(.str "id", .str "start"),
      (.str "connections", .list [.map [(.str "targetNodeId", .int 2)]])]),
    (.str "nodes", .list [
      .map [(.str "id", .int 2), (.str "type", .str "agent_loop"), (.str "position", .int 0),
        (.str "connections", .bool false), (.str "spec", spec)]])]

/-- A spec with a count in a text, a number in an integer, and a tool of which nothing is said. -/
def looseSpec : Value :=
  .map [
    (.str "max_iterations", .str " 1_0 "), (.str "temperature", .int 1),
    (.str "stop_conditions", .list [.null, .int 3]),
    (.str "tools", .list [.null, .map [(.str "is_terminal", .str "Yes")]])]

/-- The flow is read; with an empty text for a spec it is not. -/
theorem wellFormed_loose :
    ((loose looseSpec).HasText ∧ (∃ f, (readLogged (loose looseSpec)).result = .ok f) ∧
      WellFormed (loose looseSpec)) ∧
    (loose (.str "")).HasText ∧ ¬ WellFormed (loose (.str "")) := by
  have htext : (loose looseSpec).HasText := (Value.isTooLong_eq_false_iff _).1 (by decide +kernel)
  have htext' : (loose (.str "")).HasText := (Value.isTooLong_eq_false_iff _).1 (by decide +kernel)
  have hread : (readLogged (loose looseSpec)).result.toOption.isSome = true := by decide +kernel
  have hread' : (readLogged (loose (.str ""))).result.toOption = none := by decide +kernel
  constructor
  · obtain ⟨f, hf⟩ := Option.isSome_iff_exists.1 hread
    have hok := toOption_eq_some.1 hf
    exact ⟨htext, ⟨f, hok⟩, (read_iff_wellFormed htext).1 ⟨f, hok⟩⟩
  · refine ⟨htext', fun h => ?_⟩
    obtain ⟨f, hf⟩ := (read_iff_wellFormed htext').2 h
    rw [toOption_eq_some.2 hf] at hread'
    cases hread'

end Flow

end FlowGate
