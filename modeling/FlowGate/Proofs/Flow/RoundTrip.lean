import FlowGate.Flow.Writing
import FlowGate.Proofs.Flow.Reading
import FlowGate.Proofs.Record.RoundTrip
import FlowGate.Proofs.Value.Text

/-!
# Flows are read as they were written

A flow that was read has identifiers that count as given, so what is written for it can be read
again. `Flow.settled` is what comes of it: the flow itself, but for a description or a group that
does not count as given, which is not stored and read as null.
-/

namespace FlowGate

/-! ## Entries -/

theorem Value.items_list (vs : List Value) (fault : Value → Fault) :
    (Value.list vs).items fault = .ok vs := by
  cases vs <;> rfl

theorem Value.entries_map (es : Entries) (fault : Value → Fault) :
    (Value.map es).entries fault = .ok es := by
  cases es <;> rfl

theorem Value.isGiven_str {s : String} : (Value.str s).isGiven = true ↔ s ≠ "" := by
  simp [isGiven]

theorem Value.orElse_str_empty (s : String) : (Value.str s).orElse (.str "") = .str s := by
  unfold orElse
  split
  · rfl
  · next h =>
    rw [isGiven_str, not_not] at h
    rw [h]

/-- A value survives being stored only if given exactly if it is given or null. -/
theorem Value.orElse_null_eq_self (v : Value) :
    v.orElse .null = v ↔ v = .null ∨ v.isGiven = true := by
  unfold orElse
  split
  · next h => simp [h]
  · next h => simp [h, eq_comm]

theorem Entries.get?_unlessNull (v : Value) (key l : String) :
    Entries.get? (v.unlessNull key) l = if key = l ∧ v ≠ .null then some v else none := by
  unfold Value.unlessNull Value.under
  split
  · next h => simp [h]
  · next h => simp [h, Entries.get?_cons]

theorem Entries.get?_ifGiven (v : Value) (key l : String) :
    Entries.get? (v.ifGiven key) l = if key = l ∧ v.isGiven = true then some v else none := by
  unfold Value.ifGiven Value.under
  split
  · next h => simp [h, Entries.get?_cons]
  · next h => simp [h]

/-! ## Connections, places and nodes -/

def Connection.entries (c : Connection) : Entries :=
  (Value.str c.target).under "targetNodeId" ::
    (c.sourceHandle.unlessNull "sourceHandle" ++ c.targetHandle.unlessNull "targetHandle")

theorem Connection.read_write {c : Connection} (h : c.target ≠ "") :
    Connection.read c.write = .ok c := by
  have hgiven : (Value.str c.target).isGiven = true := Value.isGiven_str.2 h
  have htarget : Entries.field c.entries "targetNodeId" = .str c.target := by
    simp [Entries.field, entries, Value.under, Entries.get?_cons]
  have hsource : Entries.field c.entries "sourceHandle" = c.sourceHandle := by
    by_cases hnull : c.sourceHandle = .null <;>
      simp [Entries.field, entries, Value.under, Entries.get?_cons, Entries.get?_append,
        Entries.get?_unlessNull, hnull]
  have hother : Entries.field c.entries "targetHandle" = c.targetHandle := by
    by_cases hnull : c.targetHandle = .null <;>
      simp [Entries.field, entries, Value.under, Entries.get?_cons, Entries.get?_append,
        Entries.get?_unlessNull, hnull]
  show Connection.read (.map c.entries) = .ok c
  unfold read
  dsimp only
  rw [htarget, if_pos hgiven, readText_str, hsource, hother]
  rfl

theorem Position.read_write (id : Value) (p : Position) : Position.read id p.write = .ok p := by
  unfold read write
  rw [Value.entries_map]
  simp [Value.under, Entries.get?_cons, bind, Except.bind, pure, Except.pure]

namespace Node

/-- A node whose identifiers count as given. -/
structure Named (n : Node) : Prop where
  id : n.id ≠ ""
  targets : ∀ c ∈ n.connections, c.target ≠ ""

/-- A node without a group that does not count as given. -/
def settled (n : Node) : Node := { n with parent := n.parent.orElse .null }

def entries (n : Node) : Entries :=
  [(Value.str n.id).under "id", (Value.str n.kind.name).under "type",
    n.position.write.under "position",
    (Value.list (n.connections.map Connection.write)).under "connections",
    n.spec.write.under "spec", (Value.str n.label).under "label"]
  ++ n.parent.ifGiven "parentId"

theorem field_entries_parent (n : Node) :
    Entries.field n.entries "parentId" = n.parent.orElse .null := by
  unfold Value.orElse
  cases h : n.parent.isGiven <;>
    simp [Entries.field, entries, Value.under, Entries.get?_cons, Entries.get?_ifGiven, h]

theorem read_write {n : Node} (h : n.Named) (defaultKind : Value) :
    Node.read defaultKind n.write = .ok n.settled := by
  have hgiven : (Value.str n.id).isGiven = true := Value.isGiven_str.2 h.id
  have hid : Entries.field n.entries "id" = .str n.id := rfl
  have htype : Entries.get? n.entries "type" = some (.str n.kind.name) := rfl
  have hposition : Entries.field n.entries "position" = n.position.write := rfl
  have hconnections : Entries.field n.entries "connections" =
      .list (n.connections.map Connection.write) := rfl
  have hspec : Entries.field n.entries "spec" = n.spec.write := rfl
  have hlabel : Entries.field n.entries "label" = .str n.label := rfl
  have hmapM : (n.connections.map Connection.write).mapM Connection.read = .ok n.connections :=
    mapM_map_eq_ok fun c hc => Connection.read_write (h.targets c hc)
  show Node.read defaultKind (.map n.entries) = .ok n.settled
  unfold read
  dsimp only
  rw [hid, htype, hposition, hconnections, hspec, hlabel, field_entries_parent]
  simp only [hgiven, Bool.not_true, Bool.false_eq_true, if_false, Option.getD_some,
    NodeKind.ofValue?, NodeKind.ofName?_name, Position.read_write, readText_str, Spec.read_write,
    Value.orElse_str_empty, Value.items_list, hmapM, ok_bind]
  rfl

theorem settled_eq_self (n : Node) :
    n.settled = n ↔ n.parent = .null ∨ n.parent.isGiven = true := by
  rw [← Value.orElse_null_eq_self]
  constructor
  · intro h
    exact congrArg Node.parent h
  · intro h
    unfold settled
    rw [h]

end Node

/-! ## What was read -/

theorem ne_empty_of_readText {v : Value} {s : String} (hv : v.isGiven = true)
    (h : readText v = .ok s) : s ≠ "" := by
  unfold readText at h
  split at h
  · cases h
  · cases h
    exact Value.text_ne_empty hv

theorem Connection.target_of_read {v : Value} {c : Connection} (h : Connection.read v = .ok c) :
    c.target ≠ "" := by
  obtain ⟨es, -, hgiven, htarget, -⟩ := read_eq_ok.1 h
  exact ne_empty_of_readText hgiven htarget

theorem Node.named_of_read {defaultKind v : Value} {n : Node}
    (h : Node.read defaultKind v = .ok n) : n.Named := by
  obtain ⟨es, -, hfrom⟩ := read_eq_ok.1 h
  refine ⟨ne_empty_of_readText hfrom.given hfrom.id, fun c hc => ?_⟩
  obtain ⟨items, -, hconnections⟩ := hfrom.connections
  obtain ⟨item, -, hitem⟩ := exists_of_mapM hconnections c hc
  exact Connection.target_of_read hitem

namespace Flow

/-- A flow whose identifiers count as given. -/
structure Named (f : Flow) : Prop where
  id : f.id ≠ ""
  nodes : ∀ n ∈ f.allNodes, n.Named

theorem named_of_readTrigger {v : Value} {t : Option Node} (h : readTrigger v = .ok t) :
    ∀ n ∈ t.toList, n.Named := by
  unfold readTrigger at h
  split at h
  · obtain ⟨n, hn, rfl⟩ := map_eq_ok.1 h
    intro m hm
    obtain rfl := List.mem_singleton.1 hm
    exact Node.named_of_read hn
  · cases h
    intro m hm
    cases hm

theorem named_of_read {v : Value} {f : Flow} (h : Flow.read v = .ok f) : f.Named := by
  obtain ⟨es, header, times, -, hfrom⟩ := read_eq_ok.1 h
  refine ⟨ne_empty_of_readText hfrom.given hfrom.id, fun n hn => ?_⟩
  obtain hn | hn := List.mem_append.1 hn
  · exact named_of_readTrigger hfrom.trigger n hn
  · obtain ⟨items, -, hnodes⟩ := hfrom.nodes
    obtain ⟨item, -, hitem⟩ := exists_of_mapM hnodes n hn
    exact Node.named_of_read hitem

/-! ## Flows -/

/-- A flow without a description and without groups that do not count as given. -/
def settled (f : Flow) : Flow :=
  { f with
    trigger := f.trigger.map Node.settled
    nodes := f.nodes.map Node.settled
    description := f.description.orElse .null }

def headerEntries (f : Flow) : Entries :=
  [(Value.str f.id).under "id", f.name.under "name", (Value.str f.kind.name).under "type",
      f.domain.under "domain"]
    ++ f.description.ifGiven "description"

def entries (f : Flow) : Entries :=
  f.writeHeader.under "flow" ::
    (f.trigger.toList.map (·.write.under "trigger")
      ++ [(Value.list (f.nodes.map Node.write)).under "nodes",
        (Value.map [f.created.under "created", f.modified.under "modified"]).under "metadata"])

theorem header?_entries {f : Flow} (h : f.id ≠ "") :
    header? (.map f.entries) = some f.headerEntries :=
  header?_eq_some_iff.2 ⟨rfl, Value.isGiven_str.2 h⟩

theorem field_headerEntries_description (f : Flow) :
    Entries.field f.headerEntries "description" = f.description.orElse .null := by
  unfold Value.orElse
  cases h : f.description.isGiven <;>
    simp [Entries.field, headerEntries, Value.under, Entries.get?_cons, Entries.get?_ifGiven, h]

theorem readTrigger_entries {f : Flow} (h : f.Named) :
    readTrigger (Entries.field f.entries "trigger") = .ok (f.trigger.map Node.settled) := by
  cases htrigger : f.trigger with
  | none =>
    have hfield : Entries.field f.entries "trigger" = .null := by
      simp [Entries.field, entries, Value.under, Entries.get?_cons, htrigger]
    rw [hfield]
    rfl
  | some t =>
    have hfield : Entries.field f.entries "trigger" = t.write := by
      simp [Entries.field, entries, Value.under, Entries.get?_cons, htrigger]
    have hnamed : t.Named := h.nodes t (by simp [allNodes, htrigger])
    have hgiven : t.write.isGiven = true := rfl
    rw [hfield, readTrigger, if_pos hgiven, Node.read_write hnamed]
    rfl

theorem field_entries (f : Flow) :
    Entries.field f.entries "nodes" = .list (f.nodes.map Node.write) ∧
      Entries.field f.entries "metadata" =
        .map [f.created.under "created", f.modified.under "modified"] := by
  cases h : f.trigger <;> simp [Entries.field, entries, Value.under, Entries.get?_cons, h]

/-- A flow whose identifiers count as given is read, but for what is not stored of it. -/
theorem read_write {f : Flow} (h : f.Named) : Flow.read f.write = .ok f.settled := by
  have hid : Entries.field f.headerEntries "id" = .str f.id := rfl
  have hname : Entries.get? f.headerEntries "name" = some f.name := rfl
  have hdomain : Entries.get? f.headerEntries "domain" = some f.domain := rfl
  have hkind : kindValue f.headerEntries = .str f.kind.name := rfl
  obtain ⟨hitems, htimes⟩ := f.field_entries
  have hnodes : (f.nodes.map Node.write).mapM (Node.read .null) =
      .ok (f.nodes.map Node.settled) := by
    rw [mapM_eq_ok, List.forall₂_map_left_iff, List.forall₂_map_right_iff, List.forall₂_same]
    exact fun n hn => Node.read_write (h.nodes n (List.mem_append_right _ hn)) .null
  show Flow.read (.map f.entries) = .ok f.settled
  unfold read
  dsimp only
  rw [header?_entries h.id]
  simp only [readTrigger_entries h, hid, hname, hdomain, hkind, hitems, htimes,
    field_headerEntries_description, Value.items_list, Value.entries_map, readText_str, hnodes,
    FlowKind.ofValue?, FlowKind.ofName?_name, ok_bind]
  rfl

/-- Nothing is lost of a flow exactly if its description and its groups are null or given. -/
theorem settled_eq_self (f : Flow) : f.settled = f ↔
    (f.description = .null ∨ f.description.isGiven = true) ∧
      ∀ n ∈ f.allNodes, n.parent = .null ∨ n.parent.isGiven = true := by
  simp only [← Node.settled_eq_self]
  rw [← Value.orElse_null_eq_self]
  constructor
  · intro h
    refine ⟨congrArg Flow.description h, fun n hn => ?_⟩
    obtain hn | hn := List.mem_append.1 hn
    · have htrigger : f.trigger.map Node.settled = f.trigger := congrArg Flow.trigger h
      rw [Option.mem_toList.1 hn] at htrigger
      exact Option.some.inj htrigger
    · have hnodes : f.nodes.map Node.settled = f.nodes.map fun n => n :=
        (congrArg Flow.nodes h).trans f.nodes.map_id'.symm
      exact List.map_inj_left.1 hnodes n hn
  · rintro ⟨hdescription, hall⟩
    have htrigger : f.trigger.map Node.settled = f.trigger := by
      cases ht : f.trigger with
      | none => rfl
      | some t =>
        rw [Option.map_some, hall t (List.mem_append_left _ (Option.mem_toList.2 ht))]
    have hnodes : f.nodes.map Node.settled = f.nodes :=
      (List.map_congr_left fun n hn => hall n (List.mem_append_right _ hn)).trans f.nodes.map_id'
    unfold settled
    rw [htrigger, hnodes, hdescription]

/-- What is written for a flow that was read can be read again. It is the same flow exactly if its
description and the groups of its nodes are null or count as given; if not, just these become
null. -/
theorem read_write_of_read (v : Value) (f : Flow) (h : Flow.read v = .ok f) :
    Flow.read f.write = .ok f.settled ∧
      (Flow.read f.write = .ok f ↔ (f.description = .null ∨ f.description.isGiven = true) ∧
        ∀ n ∈ f.allNodes, n.parent = .null ∨ n.parent.isGiven = true) := by
  have hread := read_write (named_of_read h)
  refine ⟨hread, ?_⟩
  rw [hread, Except.ok.injEq, settled_eq_self]

/-- A flow with an empty description. -/
def untold : Value :=
  .map [(.str "flow", .map [(.str "id", .str "pay"), (.str "description", .str "")])]

/-- An empty description is not stored and comes back as null. -/
theorem read_write_untold : ∃ f, Flow.read untold = .ok f ∧ f.description = .str "" ∧
    Flow.read f.write ≠ .ok f ∧ Flow.read f.write = .ok { f with description := .null } := by
  refine ⟨_, rfl, rfl, ?_⟩
  obtain ⟨hread, hsame⟩ := read_write_of_read untold _ rfl
  refine ⟨fun h => ?_, hread⟩
  obtain ⟨hdescription, -⟩ := hsame.1 h
  revert hdescription
  decide

end Flow

end FlowGate
