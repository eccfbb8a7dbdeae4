import FlowGate.Proofs.Flow.Verdict
import FlowGate.Proofs.Graph.Walk
import Mathlib.Data.List.Nodup

/-!
# The connections that the search for cycles follows

A `Trail` follows the connections of a flow from node to node: each one leaves a node that carries
the target of the one before, whichever of the nodes with that identifier it is. The graph of a flow
knows fewer connections, since of several nodes with one identifier only those of the last one count
(`Flow.Counts`). `Flow.circular_iff_trail` says which trails the check for cycles sees: exactly
those over nodes that count, and so all trails if no two nodes share an identifier.
-/

namespace FlowGate

/-- A connection with the node that it leaves. -/
structure Hop where
  node : Node
  connection : Connection

def Hop.target (h : Hop) : String := h.connection.target

namespace Flow

variable {f : Flow} {t : Node} {u : String} {hops : List Hop}

/-- Connections of a flow one after the other, from a node with an identifier on: each leaves a node
that carries the target of the one before. -/
def Trail (f : Flow) : String → List Hop → Prop
  | _, [] => True
  | u, h :: hops => h.node ∈ f.allNodes ∧ h.node.id = u ∧ h.connection ∈ h.node.connections ∧
      f.Trail h.target hops

/-- The identifiers that a trail visits, the one at which it starts among them. -/
def visited (u : String) (hops : List Hop) : List String := u :: hops.map Hop.target

/-! ## Trails and walks -/

/-- A trail over nodes that count is a walk through the graph. -/
theorem walk_of_trail (h : f.Trail u hops) (hcounts : ∀ h ∈ hops, f.Counts h.node) :
    f.graph.Walk u (hops.map Hop.target) := by
  induction hops generalizing u with
  | nil => exact Graph.walk_nil
  | cons hop hops ih =>
    obtain ⟨-, hid, hconnection, hrest⟩ := h
    have hnode : f.Counts hop.node := hcounts hop List.mem_cons_self
    have hedge : f.Edge u hop.target :=
      edge_iff_counts.2 ⟨hop.node, hnode, hid, hop.connection, hconnection, rfl⟩
    rw [List.map_cons, Graph.walk_cons, Graph.edge_graph]
    exact ⟨hedge, ih hrest fun h hh => hcounts h (List.mem_cons_of_mem _ hh)⟩

theorem exists_trail_of_walk {ids : List String} (h : f.graph.Walk u ids) :
    ∃ hops, f.Trail u hops ∧ (∀ h ∈ hops, f.Counts h.node) ∧ hops.map Hop.target = ids := by
  induction ids generalizing u with
  | nil => exact ⟨[], trivial, by simp, rfl⟩
  | cons v ids ih =>
    rw [Graph.walk_cons, Graph.edge_graph, edge_iff_counts] at h
    obtain ⟨⟨n, hn, hid, c, hc, rfl⟩, hrest⟩ := h
    obtain ⟨hops, htrail, hcounts, rfl⟩ := ih hrest
    refine ⟨⟨n, c⟩ :: hops, ⟨hn.mem, hid, hc, htrail⟩, ?_, rfl⟩
    intro h hh
    obtain rfl | hh := List.mem_cons.1 hh
    · exact hn
    · exact hcounts h hh

/-- The search for a cycle finds the trails over nodes that count and come back to an identifier. -/
theorem hasCycle_iff_trail (ht : f.trigger = some t) :
    f.hasCycle = true ↔ ∃ hops, f.Trail t.id hops ∧ (∀ h ∈ hops, f.Counts h.node) ∧
      ¬ (visited t.id hops).Nodup := by
  have hsearch : f.hasCycle = f.graph.hasCycle t.id := by
    rw [hasCycle, ht]
  rw [hsearch, Graph.hasCycle_iff_walk]
  constructor
  · rintro ⟨ids, hwalk, hnodup⟩
    obtain ⟨hops, htrail, hcounts, rfl⟩ := exists_trail_of_walk hwalk
    exact ⟨hops, htrail, hcounts, hnodup⟩
  · rintro ⟨hops, htrail, hcounts, hnodup⟩
    exact ⟨hops.map Hop.target, walk_of_trail htrail hcounts, hnodup⟩

theorem Trail.node_mem (h : f.Trail u hops) : ∀ hop ∈ hops, hop.node ∈ f.allNodes := by
  induction hops generalizing u with
  | nil => simp
  | cons hop hops ih =>
    intro other hother
    obtain rfl | hother := List.mem_cons.1 hother
    · exact h.1
    · exact ih h.2.2.2 other hother

/-! ## The issue of a cycle -/

/-- What the check for cycles has to say. -/
def cycleFound : Issue :=
  graphIssue .error "Flow contains a circular path (cycle detected)"
    "Remove the cycle or convert to an agent flow if loops are intentional" none

def circularIssue (f : Flow) : Issue := cycleFound.stamped (some f.id) f.domain

theorem mem_checkCycles_iff (hkind : f.kind = .traditional) {i : Issue} :
    i ∈ f.checkCycles ↔ f.hasCycle = true ∧ i = cycleFound := by
  unfold checkCycles
  rw [hkind]
  cases f.hasCycle <;> simp [cycleFound]

theorem node_of_mem_check {family : RuleFamily} {nodes : List Node} {i : Issue}
    (h : i ∈ family.check nodes) : i.node ≠ none := by
  simp only [RuleFamily.check, Node.check, List.mem_flatMap, List.mem_map] at h
  obtain ⟨n, -, remark, -, rfl⟩ := h
  exact Option.some_ne_none n.id

theorem node_of_mem_checkBranches {n : Node} {i : Issue} (h : i ∈ n.checkBranches) :
    i.node ≠ none := by
  simp only [Node.checkBranches, List.mem_append] at h
  obtain h | h := h <;>
    · split at h
      · cases h
      · obtain rfl := List.mem_singleton.1 h
        exact Option.some_ne_none n.id

theorem node_of_mem_map {nodes : List Node} {severity : Severity} {message : Node → String}
    {suggestion : String} {i : Issue}
    (h : i ∈ nodes.map fun n => graphIssue severity (message n) suggestion (some n)) :
    i.node ≠ none := by
  obtain ⟨n, -, rfl⟩ := List.mem_map.1 h
  exact Option.some_ne_none n.id

/-- An issue that points at no node is about the flow as a whole: its trigger, its ends, its cycles
or the loops of an agent. -/
theorem mem_of_node_eq_none {issues : List Issue} (hfound : f.findings = .ok issues) {i : Issue}
    (hi : i ∈ issues) (hnode : i.node = none) :
    i ∈ f.checkTrigger ∨ i ∈ f.checkEnds ∨ i ∈ f.checkCycles ∨ i ∈ f.checkAgent := by
  rw [eq_of_findings hfound] at hi
  simp only [List.mem_append, or_assoc] at hi
  rcases hi with hi | hi | hi | hi | hi | hi | hi | hi | hi | hi
  · exact .inl hi
  · exact .inr (.inl hi)
  · exact absurd hnode (node_of_mem_map hi)
  · exact .inr (.inr (.inl hi))
  · obtain ⟨n, -, hi⟩ := List.mem_flatMap.1 hi
    exact absurd hnode (node_of_mem_checkBranches hi)
  · exact absurd hnode (node_of_mem_map hi)
  · exact absurd hnode (node_of_mem_check hi)
  · exact .inr (.inr (.inr hi))
  · exact absurd hnode (node_of_mem_check hi)
  · exact absurd hnode (node_of_mem_check hi)

/-- Its message tells the issue of a cycle apart from the others that point at no node. -/
theorem hasCycle_of_message {issues : List Issue} (hkind : f.kind = .traditional)
    (hfound : f.findings = .ok issues) {i : Issue} (hi : i ∈ issues) (hnode : i.node = none)
    (hmessage : i.message = cycleFound.message) : f.hasCycle = true := by
  obtain hi | hi | hi | hi := mem_of_node_eq_none hfound hi hnode
  · unfold checkTrigger at hi
    split at hi
    · obtain rfl := List.mem_singleton.1 hi
      exact absurd hmessage (by decide)
    · cases hi
  · unfold checkEnds at hi
    split at hi
    · exact absurd hnode (node_of_mem_map hi)
    · obtain rfl := List.mem_singleton.1 hi
      exact absurd hmessage (by decide)
  · exact ((mem_checkCycles_iff hkind).1 hi).1
  · unfold checkAgent at hi
    rw [if_neg (by simp [hkind])] at hi
    cases hi

/-- A traditional flow is reported to have a cycle exactly if the search finds one. -/
theorem circularIssue_mem_iff {r : Result} (hkind : f.kind = .traditional) (h : f.check = .ok r) :
    f.circularIssue ∈ r.issues ↔ f.hasCycle = true := by
  obtain ⟨issues, hfound, rfl⟩ := exists_findings_of_check h
  constructor
  · intro hmem
    obtain ⟨i, hi, heq⟩ := List.mem_map.1 hmem
    -- a stamp changes neither the node nor the message
    have hnode : i.node = none := congrArg Issue.node heq
    have hmessage : (i.stamped (some f.id) f.domain).message = f.circularIssue.message :=
      congrArg Issue.message heq
    exact hasCycle_of_message hkind hfound hi hnode hmessage
  · intro hcycle
    have hmem : cycleFound ∈ f.checkCycles := (mem_checkCycles_iff hkind).2 ⟨hcycle, rfl⟩
    refine List.mem_map.2 ⟨cycleFound, ?_, rfl⟩
    rw [eq_of_findings hfound]
    simp only [List.mem_append, hmem, or_true, true_or]

/-- Which cycles a check of a traditional flow reports: a trail from the trigger that comes back to
an identifier, over nodes that count. Where no two nodes share an identifier, this is any trail that
leaves the trigger. -/
theorem circular_iff_trail {r : Result} (hkind : f.kind = .traditional) (ht : f.trigger = some t)
    (h : f.check = .ok r) :
    (f.circularIssue ∈ r.issues ↔ ∃ hops, f.Trail t.id hops ∧ (∀ h ∈ hops, f.Counts h.node) ∧
      ¬ (visited t.id hops).Nodup) ∧
    ((f.allNodes.map (·.id)).Nodup → (f.circularIssue ∈ r.issues ↔
      ∃ hops, f.Trail t.id hops ∧ (∀ h ∈ hops.head?, h.node = t) ∧
        ¬ (visited t.id hops).Nodup)) := by
  have hreport := (circularIssue_mem_iff hkind h).trans (hasCycle_iff_trail ht)
  refine ⟨hreport, fun hids => hreport.trans ⟨?_, ?_⟩⟩
  · rintro ⟨hops, htrail, hcounts, hnodup⟩
    refine ⟨hops, htrail, ?_, hnodup⟩
    cases hops with
    | nil => simp
    | cons hop hops =>
      obtain ⟨hmem, hid, -⟩ := htrail
      rintro h hh
      obtain rfl := Option.some.inj hh
      exact List.inj_on_of_nodup_map hids hmem (trigger_mem ht) hid
  · rintro ⟨hops, htrail, -, hnodup⟩
    exact ⟨hops, htrail, fun h hh => counts_of_nodup hids (htrail.node_mem h hh), hnodup⟩

/-- A parcel can be led back to where it is packed, by the first of the nodes that pack it. The
check reports no cycle, since no trail over nodes that count comes back. -/
theorem circular_unseen_parcel : parcel.kind = .traditional ∧ ∃ t r, parcel.trigger = some t ∧
    parcel.check = .ok r ∧
    (∃ hops, parcel.Trail t.id hops ∧ (∀ h ∈ hops.head?, h.node = t) ∧
      ¬ (visited t.id hops).Nodup) ∧
    parcel.circularIssue ∉ r.issues ∧
    ¬ ∃ hops, parcel.Trail t.id hops ∧ (∀ h ∈ hops, parcel.Counts h.node) ∧
      ¬ (visited t.id hops).Nodup := by
  have hchecked : ∃ r, parcel.check = .ok r ∧ parcel.circularIssue ∉ r.issues :=
    ⟨_, rfl, (circularIssue_mem_iff rfl rfl).not.2 (by decide)⟩
  obtain ⟨r, h, hunseen⟩ := hchecked
  refine ⟨rfl, _, r, rfl, h, ?_, hunseen, ?_⟩
  · refine ⟨[⟨_, ⟨"pack", .null, .null⟩⟩, ⟨parcelNode "pack" ["pack"], ⟨"pack", .null, .null⟩⟩],
      ⟨List.mem_cons_self, rfl, List.mem_cons_self, ?_⟩, ?_, by decide⟩
    · exact ⟨.tail _ List.mem_cons_self, rfl, List.mem_cons_self, trivial⟩
    · intro hop hhop
      obtain rfl := Option.some.inj hhop
      rfl
  · exact (circular_iff_trail rfl rfl h).1.not.1 hunseen

end Flow

end FlowGate
