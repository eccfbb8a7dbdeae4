import FlowGate.Check.Flow
import FlowGate.Proofs.Graph.Cycle

/-!
# Walks through a flow

`Flow.Edge` reads the edges of a flow off its nodes: those that leave an identifier are the
connections of the last node that carries it (`Flow.Counts`). `Flow.mem_reachable` and
`Flow.hasCycle_iff` say that the searches of the checks follow these edges.
-/

namespace FlowGate

open Relation (ReflTransGen TransGen)

namespace Flow

/-- An edge of a flow: a connection of the last node that carries an identifier. -/
def Edge (f : Flow) (u v : String) : Prop :=
  ∃ before n after, f.allNodes = before ++ n :: after ∧ n.id = u ∧ (∀ m ∈ after, m.id ≠ u) ∧
    ∃ c ∈ n.connections, c.target = v

/-- A node whose connections count as edges: the last one that carries its identifier. -/
def Counts (f : Flow) (n : Node) : Prop :=
  ∃ before after, f.allNodes = before ++ n :: after ∧ ∀ m ∈ after, m.id ≠ n.id

/-- What a walk of any length leads to from the trigger. -/
def Reachable (f : Flow) (v : String) : Prop :=
  ∃ t, f.trigger = some t ∧ ReflTransGen f.Edge t.id v

end Flow

namespace Graph

private theorem mem_lookup_targets {u v : String} {nodes : List Node} :
    v ∈ ((nodes.map fun n => (n.id, n.targets)).lookup u).getD [] ↔
      ∃ after n before, nodes = after ++ n :: before ∧ n.id = u ∧ (∀ m ∈ after, m.id ≠ u) ∧
        v ∈ n.targets := by
  induction nodes with
  | nil => simp
  | cons n nodes ih =>
    rw [List.map_cons, lookup_pair]
    constructor
    · intro h
      split at h
      · next hu => exact ⟨[], n, nodes, rfl, hu.symm, by simp, h⟩
      · next hu =>
        obtain ⟨after, m, before, rfl, hm, hafter, hv⟩ := ih.1 h
        refine ⟨n :: after, m, before, rfl, hm, fun k hk => ?_, hv⟩
        obtain rfl | hk := List.mem_cons.1 hk
        · exact fun e => hu e.symm
        · exact hafter k hk
    · rintro ⟨after, m, before, hnodes, hm, hafter, hv⟩
      cases after with
      | nil =>
        obtain ⟨rfl, rfl⟩ := List.cons.inj hnodes
        rw [if_pos hm.symm]
        exact hv
      | cons k after =>
        obtain ⟨rfl, rfl⟩ := List.cons.inj hnodes
        rw [if_neg fun e => hafter n List.mem_cons_self e.symm]
        exact ih.2 ⟨after, m, before, rfl, hm, fun k hk => hafter k (List.mem_cons_of_mem _ hk), hv⟩

theorem edge_graph (f : Flow) (u v : String) : f.graph.Edge u v ↔ f.Edge u v := by
  unfold Edge targets Flow.graph ofNodes
  rw [Table.get?_ofList, ← List.map_reverse, mem_lookup_targets]
  constructor
  · rintro ⟨after, n, before, hnodes, hn, hafter, hv⟩
    refine ⟨before.reverse, n, after.reverse, ?_, hn, by simpa using hafter, List.mem_map.1 hv⟩
    simpa using congrArg List.reverse hnodes
  · rintro ⟨before, n, after, hnodes, hn, hafter, hv⟩
    exact ⟨after.reverse, n, before.reverse, by simp [hnodes], hn, by simpa using hafter,
      List.mem_map.2 hv⟩

theorem edge_graph_eq (f : Flow) : f.graph.Edge = f.Edge :=
  funext fun u => funext fun v => propext (edge_graph f u v)

end Graph

namespace Flow

variable {f : Flow} {n : Node} {u v : String}

theorem trigger_mem (h : f.trigger = some n) : n ∈ f.allNodes := by
  rw [allNodes, h]
  exact List.mem_cons_self

/-! ## Nodes whose connections count -/

theorem Counts.mem (h : f.Counts n) : n ∈ f.allNodes := by
  obtain ⟨before, after, hnodes, -⟩ := h
  rw [hnodes]
  exact List.mem_append_right before List.mem_cons_self

theorem edge_iff_counts :
    f.Edge u v ↔ ∃ n, f.Counts n ∧ n.id = u ∧ ∃ c ∈ n.connections, c.target = v := by
  constructor
  · rintro ⟨before, n, after, hnodes, rfl, hafter, hc⟩
    exact ⟨n, ⟨before, after, hnodes, hafter⟩, rfl, hc⟩
  · rintro ⟨n, ⟨before, after, hnodes, hafter⟩, rfl, hc⟩
    exact ⟨before, n, after, hnodes, rfl, hafter, hc⟩

private theorem exists_last {nodes : List Node} (h : ∃ n ∈ nodes, n.id = u) :
    ∃ before n after, nodes = before ++ n :: after ∧ n.id = u ∧ ∀ m ∈ after, m.id ≠ u := by
  induction nodes with
  | nil =>
    obtain ⟨n, hn, -⟩ := h
    cases hn
  | cons n nodes ih =>
    by_cases hlater : ∃ m ∈ nodes, m.id = u
    · obtain ⟨before, m, after, rfl, hm, hafter⟩ := ih hlater
      exact ⟨n :: before, m, after, rfl, hm, hafter⟩
    · obtain ⟨m, hm, hid⟩ := h
      obtain rfl | hm := List.mem_cons.1 hm
      · exact ⟨[], m, nodes, rfl, hid, fun k hk e => hlater ⟨k, hk, e⟩⟩
      · exact absurd ⟨m, hm, hid⟩ hlater

theorem exists_counts (h : n ∈ f.allNodes) : ∃ m, f.Counts m ∧ m.id = n.id := by
  obtain ⟨before, m, after, hnodes, hid, hafter⟩ := exists_last ⟨n, h, rfl⟩
  exact ⟨m, ⟨before, after, hnodes, hid ▸ hafter⟩, hid⟩

theorem counts_of_nodup (hids : (f.allNodes.map (·.id)).Nodup) (h : n ∈ f.allNodes) :
    f.Counts n := by
  obtain ⟨before, after, hnodes⟩ := List.mem_iff_append.1 h
  rw [hnodes, List.map_append, List.map_cons, List.nodup_append, List.nodup_cons] at hids
  obtain ⟨-, ⟨hafter, -⟩, -⟩ := hids
  exact ⟨before, after, hnodes, fun m hm hid => hafter (hid ▸ List.mem_map_of_mem hm)⟩

/-! ## The searches of the checks -/

theorem mem_reachable (f : Flow) (v : String) : v ∈ f.reachable ↔ f.Reachable v := by
  unfold reachable Reachable
  cases f.trigger with
  | none => simp
  | some t => simp [Graph.mem_reach, Graph.edge_graph_eq]

theorem hasCycle_iff (f : Flow) :
    f.hasCycle = true ↔ ∃ v, f.Reachable v ∧ TransGen f.Edge v v := by
  unfold hasCycle Reachable
  cases f.trigger with
  | none => simp
  | some t => simp [Graph.hasCycle_iff, Graph.edge_graph_eq]

end Flow

end FlowGate
