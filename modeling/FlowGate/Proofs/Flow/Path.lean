import FlowGate.Proofs.Flow.Verdict
import FlowGate.Proofs.Graph.Walk

/-!
# Where the paths of a flow end

A check of a traditional flow that finds no error says something about all paths that start at the
trigger, though it looks at no path: `Flow.paths_of_check` bounds their length, leaves no node aside
and names the places where a path can end. The bound comes from the absence of cycles, since a walk
without repetitions leaves each node at most once; the ends come from the absence of dead ends.
-/

namespace FlowGate.Flow

open Relation (ReflTransGen TransGen)

variable {f : Flow} {t : Node} {ids : List String}

theorem mem_of_edge {u v : String} (h : f.Edge u v) : u ∈ f.allNodes.map (·.id) := by
  obtain ⟨n, hn, rfl, -⟩ := edge_iff_counts.1 h
  exact List.mem_map_of_mem hn.mem

theorem mem_targets_of_edge {u v : String} (h : f.Edge u v) :
    v ∈ f.allNodes.flatMap Node.targets := by
  obtain ⟨n, hn, -, hc⟩ := edge_iff_counts.1 h
  exact List.mem_flatMap.2 ⟨n, hn.mem, List.mem_map.2 hc⟩

theorem reachable_of_walk (ht : f.trigger = some t) (h : f.graph.Walk t.id ids) {u : String}
    (hu : u ∈ t.id :: ids) : f.Reachable u := by
  refine ⟨t, ht, ?_⟩
  rw [← Graph.edge_graph_eq]
  exact h.reflTransGen hu

theorem length_le_of_walk (hcycle : ∀ v, f.Reachable v → ¬ TransGen f.Edge v v)
    (ht : f.trigger = some t) (h : f.graph.Walk t.id ids) : ids.length ≤ f.allNodes.length := by
  have hnodup : (t.id :: ids).Nodup := h.nodup fun u hu => by
    rw [Graph.edge_graph_eq] at hu ⊢
    exact hcycle u ⟨t, ht, hu⟩
  have hle := h.length_le hnodup fun u v he => mem_of_edge ((Graph.edge_graph f u v).1 he)
  rwa [List.length_map] at hle

theorem exists_walk_to_node (horphan : ∀ n ∈ f.nodes, f.Reachable n.id) (ht : f.trigger = some t)
    {n : Node} (hn : n ∈ f.allNodes) : ∃ ids, f.graph.Walk t.id ids ∧ n.id ∈ t.id :: ids := by
  have hreach : f.Reachable n.id := by
    rw [allNodes, ht] at hn
    obtain rfl | hn := List.mem_cons.1 hn
    · exact ⟨n, ht, .refl⟩
    · exact horphan n hn
  obtain ⟨t', ht', hwalk⟩ := hreach
  obtain rfl : t = t' := Option.some.inj (ht.symm.trans ht')
  rw [← Graph.edge_graph_eq] at hwalk
  obtain ⟨ids, hids, hend⟩ := Graph.exists_walk_iff.2 hwalk
  exact ⟨ids, hids, hend ▸ List.getLastD_mem_cons⟩

/-- Without dead ends a path ends outside the nodes or where a path may end. -/
theorem end_of_walk
    (hends : ∀ n ∈ f.allNodes, f.Reachable n.id → n.kind ∉ [.terminal, .loop, .parallel] →
      n.connections ≠ [])
    (ht : f.trigger = some t) (h : f.graph.Walk t.id ids)
    (hstuck : ∀ v, ¬ f.graph.Walk t.id (ids ++ [v])) :
    (ids.getLastD t.id ∈ f.allNodes.flatMap Node.targets ∧
        ids.getLastD t.id ∉ f.allNodes.map (·.id)) ∨
      ∃ n ∈ f.allNodes, n.id = ids.getLastD t.id ∧ n.kind ∈ [.terminal, .loop, .parallel] := by
  have hnoedge : ∀ v, ¬ f.Edge (ids.getLastD t.id) v := fun v he =>
    hstuck v (Graph.walk_concat.2 ⟨h, (Graph.edge_graph f _ v).2 he⟩)
  by_cases hnode : ids.getLastD t.id ∈ f.allNodes.map (·.id)
  · right
    -- of the nodes that carry the end, the one that counts would lead on if it had a connection
    obtain ⟨m, hm, hid⟩ := List.mem_map.1 hnode
    obtain ⟨n, hn, hnm⟩ := exists_counts hm
    have hn' : n.id = ids.getLastD t.id := hnm.trans hid
    refine ⟨n, hn.mem, hn', ?_⟩
    by_contra hkind
    have hreach : f.Reachable n.id := hn' ▸ reachable_of_walk ht h List.getLastD_mem_cons
    obtain ⟨c, hc⟩ := List.exists_mem_of_ne_nil _ (hends n hn.mem hreach hkind)
    exact hnoedge c.target (edge_iff_counts.2 ⟨n, hn, hn', c, hc, rfl⟩)
  · left
    -- the trigger is a node, so that the walk has a last edge
    refine ⟨?_, hnode⟩
    obtain rfl | ⟨before, v, rfl⟩ := List.eq_nil_or_concat' ids
    · exact absurd (List.mem_map_of_mem (trigger_mem ht)) hnode
    · have he := (Graph.edge_graph f _ _).1 (Graph.walk_concat.1 h).2
      simpa using mem_targets_of_edge he

/-- The paths of a traditional flow in which a check finds no error. None has more edges than the
flow has nodes, so that none goes on for ever; every node is on one; and one that cannot be extended
ends at a target that is no node, or where a path may end. -/
theorem paths_of_check {r : Result} (hkind : f.kind = .traditional) (h : f.check = .ok r)
    (hr : r.errorCount = 0) : ∃ t, f.trigger = some t ∧
      (∀ ids, f.graph.Walk t.id ids → ids.length ≤ f.allNodes.length) ∧
      (¬ ∃ path : Nat → String, path 0 = t.id ∧ ∀ i, f.graph.Edge (path i) (path (i + 1))) ∧
      (∀ n ∈ f.allNodes, ∃ ids, f.graph.Walk t.id ids ∧ n.id ∈ t.id :: ids) ∧
      ∀ ids, f.graph.Walk t.id ids → (∀ v, ¬ f.graph.Walk t.id (ids ++ [v])) →
        (ids.getLastD t.id ∈ f.allNodes.flatMap Node.targets ∧
            ids.getLastD t.id ∉ f.allNodes.map (·.id)) ∨
          ∃ n ∈ f.allNodes, n.id = ids.getLastD t.id ∧
            n.kind ∈ [.terminal, .loop, .parallel] := by
  obtain ⟨htrigger, hends, horphan, hcycle⟩ := faultless_graph_of_check h hr
  obtain ⟨t, ht⟩ := Option.ne_none_iff_exists'.1 ((faultless_checkTrigger f).1 htrigger)
  have hcycle : ∀ v, f.Reachable v → ¬ TransGen f.Edge v v :=
    ((faultless_checkCycles f).1 hcycle).resolve_left (by simp [hkind])
  have hlength : ∀ ids, f.graph.Walk t.id ids → ids.length ≤ f.allNodes.length :=
    fun ids hwalk => length_le_of_walk hcycle ht hwalk
  refine ⟨t, ht, hlength, ?_, ?_, ?_⟩
  · rintro ⟨path, hstart, hpath⟩
    obtain ⟨ids, hwalk, hlen⟩ := Graph.exists_walk_length hpath (f.allNodes.length + 1) 0
    have hle := hlength ids (hstart ▸ hwalk)
    omega
  · intro n hn
    exact exists_walk_to_node ((faultless_checkOrphans f).1 horphan) ht hn
  · intro ids hwalk hstuck
    exact end_of_walk ((faultless_checkEnds f).1 hends).2 ht hwalk hstuck

/-- The ways of a parcel: through the node whose connections count, and out of the flow at its
end. -/
theorem paths_parcel : parcel.kind = .traditional ∧ ∃ r, parcel.check = .ok r ∧ r.errorCount = 0 ∧
    ∃ t, parcel.trigger = some t ∧ parcel.graph.Walk t.id ["pack", "end", "nowhere"] ∧
      ∀ ids, parcel.graph.Walk t.id ids → ids.length ≤ 4 := by
  obtain ⟨t, ht, hlength, -⟩ := paths_of_check (f := parcel) rfl rfl rfl
  refine ⟨rfl, _, rfl, rfl, t, ht, ?_, hlength⟩
  cases ht
  decide

end FlowGate.Flow
