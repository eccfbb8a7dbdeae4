import FlowGate.Graph
import Mathlib.Logic.Relation

/-!
# What a search reaches

`Graph.Edge` is the edge relation of a graph, and walks are its closures `Relation.ReflTransGen` and
`Relation.TransGen`. `Graph.mem_reach` says that the search from a start finds exactly the ends of
the walks from there, cycles, repeated edges and unknown targets included.

The search steps as often as there are identifiers in the queue and edges that leave identifiers it
did not enter (`Graph.edgesOutside`): entering one moves its edges from the second number to the
first.
-/

namespace FlowGate.Graph

open Relation (ReflTransGen TransGen)

variable {g : Graph}

def Edge (g : Graph) (u v : String) : Prop := v ∈ g.targets u

/-- A set of identifiers that no edge leaves. -/
def Closed (g : Graph) (s : String → Prop) : Prop := ∀ u v, s u → g.Edge u v → s v

theorem Closed.reflTransGen {s : String → Prop} (hs : g.Closed s) {u v : String} (hu : s u)
    (h : ReflTransGen g.Edge u v) : s v := by
  induction h with
  | refl => exact hu
  | tail _ he ih => exact hs _ _ ih he

theorem exists_edge_of_transGen {u v : String} (h : TransGen g.Edge u v) :
    ∃ w, g.Edge u w ∧ ReflTransGen g.Edge w v := TransGen.head'_iff.1 h

/-! ## Counting edges -/

/-- The number of edges that leave identifiers outside a list. -/
def edgesOutside (g : Graph) (visited : List String) : Nat :=
  total (·.2.length) (g.entries.filter fun e => !visited.contains e.1)

theorem edgesOutside_nil (g : Graph) : g.edgesOutside [] = g.edgeCount := by
  unfold edgesOutside
  rw [List.filter_eq_self.2 (by simp)]
  simp [edgeCount, Table.values]

private theorem total_filter_cons (es : List (String × List String)) (h : (es.map Prod.fst).Nodup)
    {visited : List String} {id : String} (hid : id ∉ visited) :
    total (·.2.length) (es.filter fun e => !visited.contains e.1) =
      total (·.2.length) (es.filter fun e => !(id :: visited).contains e.1) +
        ((es.lookup id).getD []).length := by
  induction es with
  | nil => rfl
  | cons e es ih =>
    obtain ⟨k, ts⟩ := e
    obtain ⟨hk, hes⟩ := List.nodup_cons.1 h
    have ih := ih hes
    rw [lookup_pair]
    by_cases hki : k = id
    · subst hki
      have hnone : es.lookup k = none := List.lookup_eq_none_iff.2 fun p hp => by
        have : k ≠ p.1 := fun e => hk (List.mem_map.2 ⟨p, hp, e.symm⟩)
        simpa using this
      rw [hnone] at ih
      simp [hid] at ih ⊢
      omega
    · have hik : ¬ id = k := fun e => hki e.symm
      by_cases hkv : k ∈ visited
      · simp [hki, hik, hkv] at ih ⊢
        exact ih
      · simp [hki, hik, hkv] at ih ⊢
        omega

/-- Entering an identifier takes its edges out of the count. -/
theorem edgesOutside_cons (g : Graph) {visited : List String} {id : String} (hid : id ∉ visited) :
    g.edgesOutside visited = g.edgesOutside (id :: visited) + (g.targets id).length :=
  total_filter_cons g.entries g.nodup hid

/-! ## The search -/

/-- What the search finds was visited before or can be walked to from the queue. -/
theorem of_mem_reachFrom {fuel : Nat} {visited queue : List String} {v : String}
    (h : v ∈ g.reachFrom fuel visited queue) :
    v ∈ visited ∨ ∃ u ∈ queue, ReflTransGen g.Edge u v := by
  fun_induction reachFrom g fuel visited queue with
  | case1 => exact .inl h
  | case2 => exact .inl h
  | case3 fuel visited id queue hid ih =>
    obtain hv | ⟨u, hu, hw⟩ := ih h
    · exact .inl hv
    · exact .inr ⟨u, List.mem_cons_of_mem _ hu, hw⟩
  | case4 fuel visited id queue hid ih =>
    obtain hv | ⟨u, hu, hw⟩ := ih h
    · obtain rfl | hv := List.mem_cons.1 hv
      · exact .inr ⟨v, List.mem_cons_self, .refl⟩
      · exact .inl hv
    · obtain hu | hu := List.mem_append.1 hu
      · exact .inr ⟨u, List.mem_cons_of_mem _ hu, hw⟩
      · exact .inr ⟨id, List.mem_cons_self, .head (List.mem_filter.1 hu).1 hw⟩

/-- With enough fuel the search ends with a closed set around the visited identifiers and the queue,
if all edges that leave a visited one lead to a visited or a queued one. -/
theorem reachFrom_closed {fuel : Nat} {visited queue : List String}
    (hfuel : queue.length + g.edgesOutside visited ≤ fuel)
    (hedge : ∀ u ∈ visited, ∀ v, g.Edge u v → v ∈ visited ∨ v ∈ queue) :
    g.Closed (· ∈ g.reachFrom fuel visited queue) ∧
      (∀ v, v ∈ visited ∨ v ∈ queue → v ∈ g.reachFrom fuel visited queue) := by
  fun_induction reachFrom g fuel visited queue with
  | case1 visited queue =>
    obtain rfl : queue = [] := List.eq_nil_of_length_eq_zero (by omega)
    exact ⟨fun u v hu he => by simpa using hedge u hu v he, by simp⟩
  | case2 => exact ⟨fun u v hu he => by simpa using hedge u hu v he, by simp⟩
  | case3 fuel visited id queue hid ih =>
    have hid : id ∈ visited := by simpa using hid
    have hmem : ∀ v, v ∈ visited ∨ v ∈ id :: queue → v ∈ visited ∨ v ∈ queue := by
      rintro v (hv | hv)
      · exact .inl hv
      · obtain rfl | hv := List.mem_cons.1 hv
        · exact .inl hid
        · exact .inr hv
    obtain ⟨hclosed, hall⟩ := ih (by simp at hfuel; omega) fun u hu v he => hmem v (hedge u hu v he)
    exact ⟨hclosed, fun v hv => hall v (hmem v hv)⟩
  | case4 fuel visited id queue hid ih =>
    have hid : id ∉ visited := by simpa using hid
    have hlen : ((g.targets id).filter fun t => !(id :: visited).contains t).length ≤
        (g.targets id).length := List.length_filter_le ..
    have hcount := g.edgesOutside_cons hid
    obtain ⟨hclosed, hall⟩ := ih (by simp only [List.length_cons, List.length_append] at *; omega)
      fun u hu v he => by
        by_cases hv : v ∈ id :: visited
        · exact .inl hv
        · obtain rfl | hu := List.mem_cons.1 hu
          · exact .inr (List.mem_append_right _ (List.mem_filter.2 ⟨he, by simpa using hv⟩))
          · obtain hv' | hv' := hedge u hu v he
            · exact absurd (List.mem_cons_of_mem _ hv') hv
            · obtain rfl | hv' := List.mem_cons.1 hv'
              · exact absurd List.mem_cons_self hv
              · exact .inr (List.mem_append_left _ hv')
    refine ⟨hclosed, fun v hv => hall v ?_⟩
    obtain hv | hv := hv
    · exact .inl (List.mem_cons_of_mem _ hv)
    · obtain rfl | hv := List.mem_cons.1 hv
      · exact .inl List.mem_cons_self
      · exact .inr (List.mem_append_left _ hv)

/-- The search finds the ends of all walks from its start, and nothing else. -/
theorem mem_reach {start v : String} : v ∈ g.reach start ↔ ReflTransGen g.Edge start v := by
  constructor
  · intro h
    obtain hv | ⟨u, hu, hw⟩ := of_mem_reachFrom h
    · cases hv
    · obtain rfl := List.mem_singleton.1 hu
      exact hw
  · have hfuel : [start].length + g.edgesOutside [] ≤ g.edgeCount + 1 := by
      rw [edgesOutside_nil, List.length_singleton]
      omega
    obtain ⟨hclosed, hall⟩ := reachFrom_closed hfuel (by simp)
    exact hclosed.reflTransGen (hall start (.inr List.mem_cons_self))

end FlowGate.Graph
