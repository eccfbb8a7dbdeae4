import FlowGate.Proofs.Graph.Walk

/-!
# How a search ends

The searches of a graph are loops. `Graph.reach` and `Graph.hasCycle` count their rounds and break
off after a number of them that is computed from the edges; `EndsIn` is a loop that nothing breaks
off. It ends as soon as each round brings some number down (`exists_endsIn`). For the searches that
number is at first smaller than the one at which they break off, so the loops end by themselves,
with the answers of `Graph.reach` (`Graph.endsIn_reach`) and of `Graph.hasCycle`
(`Graph.endsIn_hasCycle`).
-/

namespace FlowGate

section

variable {σ α : Type} {round : σ → σ ⊕ α}

/-- A loop ends with an answer after a number of rounds that led from state to state. -/
inductive EndsIn (round : σ → σ ⊕ α) : Nat → σ → α → Prop
  | stop {s : σ} {a : α} : round s = .inr a → EndsIn round 0 s a
  | go {n : Nat} {s t : σ} {a : α} : round s = .inl t → EndsIn round n t a →
      EndsIn round (n + 1) s a

theorem exists_endsIn {left : σ → Nat} (hleft : ∀ s t, round s = .inl t → left t < left s)
    (s : σ) : ∃ n ≤ left s, ∃ a, EndsIn round n s a := by
  induction hm : left s using Nat.strongRecOn generalizing s with
  | ind m ih =>
    cases hround : round s with
    | inr a => exact ⟨0, Nat.zero_le _, a, .stop hround⟩
    | inl t =>
      have hlt : left t < m := hm ▸ hleft s t hround
      obtain ⟨n, hn, a, h⟩ := ih (left t) hlt t rfl
      exact ⟨n + 1, by omega, a, .go hround h⟩

end

namespace Graph

open Relation (ReflTransGen TransGen)

variable {g : Graph} {n fuel : Nat}

/-! ## What can be reached -/

/-- One round of the search for what can be reached: the first identifier in the queue is entered,
and its targets are queued, unless it was entered before. The state is what was entered and the
queue. -/
def reachRound (g : Graph) :
    List String × List String → (List String × List String) ⊕ List String
  | (visited, []) => .inr visited
  | (visited, id :: queue) =>
    if visited.contains id then .inl (visited, queue)
    else .inl (id :: visited, queue ++ (g.targets id).filter fun t => !(id :: visited).contains t)

/-- A round takes an identifier off the queue. What it puts there are edges of an identifier that
counts as outside before and not after. -/
theorem left_reachRound {s t : List String × List String} (h : g.reachRound s = .inl t) :
    t.2.length + g.edgesOutside t.1 < s.2.length + g.edgesOutside s.1 := by
  obtain ⟨visited, _ | ⟨id, queue⟩⟩ := s
  · cases h
  · by_cases hid : id ∈ visited
    · rw [reachRound, if_pos (by simpa using hid)] at h
      cases h
      simp
    · rw [reachRound, if_neg (by simpa using hid)] at h
      cases h
      have hcount := g.edgesOutside_cons hid
      have hlen : ((g.targets id).filter fun t => !(id :: visited).contains t).length ≤
          (g.targets id).length := List.length_filter_le ..
      simp only [List.length_append, List.length_cons]
      omega

/-- A search that is broken off later than it ends gives what it ends with. -/
theorem reachFrom_of_endsIn {s : List String × List String} {found : List String}
    (h : EndsIn g.reachRound n s found) (hn : n ≤ fuel) : g.reachFrom fuel s.1 s.2 = found := by
  induction h generalizing fuel with
  | @stop s found hstop =>
    obtain ⟨visited, _ | ⟨id, queue⟩⟩ := s
    · cases hstop
      cases fuel <;> rfl
    · rw [reachRound] at hstop
      split at hstop <;> cases hstop
  | @go n s t found hgo _ ih =>
    obtain ⟨fuel, rfl⟩ : ∃ k, fuel = k + 1 := ⟨fuel - 1, by omega⟩
    obtain ⟨visited, _ | ⟨id, queue⟩⟩ := s
    · cases hgo
    · rw [← ih (Nat.le_of_succ_le_succ hn)]
      by_cases hid : visited.contains id = true
      · rw [reachRound, if_pos hid] at hgo
        cases hgo
        rw [reachFrom, if_pos hid]
      · rw [reachRound, if_neg hid] at hgo
        cases hgo
        rw [reachFrom, if_neg hid]

theorem nodup_reachFrom {visited queue : List String} (h : visited.Nodup) :
    (g.reachFrom fuel visited queue).Nodup := by
  fun_induction reachFrom g fuel visited queue with
  | case1 => exact h
  | case2 => exact h
  | case3 fuel visited id queue hid ih => exact ih h
  | case4 fuel visited id queue hid ih =>
    exact ih (List.nodup_cons.2 ⟨by simpa using hid, h⟩)

/-- From any identifier the search for what can be reached ends, after as many rounds as there are
edges and one more at most. It has then found, each once, the ends of the walks from there. -/
theorem endsIn_reach (g : Graph) (start : String) :
    (∃ n ≤ g.edgeCount + 1, EndsIn g.reachRound n ([], [start]) (g.reach start)) ∧
      (g.reach start).Nodup ∧
      ∀ v, v ∈ g.reach start ↔ ∃ ids, g.Walk start ids ∧ ids.getLastD start = v := by
  refine ⟨?_, nodup_reachFrom List.nodup_nil, fun v => ?_⟩
  · obtain ⟨n, hn, found, hends⟩ :=
      exists_endsIn (fun s t => @left_reachRound g s t) ([], [start])
    have hbound : n ≤ g.edgeCount + 1 := by
      rw [edgesOutside_nil, List.length_singleton] at hn
      omega
    have hfound : g.reach start = found := reachFrom_of_endsIn hends hbound
    exact ⟨n, hbound, hfound ▸ hends⟩
  · rw [mem_reach, exists_walk_iff]

/-! ## Cycles -/

/-- One round of the search for a cycle: the next target of the last identifier on the path is
looked at, or that identifier is taken off the path. The state is what was entered and the path. -/
def cycleRound (g : Graph) : List String × List (String × List String) →
    (List String × List (String × List String)) ⊕ Bool
  | (_, []) => .inr false
  | (visited, (_, []) :: path) => .inl (visited, path)
  | (visited, (id, t :: ts) :: path) =>
    if t = id || (path.map Prod.fst).contains t then .inr true
    else if visited.contains t then .inl (visited, (id, ts) :: path)
    else .inl (t :: visited, (t, g.targets t) :: (id, ts) :: path)

/-- A round uses up a target or takes an identifier off the path. What it puts on the path has only
targets that counted as outside before. -/
theorem left_cycleRound {s t : List String × List (String × List String)}
    (h : g.cycleRound s = .inl t) : g.stepsLeft t.1 t.2 < g.stepsLeft s.1 s.2 := by
  obtain ⟨visited, _ | ⟨⟨id, _ | ⟨u, ts⟩⟩, path⟩⟩ := s
  · cases h
  · cases h
    simp [stepsLeft]
  · rw [cycleRound] at h
    split at h
    · cases h
    · by_cases hu : u ∈ visited
      · rw [if_pos (by simpa using hu)] at h
        cases h
        simp only [stepsLeft, total_cons, List.length_cons]
        omega
      · rw [if_neg (by simpa using hu)] at h
        cases h
        have hcount := g.edgesOutside_cons hu
        simp only [stepsLeft, total_cons, List.length_cons]
        omega

theorem cycleFrom_of_endsIn {s : List String × List (String × List String)} {answer : Bool}
    (h : EndsIn g.cycleRound n s answer) (hn : n < fuel) :
    g.cycleFrom fuel s.1 s.2 = answer := by
  -- along the rounds; unlike the other search this one needs a step to give its answer
  induction h generalizing fuel with
  | @stop s answer hstop =>
    obtain ⟨fuel, rfl⟩ : ∃ k, fuel = k + 1 := ⟨fuel - 1, by omega⟩
    obtain ⟨visited, _ | ⟨⟨id, _ | ⟨u, ts⟩⟩, path⟩⟩ := s
    · cases hstop
      rfl
    · cases hstop
    · rw [cycleRound] at hstop
      split at hstop
      · next hback =>
        cases hstop
        rw [cycleFrom, if_pos hback]
      · split at hstop <;> cases hstop
  | @go n s t answer hgo _ ih =>
    obtain ⟨fuel, rfl⟩ : ∃ k, fuel = k + 1 := ⟨fuel - 1, by omega⟩
    rw [← ih (Nat.lt_of_succ_lt_succ hn)]
    obtain ⟨visited, _ | ⟨⟨id, _ | ⟨u, ts⟩⟩, path⟩⟩ := s
    · cases hgo
    · cases hgo
      rfl
    · rw [cycleRound] at hgo
      split at hgo
      · cases hgo
      · next hback =>
        rw [cycleFrom, if_neg hback]
        by_cases hu : visited.contains u = true
        · rw [if_pos hu] at hgo
          cases hgo
          rw [if_pos hu]
        · rw [if_neg hu] at hgo
          cases hgo
          rw [if_neg hu]

/-- The edges that leave an identifier are those in its entry; without an entry there are none. -/
theorem edge_iff {u v : String} : g.Edge u v ↔ ∃ ts, (u, ts) ∈ g.entries ∧ v ∈ ts := by
  simp only [← Table.get?_eq_some_iff]
  unfold Edge targets
  cases g.get? u <;> simp

/-- From any identifier the search for a cycle ends, after twice as many rounds as there are edges
and one more at most. It says yes exactly if some identifier that can be reached can reach itself
over at least one edge: neither paths that meet again nor a cycle elsewhere make it say so. -/
theorem endsIn_hasCycle (g : Graph) (start : String) :
    (∃ n ≤ 2 * g.edgeCount + 1,
      EndsIn g.cycleRound n ([start], [(start, g.targets start)]) (g.hasCycle start)) ∧
      (g.hasCycle start = true ↔ ∃ v, ReflTransGen g.Edge start v ∧ TransGen g.Edge v v) ∧
      ∀ u v, g.Edge u v ↔ ∃ ts, (u, ts) ∈ g.entries ∧ v ∈ ts := by
  refine ⟨?_, hasCycle_iff, fun u v => edge_iff⟩
  obtain ⟨n, hn, answer, hends⟩ :=
    exists_endsIn (fun s t => @left_cycleRound g s t) ([start], [(start, g.targets start)])
  have hbound : n ≤ 2 * g.edgeCount + 1 := by
    have hcount := g.edgesOutside_cons (List.not_mem_nil (a := start))
    rw [edgesOutside_nil] at hcount
    simp only [stepsLeft, total_cons, total_nil, List.length_singleton] at hn
    omega
  have hanswer : g.hasCycle start = answer := cycleFrom_of_endsIn hends (Nat.lt_succ_of_le hbound)
  exact ⟨n, hbound, hanswer ▸ hends⟩

/-- Two paths meet again, one of them has a target without an entry, and a cycle lies elsewhere. -/
example : hasCycle (Table.ofList [("a", ["b", "c"]), ("b", ["d"]), ("c", ["d", "x"]),
    ("e", ["e", "a"])]) "a" = false := by decide

end Graph

end FlowGate
