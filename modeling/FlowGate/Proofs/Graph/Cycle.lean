import FlowGate.Proofs.Graph.Reach

/-!
# Which cycles a search finds

`Graph.hasCycle_iff` says that the depth-first search answers yes exactly if some identifier that
can be walked to from the start lies on a closed walk.

A yes is an edge from the end of the path back into it, and the identifiers on the path are joined
by walks (`Path`). For a no the invariant is `Searched`: the identifiers that were left for good are
closed under edges and lie on no closed walk, and an edge from the path leads to them, to a target
that still has to be looked at, or up the path.
-/

namespace FlowGate.Graph

open Relation (ReflTransGen TransGen)

variable {g : Graph}

/-! ## A yes -/

/-- The path of a search: each identifier can be walked to from the start and from those below it,
and the targets beside it are targets of its edges. -/
def Path (g : Graph) (start : String) : List (String × List String) → Prop
  | [] => True
  | (id, ts) :: path =>
    ReflTransGen g.Edge start id ∧ (∀ t ∈ ts, g.Edge id t) ∧
      (∀ e ∈ path, ReflTransGen g.Edge e.1 id) ∧ Path g start path

theorem exists_cycle_of_cycleFrom {start : String} {fuel : Nat} {visited : List String}
    {path : List (String × List String)} (h : g.cycleFrom fuel visited path = true)
    (hpath : Path g start path) :
    ∃ v, ReflTransGen g.Edge start v ∧ TransGen g.Edge v v := by
  fun_induction cycleFrom g fuel visited path with
  | case1 => cases h
  | case2 => cases h
  | case3 fuel visited id path ih => exact ih h hpath.2.2.2
  | case4 fuel visited id t ts path hback =>
    obtain ⟨hid, hts, hbelow, -⟩ := hpath
    have he : g.Edge id t := hts t List.mem_cons_self
    have hup : ReflTransGen g.Edge t id := by
      simp only [Bool.or_eq_true, decide_eq_true_eq, List.contains_iff_mem, List.mem_map] at hback
      obtain rfl | ⟨e, hm, rfl⟩ := hback
      · exact .refl
      · exact hbelow e hm
    exact ⟨t, hid.tail he, .tail' hup he⟩
  | case5 fuel visited id t ts path hback hv ih =>
    obtain ⟨hid, hts, hbelow, hrest⟩ := hpath
    exact ih h ⟨hid, fun u hu => hts u (List.mem_cons_of_mem _ hu), hbelow, hrest⟩
  | case6 fuel visited id t ts path hback hv ih =>
    obtain ⟨hid, hts, hbelow, hrest⟩ := hpath
    have he : g.Edge id t := hts t List.mem_cons_self
    refine ih h ⟨hid.tail he, fun u hu => hu, fun e hm => ?_, hid,
      fun u hu => hts u (List.mem_cons_of_mem _ hu), hbelow, hrest⟩
    obtain rfl | hm := List.mem_cons.1 hm
    · exact .single he
    · exact (hbelow e hm).tail he

/-! ## A no -/

/-- An edge from the path leads to an identifier that is done, to a target that still has to be
looked at, or up the path. -/
def Explored (g : Graph) : (String → Prop) → List (String × List String) → Prop
  | _, [] => True
  | done, (id, ts) :: path =>
    (∀ v, g.Edge id v → v ∈ ts ∨ done v) ∧ Explored g (fun v => done v ∨ v = id) path

theorem Explored.mono {done done' : String → Prop} {path : List (String × List String)}
    (h : Explored g done path) (hsub : ∀ v, done v → done' v) : Explored g done' path := by
  induction path generalizing done done' with
  | nil => trivial
  | cons e path ih =>
    exact ⟨fun v he => (h.1 v he).imp_right (hsub v), ih h.2 fun v hv => hv.imp_left (hsub v)⟩

/-- A set of identifiers that edges do not leave and on which no closed walk lies. -/
structure Acyclic (g : Graph) (s : String → Prop) : Prop where
  closed : g.Closed s
  no_cycle : ∀ u, s u → ¬ TransGen g.Edge u u

/-- How far a search has come: the identifiers that are `done` were left for good, the other visited
ones form the path. -/
structure Searched (g : Graph) (done : String → Prop) (visited : List String)
    (path : List (String × List String)) : Prop where
  acyclic : Acyclic g done
  visited_iff : ∀ u, u ∈ visited ↔ done u ∨ u ∈ path.map Prod.fst
  not_done : ∀ u ∈ path.map Prod.fst, ¬ done u
  nodup : (path.map Prod.fst).Nodup
  explored : Explored g done path

/-- The end of the path is done once all its targets were looked at. -/
theorem Searched.pop {done : String → Prop} {visited : List String} {id : String}
    {path : List (String × List String)} (h : Searched g done visited ((id, []) :: path)) :
    Searched g (fun v => done v ∨ v = id) visited path := by
  have hdone : ∀ v, g.Edge id v → done v := fun v he =>
    (h.explored.1 v he).resolve_left List.not_mem_nil
  obtain ⟨hid, hnodup⟩ := List.nodup_cons.1 h.nodup
  refine ⟨⟨?_, ?_⟩, ?_, ?_, hnodup, h.explored.2⟩
  · rintro u v (hu | rfl) he
    · exact .inl (h.acyclic.closed u v hu he)
    · exact .inl (hdone v he)
  · rintro u (hu | rfl) hcycle
    · exact h.acyclic.no_cycle u hu hcycle
    · obtain ⟨w, he, hw⟩ := exists_edge_of_transGen hcycle
      exact h.not_done u List.mem_cons_self (h.acyclic.closed.reflTransGen (hdone w he) hw)
  · intro u
    rw [h.visited_iff, List.map_cons, List.mem_cons, or_assoc]
  · rintro u hu (hd | rfl)
    · exact h.not_done u (List.mem_cons_of_mem _ hu) hd
    · exact hid hu

/-- A target that was visited and is not on the path is done. -/
theorem Searched.skip {done : String → Prop} {visited : List String} {id t : String}
    {ts : List String} {path : List (String × List String)}
    (h : Searched g done visited ((id, t :: ts) :: path)) (ht : t ∈ visited)
    (hpath : t ∉ id :: path.map Prod.fst) : Searched g done visited ((id, ts) :: path) := by
  have hdone : done t := ((h.visited_iff t).1 ht).resolve_right hpath
  refine ⟨h.acyclic, h.visited_iff, h.not_done, h.nodup, fun v he => ?_, h.explored.2⟩
  obtain hv | hv := h.explored.1 v he
  · obtain rfl | hv := List.mem_cons.1 hv
    · exact .inr hdone
    · exact .inl hv
  · exact .inr hv

/-- A target that was not visited becomes the end of the path, with all its own targets ahead. -/
theorem Searched.push {done : String → Prop} {visited : List String} {id t : String}
    {ts : List String} {path : List (String × List String)}
    (h : Searched g done visited ((id, t :: ts) :: path)) (ht : t ∉ visited) :
    Searched g done (t :: visited) ((t, g.targets t) :: (id, ts) :: path) := by
  have hnot : ¬ done t ∧ t ∉ id :: path.map Prod.fst := not_or.1 fun e => ht ((h.visited_iff t).2 e)
  refine ⟨h.acyclic, fun u => ?_, fun u hu => ?_, List.nodup_cons.2 ⟨hnot.2, h.nodup⟩,
    fun v he => .inl he, fun v he => ?_, h.explored.2.mono fun v hv => hv.imp_left .inl⟩
  · have := h.visited_iff u
    simp only [List.map_cons, List.mem_cons] at this ⊢
    rw [this]
    exact or_left_comm
  · obtain rfl | hu := List.mem_cons.1 hu
    · exact hnot.1
    · exact h.not_done u hu
  · obtain hv | hv := h.explored.1 v he
    · obtain rfl | hv := List.mem_cons.1 hv
      · exact .inr (.inr rfl)
      · exact .inl hv
    · exact .inr (.inl hv)

/-- The number of steps that a search has left: a target ahead is looked at and may then be put on
the path and taken off it. -/
def stepsLeft (g : Graph) (visited : List String) (path : List (String × List String)) : Nat :=
  2 * (total (·.2.length) path + g.edgesOutside visited) + path.length

/-- A no of a search with enough fuel leaves the visited identifiers without closed walks. -/
theorem acyclic_of_cycleFrom {fuel : Nat} {visited : List String}
    {path : List (String × List String)} {done : String → Prop}
    (h : g.cycleFrom fuel visited path = false) (hfuel : g.stepsLeft visited path ≤ fuel)
    (hs : Searched g done visited path) : ∃ s, Acyclic g s ∧ ∀ u ∈ visited, s u := by
  fun_induction cycleFrom g fuel visited path generalizing done with
  | case1 visited path =>
    obtain rfl : path = [] := List.eq_nil_of_length_eq_zero (by unfold stepsLeft at hfuel; omega)
    exact ⟨done, hs.acyclic, fun u hu => by simpa using (hs.visited_iff u).1 hu⟩
  | case2 => exact ⟨done, hs.acyclic, fun u hu => by simpa using (hs.visited_iff u).1 hu⟩
  | case3 fuel visited id path ih =>
    exact ih h (by simp [stepsLeft] at hfuel ⊢; omega) hs.pop
  | case4 => cases h
  | case5 fuel visited id t ts path hback hv ih =>
    have hpath : t ∉ id :: path.map Prod.fst := by simpa using hback
    exact ih h (by simp [stepsLeft] at hfuel ⊢; omega) (hs.skip (by simpa using hv) hpath)
  | case6 fuel visited id t ts path hback hv ih =>
    have ht : t ∉ visited := by simpa using hv
    have hcount := g.edgesOutside_cons ht
    obtain ⟨s, hac, hall⟩ := ih h (by simp [stepsLeft] at hfuel ⊢; omega) (hs.push ht)
    exact ⟨s, hac, fun u hu => hall u (List.mem_cons_of_mem _ hu)⟩

/-- The search for a cycle says yes exactly if there is one within reach of its start. -/
theorem hasCycle_iff {start : String} :
    g.hasCycle start = true ↔ ∃ v, ReflTransGen g.Edge start v ∧ TransGen g.Edge v v := by
  constructor
  · intro h
    exact exists_cycle_of_cycleFrom h ⟨.refl, fun t ht => ht, by simp, trivial⟩
  · rintro ⟨v, hv, hcycle⟩
    cases hno : g.hasCycle start with
    | true => rfl
    | false =>
      have hcount : g.edgeCount = g.edgesOutside [start] + (g.targets start).length := by
        rw [← edgesOutside_nil, g.edgesOutside_cons List.not_mem_nil]
      have hs : Searched g (fun _ => False) [start] [(start, g.targets start)] :=
        ⟨⟨by simp [Closed], by simp⟩, by simp, by simp, by simp, by simp [Edge], trivial⟩
      obtain ⟨s, hac, hall⟩ := acyclic_of_cycleFrom hno (by simp [stepsLeft]; omega) hs
      exact absurd hcycle
        (hac.no_cycle v (hac.closed.reflTransGen (hall start List.mem_cons_self) hv))

end FlowGate.Graph
