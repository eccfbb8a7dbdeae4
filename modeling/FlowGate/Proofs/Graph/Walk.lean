import FlowGate.Proofs.Graph.Cycle
import Mathlib.Data.List.Chain

/-!
# Walks

A walk is the list of the identifiers that it visits after its start. Where no cycle can be reached,
a walk visits no identifier twice (`Walk.nodup`); where one can, some walk goes round it
(`exists_walk_not_nodup`). So the depth-first search for a cycle decides whether some walk from its
start comes back to an identifier (`hasCycle_iff_walk`).
-/

namespace FlowGate.Graph

open Relation (ReflTransGen TransGen)

variable {g : Graph} {start v : String} {ids : List String}

/-- An edge leads from the start to the first identifier and from each identifier to the next. -/
def Walk (g : Graph) (start : String) (ids : List String) : Prop :=
  List.IsChain g.Edge (start :: ids)

instance : DecidableRel g.Edge := fun u v => inferInstanceAs (Decidable (v ∈ g.targets u))

instance : Decidable (g.Walk start ids) :=
  inferInstanceAs (Decidable (List.IsChain g.Edge (start :: ids)))

theorem walk_nil : g.Walk start [] := .singleton start

theorem walk_cons : g.Walk start (v :: ids) ↔ g.Edge start v ∧ g.Walk v ids :=
  List.isChain_cons_cons

theorem walk_append {more : List String} :
    g.Walk start (ids ++ more) ↔ g.Walk start ids ∧ g.Walk (ids.getLastD start) more := by
  induction ids generalizing start with
  | nil => exact ⟨fun h => ⟨walk_nil, h⟩, fun h => h.2⟩
  | cons v ids ih => rw [List.cons_append, walk_cons, walk_cons, ih, List.getLastD_cons, and_assoc]

theorem walk_concat :
    g.Walk start (ids ++ [v]) ↔ g.Walk start ids ∧ g.Edge (ids.getLastD start) v := by
  rw [walk_append, walk_cons]
  exact and_congr_right fun _ => and_iff_left walk_nil

theorem exists_walk_iff : (∃ ids, g.Walk start ids ∧ ids.getLastD start = v) ↔
    ReflTransGen g.Edge start v := by
  constructor
  · rintro ⟨ids, h, rfl⟩
    induction ids generalizing start with
    | nil => exact .refl
    | cons u ids ih =>
      obtain ⟨he, h⟩ := walk_cons.1 h
      rw [List.getLastD_cons]
      exact .head he (ih h)
  · intro h
    induction h with
    | refl => exact ⟨[], walk_nil, rfl⟩
    | tail _ he ih =>
      obtain ⟨ids, h, rfl⟩ := ih
      exact ⟨ids ++ [_], walk_concat.2 ⟨h, he⟩, by simp⟩

theorem Walk.pairwise (h : g.Walk start ids) : (start :: ids).Pairwise (TransGen g.Edge) :=
  List.isChain_iff_pairwise.1 (h.imp fun _ _ he => .single he)

theorem Walk.reflTransGen (h : g.Walk start ids) {u : String} (hu : u ∈ start :: ids) :
    ReflTransGen g.Edge start u := by
  obtain rfl | hu := List.mem_cons.1 hu
  · exact .refl
  · exact (List.rel_of_pairwise_cons h.pairwise hu).to_reflTransGen

theorem Walk.nodup (h : g.Walk start ids)
    (hac : ∀ u, ReflTransGen g.Edge start u → ¬ TransGen g.Edge u u) : (start :: ids).Nodup := by
  refine h.pairwise.imp_of_mem fun hu _ hlater => ?_
  rintro rfl
  exact hac _ (h.reflTransGen hu) hlater

/-- Where a cycle can be reached, a walk to it and once round it visits an identifier twice. -/
theorem exists_walk_not_nodup (hv : ReflTransGen g.Edge start v) (hcycle : TransGen g.Edge v v) :
    ∃ ids, g.Walk start ids ∧ ¬ (start :: ids).Nodup := by
  obtain ⟨there, hthere, hend⟩ := exists_walk_iff.2 hv
  obtain ⟨u, he, hback⟩ := exists_edge_of_transGen hcycle
  obtain ⟨round, hround, hround'⟩ := exists_walk_iff.2 hback
  have hwalk : g.Walk start (there ++ u :: round) := by
    rw [walk_append, hend, walk_cons]
    exact ⟨hthere, he, hround⟩
  refine ⟨there ++ u :: round, hwalk, fun hnodup => ?_⟩
  -- both parts of the walk end at the identifier on the cycle
  have hfirst : v ∈ start :: there := hend ▸ List.getLastD_mem_cons
  have hsecond : v ∈ u :: round := hround' ▸ List.getLastD_mem_cons
  rw [← List.cons_append] at hnodup
  exact (List.nodup_append.1 hnodup).2.2 v hfirst v hsecond rfl

/-- The search for a cycle says yes exactly if a walk from its start comes back to an identifier. -/
theorem hasCycle_iff_walk :
    g.hasCycle start = true ↔ ∃ ids, g.Walk start ids ∧ ¬ (start :: ids).Nodup := by
  rw [hasCycle_iff]
  constructor
  · rintro ⟨v, hv, hcycle⟩
    exact exists_walk_not_nodup hv hcycle
  · rintro ⟨ids, h, hnodup⟩
    by_contra hno
    exact hnodup (h.nodup fun u hu hcycle => hno ⟨u, hu, hcycle⟩)

theorem Walk.exists_edge (h : g.Walk start ids) {u : String} (hu : u ∈ (start :: ids).dropLast) :
    ∃ v, g.Edge u v := by
  induction ids generalizing start with
  | nil => cases hu
  | cons w ids ih =>
    obtain ⟨he, h⟩ := walk_cons.1 h
    rw [List.dropLast_cons_cons] at hu
    obtain rfl | hu := List.mem_cons.1 hu
    · exact ⟨w, he⟩
    · exact ih h hu

theorem Walk.length_le {sources : List String} (h : g.Walk start ids)
    (hnodup : (start :: ids).Nodup) (hsources : ∀ u v, g.Edge u v → u ∈ sources) :
    ids.length ≤ sources.length := by
  -- each edge of the walk leaves another source: all that it visits but its end
  have hsub : (start :: ids).dropLast ⊆ sources := fun u hu =>
    have ⟨v, he⟩ := h.exists_edge hu
    hsources u v he
  have hle := (hnodup.sublist (List.dropLast_sublist _)).length_le_of_subset hsub
  simpa using hle

/-- Steps that never stop begin with walks of any length. -/
theorem exists_walk_length {path : Nat → String} (h : ∀ i, g.Edge (path i) (path (i + 1)))
    (n i : Nat) : ∃ ids, g.Walk (path i) ids ∧ ids.length = n := by
  induction n generalizing i with
  | zero => exact ⟨[], walk_nil, rfl⟩
  | succ n ih =>
    obtain ⟨ids, hwalk, hlen⟩ := ih (i + 1)
    exact ⟨path (i + 1) :: ids, walk_cons.2 ⟨h i, hwalk⟩, congrArg (· + 1) hlen⟩

end FlowGate.Graph
