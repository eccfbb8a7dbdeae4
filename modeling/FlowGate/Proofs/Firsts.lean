import Mathlib.Data.List.Basic
import Mathlib.Data.List.Induction

/-!
# First occurrences

`firsts` keeps the first occurrence of each item of a list. It has the items of the list
(`mem_firsts`), each once and in the order in which they first occur (`pairwise_firsts`).
-/

namespace FlowGate

/-- The list with an item at its end, unless it is there. -/
def appendNew (xs : List String) (x : String) : List String := if x ∈ xs then xs else xs ++ [x]

theorem appendNew_appendNew (xs : List String) (x : String) :
    appendNew (appendNew xs x) x = appendNew xs x := by
  unfold appendNew
  split <;> simp_all

/-- The items of a list, each at its first occurrence. -/
def firsts (xs : List String) : List String := xs.foldl appendNew []

theorem firsts_append (xs ys : List String) : firsts (xs ++ ys) = ys.foldl appendNew (firsts xs) :=
  List.foldl_append

theorem firsts_concat (xs : List String) (x : String) :
    firsts (xs ++ [x]) = appendNew (firsts xs) x := firsts_append xs [x]

@[simp] theorem mem_firsts {xs : List String} {x : String} : x ∈ firsts xs ↔ x ∈ xs := by
  induction xs using List.reverseRecOn with
  | nil => rfl
  | append_singleton xs y ih =>
    rw [firsts_concat, appendNew, List.mem_append, List.mem_singleton]
    split
    · next hy =>
      rw [ih]
      refine (or_iff_left_of_imp ?_).symm
      rintro rfl
      exact ih.1 hy
    · rw [List.mem_append, List.mem_singleton, ih]

theorem pairwise_firsts (xs : List String) :
    (firsts xs).Pairwise fun a b => xs.idxOf a < xs.idxOf b := by
  induction xs using List.reverseRecOn with
  | nil => exact .nil
  | append_singleton xs y ih =>
    have hold : (firsts xs).Pairwise fun a b => (xs ++ [y]).idxOf a < (xs ++ [y]).idxOf b := by
      refine ih.imp_of_mem fun ha hb hab => ?_
      rw [List.idxOf_append_of_mem (mem_firsts.1 ha), List.idxOf_append_of_mem (mem_firsts.1 hb)]
      exact hab
    rw [firsts_concat, appendNew]
    split
    · exact hold
    · next hy =>
      have hy : y ∉ xs := fun h => hy (mem_firsts.2 h)
      rw [List.pairwise_append]
      refine ⟨hold, List.pairwise_singleton _ _, fun a ha b hb => ?_⟩
      obtain rfl := List.mem_singleton.1 hb
      have ha : a ∈ xs := mem_firsts.1 ha
      rw [List.idxOf_append_of_mem ha, List.idxOf_append_of_notMem hy]
      have hlt := List.idxOf_lt_length_of_mem ha
      omega

end FlowGate
