/-!
# Totals

`total` adds up the numbers that a measure gives to the members of a list.
-/

namespace FlowGate

/-- The sum of a measure over a list. -/
def total {α : Type} (measure : α → Nat) : List α → Nat
  | [] => 0
  | x :: xs => measure x + total measure xs

variable {α β : Type} {measure : α → Nat}

@[simp] theorem total_nil : total measure [] = 0 := rfl

@[simp] theorem total_cons (x : α) (xs : List α) :
    total measure (x :: xs) = measure x + total measure xs := rfl

@[simp] theorem total_map (f : β → α) (xs : List β) :
    total measure (xs.map f) = total (fun x => measure (f x)) xs := by
  induction xs with
  | nil => rfl
  | cons x xs ih => simp [ih]

theorem total_eq_zero_iff {xs : List α} : total measure xs = 0 ↔ ∀ x ∈ xs, measure x = 0 := by
  induction xs with
  | nil => simp
  | cons x xs ih => simp [ih]

theorem total_pos_iff {xs : List α} : 0 < total measure xs ↔ ∃ x ∈ xs, 0 < measure x := by
  induction xs with
  | nil => simp
  | cons x xs ih =>
    rw [total_cons, Nat.add_pos_iff_pos_or_pos, ih]
    simp

end FlowGate
