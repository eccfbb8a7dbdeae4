import FlowGate.Value.Text
import Mathlib.Algebra.Group.Int.Defs
import Mathlib.Algebra.Order.Group.Nat

/-!
# The text of a value

The empty text is one of the values that do not count as given. `Value.text_ne_empty` says that the
text of any value that does is not empty, so that an identifier made of it counts as given again.
A value has no text if an integer of too many digits occurs anywhere in it: `Value.HasText` says so
of the integers in a value, and `Value.isTooLong_eq_false_iff` that this is what is looked for.
-/

namespace FlowGate

/-! ## Texts that are not empty -/

theorem append_ne_empty_left {s : String} (t : String) (h : s ≠ "") : s ++ t ≠ "" :=
  fun e => h (String.append_eq_empty_iff.1 e).1

theorem append_ne_empty_right (s : String) {t : String} (h : t ≠ "") : s ++ t ≠ "" :=
  fun e => h (String.append_eq_empty_iff.1 e).2

theorem toString_int_ne_empty (n : Int) : toString n ≠ "" := by
  cases n with
  | ofNat n => exact Nat.repr_ne_empty
  | negSucc n => exact append_ne_empty_left _ (by decide)

theorem Decimal.positional_ne_nil (digits : List Char) (point : Int) :
    positional digits point ≠ [] := by
  unfold positional
  split
  · simp
  · split <;> simp

theorem Decimal.scientific_ne_nil (digits : List Char) (point : Int) :
    scientific digits point ≠ [] := by
  simp [scientific]

theorem Double.toText_ne_empty (x : Double) : x.toText ≠ "" := by
  cases x with
  | nan => decide
  | infinite negative => cases negative <;> decide
  | finite negative place =>
    have hbody : (if place.val = 0 then ['0', '.', '0']
        else (Shortest.decimal place).toChars) ≠ [] := by
      split
      · simp
      · unfold Decimal.toChars
        dsimp only
        split
        · exact Decimal.positional_ne_nil _ _
        · exact Decimal.scientific_ne_nil _ _
    unfold toText
    dsimp only
    rw [Ne, String.ofList_eq_empty_iff]
    split
    · exact List.cons_ne_nil _ _
    · exact hbody

theorem Date.toText_ne_empty (d : Date) : d.toText ≠ "" := by
  unfold toText
  refine append_ne_empty_left _ (append_ne_empty_left _ (append_ne_empty_left _ ?_))
  exact append_ne_empty_right _ (by decide)

theorem Moment.toText_ne_empty (m : Moment) (separator : String) : m.toText separator ≠ "" := by
  unfold toText
  iterate 8 refine append_ne_empty_left _ ?_
  exact m.date.toText_ne_empty

theorem Scalar.text_ne_empty {s : Scalar} (h : Value.isGiven (.scalar s) = true) : s.text ≠ "" := by
  cases s with
  | null => cases h
  | bool b => cases b <;> decide
  | int n => exact toString_int_ne_empty n
  | float x => exact x.toText_ne_empty
  | str s =>
    show s ≠ ""
    simpa [Value.isGiven] using h
  | date d => exact d.toText_ne_empty
  | moment m => exact m.toText_ne_empty " "
  | sealed kind written ints =>
    rintro rfl
    simp [Value.isGiven] at h

/-- What counts as given has a text that counts as given. -/
theorem Value.text_ne_empty {v : Value} (h : v.isGiven = true) : v.text ≠ "" := by
  cases v with
  | scalar s => exact Scalar.text_ne_empty h
  | list items => exact append_ne_empty_left _ (append_ne_empty_left _ (by decide))
  | map entries => exact append_ne_empty_left _ (append_ne_empty_left _ (by decide))

/-! ## Values without a text -/

/-- Whether an integer occurs in a value: as the value itself or sealed in it, as a key, or within a
part. -/
inductive Value.Within (n : Int) : Value → Prop
  | scalar {s : Scalar} : n ∈ s.ints → Within n (.scalar s)
  | item {items : List Value} {v : Value} : v ∈ items → Within n v → Within n (.list items)
  | key {es : Entries} {k : Scalar} {v : Value} : (k, v) ∈ es → n ∈ k.ints → Within n (.map es)
  | entry {es : Entries} {k : Scalar} {v : Value} : (k, v) ∈ es → Within n v → Within n (.map es)

/-- Whether all integers in a value have few enough digits to be written. -/
def Value.HasText (v : Value) : Prop := ∀ n : Int, v.Within n → n.natAbs < 10 ^ Number.digitLimit

theorem Value.hasText_scalar (s : Scalar) :
    (Value.scalar s).HasText ↔ ∀ n ∈ s.ints, n.natAbs < 10 ^ Number.digitLimit := by
  constructor
  · intro h n hn
    exact h n (.scalar hn)
  · intro h n hn
    cases hn with
    | scalar hn => exact h n hn

theorem Value.hasText_int {n : Int} :
    (Value.int n).HasText ↔ n.natAbs < 10 ^ Number.digitLimit := by
  rw [hasText_scalar]
  exact List.forall_mem_singleton

theorem Value.hasText_list (items : List Value) :
    (Value.list items).HasText ↔ ∀ v ∈ items, v.HasText := by
  constructor
  · intro h v hv n hn
    exact h n (.item hv hn)
  · intro h n hn
    cases hn with
    | item hv hn => exact h _ hv n hn

theorem Value.hasText_map (es : Entries) :
    (Value.map es).HasText ↔ ∀ e ∈ es, (Value.scalar e.1).HasText ∧ e.2.HasText := by
  constructor
  · rintro h ⟨k, v⟩ he
    exact ⟨(hasText_scalar k).2 fun n hn => h n (.key he hn), fun n hn => h n (.entry he hn)⟩
  · intro h n hn
    cases hn with
    | key he hn => exact (h _ he).1 n (.scalar hn)
    | entry he hn => exact (h _ he).2 n hn

theorem Value.hasText_null : Value.null.HasText := (hasText_scalar .null).2 nofun

theorem Value.hasText_str (s : String) : (Value.str s).HasText := (hasText_scalar (.str s)).2 nofun

theorem Value.not_hasText_pow : ¬ (Value.int (10 ^ Number.digitLimit)).HasText := by
  rw [hasText_int]
  have hpow : ∀ k : Nat, Int.natAbs (10 ^ k) = 10 ^ k := fun k => Int.natAbs_pow 10 k
  exact fun h => Nat.ne_of_lt h (hpow Number.digitLimit)

theorem Value.HasText.field {es : Entries} (h : (Value.map es).HasText) (key : String) :
    (Entries.field es key).HasText := by
  unfold Entries.field Entries.get?
  cases hfound : es.find? fun e => e.1 == .str key with
  | none => exact hasText_null
  | some e => exact ((hasText_map es).1 h e (List.mem_of_find?_eq_some hfound)).2

theorem Value.HasText.orElse {v w : Value} (hv : v.HasText) (hw : w.HasText) :
    (v.orElse w).HasText := by
  unfold Value.orElse
  split
  · exact hv
  · exact hw

theorem Value.mem_itemInts {n : Int} (vs : List Value) :
    n ∈ itemInts vs ↔ ∃ v ∈ vs, n ∈ v.ints := by
  induction vs with
  | nil => simp [itemInts]
  | cons v vs ih => simp [itemInts, ih]

theorem Value.mem_entryInts {n : Int} (es : Entries) :
    n ∈ entryInts es ↔ ∃ e ∈ es, n ∈ e.1.ints ∨ n ∈ e.2.ints := by
  induction es with
  | nil => simp [entryInts]
  | cons e es ih => simp [entryInts, ih, or_assoc]

theorem Value.mem_ints_iff {n : Int} : (v : Value) → (n ∈ v.ints ↔ v.Within n)
  | .scalar s => ⟨.scalar, fun | .scalar hn => hn⟩
  | .list items => by
    have ih : ∀ v ∈ items, (n ∈ v.ints ↔ v.Within n) := fun v hv => mem_ints_iff v
    rw [ints, mem_itemInts]
    constructor
    · rintro ⟨v, hv, hn⟩
      exact .item hv ((ih v hv).1 hn)
    · intro h
      cases h with
      | item hv hn => exact ⟨_, hv, (ih _ hv).2 hn⟩
  | .map es => by
    have ih : ∀ e ∈ es, (n ∈ e.2.ints ↔ e.2.Within n) := fun e he => mem_ints_iff e.2
    rw [ints, mem_entryInts]
    constructor
    · rintro ⟨e, he, hn | hn⟩
      · exact .key he hn
      · exact .entry he ((ih e he).1 hn)
    · intro h
      cases h with
      | key he hn => exact ⟨_, he, .inl hn⟩
      | entry he hn => exact ⟨_, he, .inr ((ih _ he).2 hn)⟩
termination_by v => sizeOf v
decreasing_by
  · have := List.sizeOf_lt_of_mem hv
    simp only [Value.list.sizeOf_spec]
    omega
  · have := List.sizeOf_lt_of_mem he
    obtain ⟨k, v⟩ := e
    simp only [Value.map.sizeOf_spec, Prod.mk.sizeOf_spec] at this ⊢
    omega

theorem Number.isTooLong_eq_false_iff (n : Int) :
    isTooLong n = false ↔ n.natAbs < 10 ^ digitLimit := by
  rw [isTooLong, decide_eq_false_iff_not, Nat.not_lt]
  exact Nat.length_repr_le_iff (by decide)

/-- A value is too long exactly if it has no text. -/
theorem Value.isTooLong_eq_false_iff (v : Value) : v.isTooLong = false ↔ v.HasText := by
  simp only [isTooLong, List.any_eq_false, Bool.not_eq_true, mem_ints_iff,
    Number.isTooLong_eq_false_iff, HasText]

end FlowGate
