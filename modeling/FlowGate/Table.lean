/-!
# Tables

A table keeps one value for each text key, in the order in which the keys were first put. Putting a
value under a key that is there replaces the value in its place. `get?_put` says what a table holds
after a put, `keys_put` in which order; `get?_ofList` says that of several pairs of one key the last
counts.
-/

namespace FlowGate

/-- Pairs with a value put under a key: in the place of the key, at the end if it is new. -/
def putPair {α : Type} (k : String) (v : α) : List (String × α) → List (String × α)
  | [] => [(k, v)]
  | (l, w) :: es => if l = k then (k, v) :: es else (l, w) :: putPair k v es

theorem map_fst_putPair {α : Type} (k : String) (v : α) (es : List (String × α)) :
    (putPair k v es).map Prod.fst =
      if k ∈ es.map Prod.fst then es.map Prod.fst else es.map Prod.fst ++ [k] := by
  induction es with
  | nil => simp [putPair]
  | cons e es ih =>
    obtain ⟨l, w⟩ := e
    by_cases h : l = k
    · simp [putPair, h]
    · have h' : ¬ k = l := fun e => h e.symm
      by_cases hk : k ∈ es.map Prod.fst
      · simp only [putPair, if_neg h, List.map_cons, ih, List.mem_cons, hk, or_true, if_true]
      · simp only [putPair, if_neg h, List.map_cons, ih, List.mem_cons, h', hk, or_self, if_false,
          List.cons_append]

theorem lookup_pair {α : Type} (l m : String) (w : α) (es : List (String × α)) :
    ((m, w) :: es).lookup l = if l = m then some w else es.lookup l := by
  by_cases h : l = m
  · simp [h]
  · have : (l == m) = false := by simp [h]
    simp [List.lookup_cons, this, h]

theorem lookup_putPair {α : Type} (k l : String) (v : α) (es : List (String × α)) :
    (putPair k v es).lookup l = if l = k then some v else es.lookup l := by
  induction es with
  | nil => simp [putPair, lookup_pair]
  | cons e es ih =>
    obtain ⟨m, w⟩ := e
    by_cases h : m = k
    · by_cases hl : l = k <;> simp [putPair, h, hl, lookup_pair]
    · by_cases hl : l = m
      · subst hl; simp [putPair, h]
      · simp [putPair, h, hl, lookup_pair, ih]

theorem putPair_of_notMem {α : Type} {k : String} (v : α) {es : List (String × α)}
    (h : k ∉ es.map Prod.fst) : putPair k v es = es ++ [(k, v)] := by
  induction es with
  | nil => rfl
  | cons e es ih =>
    obtain ⟨l, w⟩ := e
    have hl : l ≠ k := fun e => h (e ▸ List.mem_cons_self)
    rw [putPair, if_neg hl, ih fun hk => h (List.mem_cons_of_mem _ hk), List.cons_append]

/-- Values under distinct text keys, in order. -/
structure Table (α : Type) where
  entries : List (String × α)
  nodup : (entries.map Prod.fst).Nodup

namespace Table

variable {α : Type}

def empty : Table α := ⟨[], by simp⟩

instance : Inhabited (Table α) := ⟨empty⟩

def keys (t : Table α) : List String := t.entries.map Prod.fst

def values (t : Table α) : List α := t.entries.map Prod.snd

def get? (t : Table α) (k : String) : Option α := t.entries.lookup k

def contains (t : Table α) (k : String) : Bool := t.keys.contains k

def size (t : Table α) : Nat := t.entries.length

def put (t : Table α) (k : String) (v : α) : Table α where
  entries := putPair k v t.entries
  nodup := by
    rw [map_fst_putPair]
    split
    · exact t.nodup
    · rename_i h
      exact List.nodup_append.2
        ⟨t.nodup, by simp, fun a ha b hb => by simp at hb; subst hb; exact fun e => h (e ▸ ha)⟩

/-- The table of pairs that are put one after the other. -/
def ofList (es : List (String × α)) : Table α :=
  es.foldl (fun t e => t.put e.1 e.2) empty

@[simp] theorem keys_empty : (empty : Table α).keys = [] := rfl

@[simp] theorem get?_empty (k : String) : (empty : Table α).get? k = none := rfl

theorem get?_put (t : Table α) (k l : String) (v : α) :
    (t.put k v).get? l = if l = k then some v else t.get? l :=
  lookup_putPair k l v t.entries

theorem keys_put (t : Table α) (k : String) (v : α) :
    (t.put k v).keys = if k ∈ t.keys then t.keys else t.keys ++ [k] :=
  map_fst_putPair k v t.entries

theorem entries_put {t : Table α} {k : String} (v : α) (h : k ∉ t.keys) :
    (t.put k v).entries = t.entries ++ [(k, v)] :=
  putPair_of_notMem v h

theorem contains_iff (t : Table α) (k : String) : t.contains k = true ↔ k ∈ t.keys :=
  List.contains_iff_mem

theorem get?_ofList (es : List (String × α)) (k : String) :
    (ofList es).get? k = es.reverse.lookup k := by
  suffices h : ∀ t : Table α, (es.foldl (fun t e => t.put e.1 e.2) t).get? k =
      (es.reverse.lookup k).or (t.get? k) by
    rw [ofList, h, get?_empty, Option.or_none]
  induction es with
  | nil => intro t; rfl
  | cons e es ih =>
    intro t
    rw [List.foldl_cons, ih, get?_put, List.reverse_cons, List.lookup_append, lookup_pair]
    cases es.reverse.lookup k with
    | some v => rfl
    | none => split <;> rfl

theorem get?_eq_some_iff (t : Table α) (k : String) (v : α) :
    t.get? k = some v ↔ (k, v) ∈ t.entries := by
  unfold get?
  obtain ⟨es, h⟩ := t
  dsimp only
  induction es with
  | nil => simp
  | cons e es ih =>
    obtain ⟨l, w⟩ := e
    obtain ⟨hl, hes⟩ := List.nodup_cons.1 h
    rw [lookup_pair, List.mem_cons, Prod.mk.injEq]
    by_cases hk : k = l
    · subst hk
      have hv : (k, v) ∉ es := fun hm => hl (List.mem_map.2 ⟨(k, v), hm, rfl⟩)
      simp [hv, eq_comm]
    · simp [hk, ih hes]

theorem get?_of_perm {t u : Table α} (h : t.entries.Perm u.entries) (k : String) :
    t.get? k = u.get? k := by
  ext v
  rw [get?_eq_some_iff, get?_eq_some_iff, h.mem_iff]

theorem get?_eq_none_iff (t : Table α) (k : String) : t.get? k = none ↔ k ∉ t.keys := by
  rw [Option.eq_none_iff_forall_not_mem]
  simp only [Option.mem_def, get?_eq_some_iff, keys, List.mem_map, Prod.exists, exists_and_right,
    exists_eq_right, not_exists]

end Table

end FlowGate
