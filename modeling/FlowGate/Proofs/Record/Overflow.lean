import FlowGate.Flow.Spec
import FlowGate.Proofs.Record.Conversion

/-!
# Numbers that keep a record from being read

All that readers refuse is malformed, but for one thing: an integer past the range of doubles where
a number is meant. `Fails (Stray e)` says of a result that it is such a fault, and the lemmas take
it through the ways in which readers are put together. `Spec.fails_read` names the fields of specs
that it can come from.
-/

namespace FlowGate

/-- An integer that has no nearest double. -/
def Value.IsOutsized (v : Value) : Prop := ∃ n : Int, v = .int n ∧ 2 ^ 1024 - 2 ^ 970 ≤ n.natAbs

/-- Whether a fault is a certain one, and not that something is malformed. -/
def Stray (e fault : Fault) : Prop := e = fault ∧ fault.isMalformed = false

@[simp] theorem stray_iff {e fault : Fault} :
    Stray e fault ↔ e = fault ∧ fault.isMalformed = false := Iff.rfl

section

variable {α : Type} {e : Fault}

theorem fails_located {x : Except Fault α} {record key : String} :
    Fails (Stray e) (x.mapError (.located record key)) ↔ Fails (Stray e) x := by
  rw [fails_mapError]
  cases x with
  | ok a => simp
  | error fault =>
    simp only [fails_error, stray_iff, Fault.isMalformed_located]
    refine and_congr_left fun hnot => ?_
    rw [Fault.located, hnot]
    rfl

/-! ## Values -/

theorem not_fails_readText (v : Value) : ¬ Fails (Stray e) (readText v) := by
  unfold readText
  split <;> simp [Fault.isMalformed]

theorem not_fails_readTexts (v : Value) : ¬ Fails (Stray e) (readTexts v) := by
  fun_cases readTexts v with
  | case1 items hscalar =>
    rw [fails_mapM]
    intro h
    obtain ⟨x, -, hx⟩ := h.exists_stops
    exact not_fails_readText x hx
  | case2 => simp [Fault.isMalformed]
  | case3 => simp [Fault.isMalformed]

theorem not_fails_readInteger (v : Value) : ¬ Fails (Stray e) (readInteger v) := by
  fun_cases readInteger v <;> simp [Fault.isMalformed]

theorem not_fails_readBoolean (v : Value) : ¬ Fails (Stray e) (readBoolean v) := by
  fun_cases readBoolean v <;> simp [Fault.isMalformed]

theorem isOutsized_int (n : Int) : (Value.int n).IsOutsized ↔ Double.ofInt? n = none := by
  rw [Double.ofInt?_eq_none_iff]
  constructor
  · rintro ⟨m, hm, hsize⟩
    cases hm
    exact hsize
  · intro hsize
    exact ⟨n, rfl, hsize⟩

theorem not_isOutsized {v : Value} (h : ∀ n, v ≠ .int n) : ¬ v.IsOutsized :=
  fun ⟨n, hn, _⟩ => h n hn

theorem fails_readNumber (v : Value) :
    Fails (Stray e) (readNumber v) ↔ e = .tooLarge ∧ v.IsOutsized := by
  fun_cases readNumber v with
  | case1 x => simp [not_isOutsized]
  | case2 n x h => simp [isOutsized_int, h]
  | case3 n h => simp [isOutsized_int, h, Fault.isMalformed]
  | case4 s x h => simp [not_isOutsized]
  | case5 s h => simp [not_isOutsized, Fault.isMalformed]
  | case6 v hfloat hint hstr =>
    have hnot : ¬ v.IsOutsized := not_isOutsized hint
    simp [hnot, Fault.isMalformed]

/-! ## Fields -/

variable {P : Type} {Item : P → Type} {parts : PartReader Item}

/-- Whether a value can be given for a field of a kind. -/
def FieldKind.Accepts (parts : PartReader Item) (k : FieldKind P) (v : Value) : Prop :=
  ∃ x, k.readGiven parts v = .ok x

theorem FieldKind.accepts_any (v : Value) : (FieldKind.any : FieldKind P).Accepts parts v := by
  unfold Accepts readGiven
  split
  · exact ⟨_, rfl⟩
  · exact ⟨v, rfl⟩

variable (parts) in
/-- A number escapes a field by its size; nothing else does but what escapes its records. -/
theorem FieldKind.fails_readGiven (habsent : ∀ p, ¬ Fails (Stray e) (parts.read p .null))
    (k : FieldKind P) (v : Value) :
    Fails (Stray e) (k.readGiven parts v) ↔
      match k with
      | .number => e = .tooLarge ∧ v.IsOutsized
      | .one p => Fails (Stray e) (parts.read p v)
      | .many p => ∃ items, v = .list items ∧
          ComesTo (fun w => ∃ r, parts.read p w = .ok r)
            (fun w => Fails (Stray e) (parts.read p w)) items
      | _ => False := by
  by_cases hnull : v = .null
  · subst hnull
    rw [readGiven, if_pos rfl]
    cases k <;> simp [not_isOutsized, habsent]
  rw [readGiven, if_neg hnull]
  cases k with
  | any => exact iff_of_false (not_fails_ok v) id
  | integer => exact iff_of_false (fun h => not_fails_readInteger v (fails_map.1 h)) id
  | number => exact fails_map.trans (fails_readNumber v)
  | boolean => exact iff_of_false (fun h => not_fails_readBoolean v (fails_map.1 h)) id
  | texts => exact iff_of_false (not_fails_readTexts v) id
  | one p => exact fails_map
  | many p =>
    cases v with
    | list items =>
      show Fails (Stray e) (items.mapM (parts.read p)) ↔ _
      simp [fails_mapM]
    | scalar s =>
      show Fails (Stray e) (.error (.notEntries _ _) : Except Fault (List (Item p))) ↔ _
      simp [Fault.isMalformed]
    | map es =>
      show Fails (Stray e) (.error (.notEntries _ _) : Except Fault (List (Item p))) ↔ _
      simp [Fault.isMalformed]

/-- The first field that accepts no value is the one whose fault is reported. -/
theorem Row.fails_read (record : String) (es : Entries) (fs : List (Field P)) :
    Fails (Stray e) (Row.read parts record es fs) ↔
      ComesTo (fun f => f.kind.Accepts parts (Entries.field es f.key))
        (fun f => Fails (Stray e) (f.kind.readGiven parts (Entries.field es f.key))) fs := by
  induction fs with
  | nil => exact iff_of_false (not_fails_ok _) id
  | cons f fs ih =>
    have hrest : ∀ x : f.kind.Holds Item,
        Fails (Stray e) (Row.read parts record es fs >>= fun row =>
          (.ok (x, row) : Except Fault (f.kind.Holds Item × Row Item fs))) ↔
            Fails (Stray e) (Row.read parts record es fs) := by
      intro x
      rw [fails_bind]
      exact or_iff_left fun ⟨row, _, h⟩ => not_fails_ok _ h
    show Fails (Stray e) (_ >>= fun x : f.kind.Holds Item =>
      Row.read parts record es fs >>= fun row =>
        (.ok (x, row) : Except Fault (f.kind.Holds Item × Row Item fs))) ↔ _
    rw [fails_bind, fails_located, ComesTo, ← ih]
    simp only [hrest, mapError_eq_ok, exists_and_right]
    rfl

theorem Record.fails_read (record : String) (fs : List (Field P)) (v : Value) :
    Fails (Stray e) (Record.read parts record fs v) ↔
      ∃ es, v = .map es ∧
        ComesTo (fun f => f.kind.Accepts parts (Entries.field es f.key))
          (fun f => Fails (Stray e) (f.kind.readGiven parts (Entries.field es f.key))) fs := by
  fun_cases Record.read parts record fs v with
  | case1 =>
    rw [Record.ofEntries, fails_map, Row.fails_read]
    refine iff_of_false (fun h => ?_) nofun
    obtain ⟨f, -, hf⟩ := h.exists_stops
    exact not_fails_ok _ hf
  | case2 es => simp [Record.ofEntries, fails_map, Row.fails_read]
  | case3 v hnull hmap =>
    simp only [fails_error, stray_iff, Fault.isMalformed, Bool.true_eq_false, and_false, false_iff]
    rintro ⟨es, hes, -⟩
    exact hmap es hes

end

/-! ## Specs -/

/-- Whether reading a routing comes to a threshold past the range of doubles. -/
def Routing.Overflows (es : Entries) : Prop :=
  FieldKind.boolean.Accepts noParts (Entries.field es "enabled") ∧
    (Entries.field es "confidence_threshold").IsOutsized

def Spec.Overflows (es : Entries) : NodeKind → Prop
  | .llmCall => (Entries.field es "temperature").IsOutsized
  | .agentLoop =>
    FieldKind.integer.Accepts components (Entries.field es "max_iterations") ∧
      (Entries.field es "temperature").IsOutsized
  | .smartRouter =>
    (FieldKind.many .routerRule).Accepts components (Entries.field es "rules") ∧
      ∃ routing, Entries.field es "llm_routing" = .map routing ∧ Routing.Overflows routing
  | _ => False

variable {e : Fault}

theorem Component.fails_read (p : Part) (v : Value) :
    Fails (Stray e) (Component.read p v) ↔
      e = .tooLarge ∧ p = .llmRouting ∧ ∃ es, v = .map es ∧ Routing.Overflows es := by
  have hfield := FieldKind.fails_readGiven noParts (e := e) nofun
  unfold Component.read
  rw [Record.fails_read]
  cases p <;> simp [Part.fields, ComesTo, hfield, FieldKind.accepts_any, Field.any, Field.boolean,
    Field.number, Field.integer, Field.plain, Routing.Overflows, and_left_comm (b := e = .tooLarge)]

theorem Spec.fails_read (k : NodeKind) (v : Value) :
    Fails (Stray e) (Spec.read k v) ↔ e = .tooLarge ∧ ∃ es, v = .map es ∧ Spec.Overflows es k := by
  have hpart : ∀ p w, Fails (Stray e) (components.read p w) ↔
      e = .tooLarge ∧ p = .llmRouting ∧ ∃ es, w = .map es ∧ Routing.Overflows es :=
    Component.fails_read
  have hfield := FieldKind.fails_readGiven components (e := e) fun p => by simp [hpart]
  unfold Spec.read
  rw [Record.fails_read]
  cases k <;> simp [NodeKind.fields, ComesTo, hfield, FieldKind.accepts_any, Field.any,
    Field.boolean, Field.number, Field.integer, Field.texts, Field.one, Field.many, Field.plain,
    Spec.Overflows, hpart, and_left_comm (b := e = .tooLarge)]

end FlowGate
