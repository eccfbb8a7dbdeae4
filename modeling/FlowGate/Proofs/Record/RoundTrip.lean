import FlowGate.Flow.Spec
import FlowGate.Proofs.Outcome

/-!
# Records are read as they were written

`Record.read_write` says that every record, of any schema with distinct keys, is what is read from
the mapping that stores it; a field that was left out is read as absent. The schemas of the program
have distinct keys, which gives `Component.read_write` and `Spec.read_write`. What no field uses
takes part in this unread: `Spec.reread_of_read` follows it from the mapping that is read into the
record and into the mapping that is written.
-/

namespace FlowGate

@[simp] theorem readText_str (s : String) : readText (.str s) = .ok s := rfl

theorem readTexts_strs (ss : List String) : readTexts (.list (ss.map Value.str)) = .ok ss := by
  have hscalar : (ss.map Value.str).all Value.isScalar = true := by simp [Value.isScalar]
  rw [readTexts, if_pos hscalar]
  exact mapM_map_eq_ok fun s _ => readText_str s

section

variable {P : Type} {Item : P → Type} {part : (p : P) → Item p → Value}

/-- The entry of a field, none for a field that holds null or nothing. -/
def Field.entries (part : (p : P) → Item p → Value) (f : Field P) (x : f.kind.Holds Item) :
    Entries :=
  if f.kind.write part x = .null then [] else [(.str f.key, f.kind.write part x)]

theorem Field.field_entries (f : Field P) (x : f.kind.Holds Item) (after : Entries)
    (hafter : Entries.get? after f.key = none) :
    Entries.field (f.entries part x ++ after) f.key = f.kind.write part x := by
  unfold Entries.field entries
  split
  · next h => rw [List.nil_append, hafter, h]; rfl
  · rw [List.singleton_append, Entries.get?_cons, if_pos rfl]; rfl

theorem Field.get?_entries (f : Field P) (x : f.kind.Holds Item) {key : String}
    (hkey : key ≠ f.key) : Entries.get? (f.entries part x) key = none := by
  unfold entries
  split
  · rfl
  · rw [Entries.get?_cons, if_neg fun h => hkey (Scalar.str.inj h).symm]
    rfl

theorem Row.write_cons (f : Field P) {fs : List (Field P)} (x : f.kind.Holds Item)
    (row : Row Item fs) :
    Row.write part (f :: fs) (x, row) = f.entries part x ++ Row.write part fs row := by
  show (if f.kind.write part x = .null then _ else _) = _
  unfold Field.entries
  split <;> rfl

theorem Row.get?_write {fs : List (Field P)} (row : Row Item fs) {key : String}
    (hkey : key ∉ fs.map Field.key) : Entries.get? (Row.write part fs row) key = none := by
  induction fs with
  | nil => rfl
  | cons f fs ih =>
    obtain ⟨x, row⟩ := row
    obtain ⟨hf, hfs⟩ := not_or.1 fun h => hkey (List.mem_cons.2 h)
    rw [Row.write_cons, Entries.get?_append, f.get?_entries x hf, ih row hfs]
    rfl

variable {parts : PartReader Item}

private theorem readAny_write (v : Value) :
    (if v = .null then Except.ok .null else Except.ok v : Except Fault Value) = .ok v := by
  split
  · next h => rw [h]
  · rfl

private theorem readOne_write {p : P} (hread : ∀ r, parts.read p (part p r) = .ok r)
    (hnull : ∀ r, part p r ≠ .null) (r : Item p) :
    (if part p r = .null then Except.ok none else (parts.read p (part p r)).map some :
      Except Fault (Option (Item p))) = .ok (some r) := by
  rw [if_neg (hnull r), hread]
  rfl

theorem FieldKind.readGiven_write (hread : ∀ p r, parts.read p (part p r) = .ok r)
    (hnull : ∀ p r, part p r ≠ .null) (k : FieldKind P) (x : k.Holds Item) :
    k.readGiven parts (k.write part x) = .ok x := by
  cases k with
  | any => exact readAny_write x
  | integer => cases x <;> rfl
  | number => cases x <;> rfl
  | boolean => cases x <;> rfl
  | texts => exact readTexts_strs x
  | one p =>
    cases x with
    | none => rfl
    | some r => exact readOne_write (hread p) (hnull p) r
  | many p =>
    show (List.map (part p) x).mapM (parts.read p) = .ok x
    exact mapM_map_eq_ok fun r _ => hread p r

theorem Row.read_write (hread : ∀ p r, parts.read p (part p r) = .ok r)
    (hnull : ∀ p r, part p r ≠ .null) (record : String) {fs : List (Field P)}
    (hkeys : (fs.map Field.key).Nodup) (row : Row Item fs) {before after : Entries}
    (hbefore : ∀ key ∈ fs.map Field.key, Entries.get? before key = none)
    (hafter : ∀ key ∈ fs.map Field.key, Entries.get? after key = none) :
    Row.read parts record (before ++ (Row.write part fs row ++ after)) fs = .ok row := by
  induction fs generalizing before with
  | nil => rfl
  | cons f fs ih =>
    obtain ⟨x, row⟩ := row
    obtain ⟨hf, hfs⟩ := List.nodup_cons.1 hkeys
    have hrest : Entries.get? (Row.write part fs row ++ after) f.key = none := by
      rw [Entries.get?_append, Row.get?_write row hf, hafter f.key List.mem_cons_self]
      rfl
    have hfield : Entries.field (before ++ (Row.write part (f :: fs) (x, row) ++ after)) f.key =
        f.kind.write part x := by
      rw [Row.write_cons, List.append_assoc, ← f.field_entries x _ hrest]
      unfold Entries.field
      rw [Entries.get?_append, hbefore f.key List.mem_cons_self]
      rfl
    have hbefore' : ∀ key ∈ fs.map Field.key,
        Entries.get? (before ++ f.entries part x) key = none := by
      intro key hkey
      have hne : key ≠ f.key := fun h => hf (h ▸ hkey)
      rw [Entries.get?_append, hbefore key (List.mem_cons_of_mem _ hkey), f.get?_entries x hne]
      rfl
    have hrow := ih hfs row hbefore' fun key hkey => hafter key (List.mem_cons_of_mem _ hkey)
    rw [List.append_assoc, ← List.append_assoc (f.entries part x), ← Row.write_cons] at hrow
    unfold Row.read
    rw [hfield, FieldKind.readGiven_write hread hnull, hrow]
    rfl

theorem hasKey_iff {fs : List (Field P)} {key : String} :
    hasKey fs (.str key) = true ↔ key ∈ fs.map Field.key := by
  simp only [hasKey, List.any_eq_true, beq_iff_eq, Scalar.str.injEq, List.mem_map,
    eq_comm (a := key)]

theorem Row.hasKey_write {fs : List (Field P)} (row : Row Item fs) :
    ∀ e ∈ Row.write part fs row, hasKey fs e.1 = true := by
  induction fs with
  | nil => intro e he; cases he
  | cons f fs ih =>
    obtain ⟨x, row⟩ := row
    intro e he
    rw [Row.write_cons, List.mem_append] at he
    unfold hasKey
    rw [List.any_cons, Bool.or_eq_true]
    obtain he | he := he
    · left
      unfold Field.entries at he
      split at he
      · cases he
      · obtain rfl := List.mem_singleton.1 he
        exact beq_self_eq_true _
    · exact .inr (ih row e he)

/-- The entries of a mapping that belong to no field of a schema. -/
def Value.beside (fs : List (Field P)) : Value → Entries
  | .map es => es.filter fun e => !hasKey fs e.1
  | _ => []

theorem Record.extra_of_read {record : String} {fs : List (Field P)} {v : Value}
    {r : Record Item fs} (h : Record.read parts record fs v = .ok r) : r.extra = v.beside fs := by
  have hentries : ∀ es, Record.ofEntries parts record fs es = .ok r →
      r.extra = es.filter fun e => !hasKey fs e.1 := by
    intro es h
    obtain ⟨row, -, rfl⟩ := map_eq_ok.1 h
    rfl
  unfold Record.read at h
  split at h
  · exact hentries [] h
  · next es => exact hentries es h
  · cases h

theorem Record.get?_extra {fs : List (Field P)} (r : Record Item fs) {key : String}
    (hkey : key ∈ fs.map Field.key) : Entries.get? r.extra key = none := by
  unfold Entries.get?
  rw [Option.map_eq_none_iff, List.find?_eq_none]
  intro e he heq
  have hfresh := r.extra_fresh e he
  rw [beq_iff_eq.1 heq, hasKey_iff.2 hkey] at hfresh
  cases hfresh

theorem Record.beside_write {fs : List (Field P)} (r : Record Item fs) :
    (r.write part).beside fs = r.extra := by
  show (Row.write part fs r.row ++ r.extra).filter (fun e => !hasKey fs e.1) = r.extra
  rw [List.filter_append, List.filter_eq_nil_iff.2, List.filter_eq_self.2, List.nil_append]
  · intro e he
    rw [r.extra_fresh e he]
    rfl
  · intro e he
    rw [r.row.hasKey_write e he]
    decide

/-- A record is read from the mapping that stores it. -/
theorem Record.read_write (hread : ∀ p r, parts.read p (part p r) = .ok r)
    (hnull : ∀ p r, part p r ≠ .null) (record : String) {fs : List (Field P)}
    (hkeys : (fs.map Field.key).Nodup) (r : Record Item fs) :
    Record.read parts record fs (r.write part) = .ok r := by
  have hextra : ∀ key ∈ fs.map Field.key, Entries.get? r.extra key = none :=
    fun _ hkey => r.get?_extra hkey
  have hrow : Row.read parts record ([] ++ (Row.write part fs r.row ++ r.extra)) fs = .ok r.row :=
    Row.read_write hread hnull record hkeys r.row (fun _ _ => rfl) hextra
  show (Row.read parts record (Row.write part fs r.row ++ r.extra) fs).map _ = _
  rw [List.nil_append] at hrow
  rw [hrow]
  exact congrArg Except.ok (Record.ext_parts rfl r.beside_write)

end

theorem Part.nodup_keys (p : Part) : (p.fields.map Field.key).Nodup := by cases p <;> decide

theorem NodeKind.nodup_keys (k : NodeKind) : (k.fields.map Field.key).Nodup := by
  cases k <;> decide

theorem Component.read_write (p : Part) (r : Component p) :
    Component.read p (Component.write p r) = .ok r :=
  Record.read_write (fun e => nomatch e) (fun e => nomatch e) p.name p.nodup_keys r

theorem Component.write_ne_null (p : Part) (r : Component p) : Component.write p r ≠ .null := nofun

theorem Spec.read_write {k : NodeKind} (s : Spec k) : Spec.read k s.write = .ok s := by
  have hread : ∀ p r, components.read p (Component.write p r) = .ok r := Component.read_write
  exact Record.read_write hread Component.write_ne_null k.specName k.nodup_keys s

namespace Spec

/-- What is written for a record that was read, be it one inside a spec or a spec, is read as the
same record, with all its parts. What no field uses is the same in both mappings. -/
theorem reread_of_read :
    (∀ (p : Part) (v : Value) (r : Component p), Component.read p v = .ok r →
      Component.read p (Component.write p r) = .ok r ∧
        r.extra = v.beside p.fields ∧ (Component.write p r).beside p.fields = v.beside p.fields) ∧
    ∀ (k : NodeKind) (v : Value) (s : Spec k), Spec.read k v = .ok s →
      Spec.read k s.write = .ok s ∧
        s.extra = v.beside k.fields ∧ s.write.beside k.fields = v.beside k.fields := by
  constructor
  · intro p v r h
    have hagain := Component.read_write p r
    have hextra := Record.extra_of_read h
    exact ⟨hagain, hextra, (Record.extra_of_read hagain).symm.trans hextra⟩
  · intro k v s h
    have hagain := s.read_write
    have hextra := Record.extra_of_read h
    exact ⟨hagain, hextra, (Record.extra_of_read hagain).symm.trans hextra⟩

/-- A router with numbers and a boolean in words, a rule that is null, and entries of its own. -/
def worded : Value :=
  .map [(.str "extra", .map [(.str "rules", .null)]),
    (.str "rules", .list [.map [(.str "priority", .str " 7 "), (.str "weight", .int 3)], .null]),
    (.str "llm_routing", .map [(.str "enabled", .str "Yes"), (.str "model", .null),
      (.str "confidence_threshold", .str "0.5")]),
    (.str "fallback_chain", .list [.int 1, .bool true, .null]), (.int 1, .null)]

/-- What is written for it: plain numbers, booleans and texts. -/
def reworded : Value :=
  .map [
    (.str "rules", .list [.map [(.str "priority", .int 7), (.str "weight", .int 3)], .map []]),
    (.str "llm_routing", .map [(.str "enabled", .bool true),
      (.str "confidence_threshold", .float (.ofRatio false 1 2))]),
    (.str "fallback_chain", .list [.str "1", .str "True", .str "None"]),
    (.str "extra", .map [(.str "rules", .null)]), (.int 1, .null)]

/-- The router is read from both mappings. -/
theorem reread_worded : ∃ s : Spec .smartRouter, Spec.read .smartRouter worded = .ok s ∧
    s.write = reworded ∧ Spec.read .smartRouter reworded = .ok s ∧
    s.extra = [(.str "extra", .map [(.str "rules", .null)]), (.int 1, .null)] := by
  have hwrite : (Spec.read .smartRouter worded).toOption.map Spec.write = some reworded := by
    decide +kernel
  obtain ⟨s, hs, hwrite⟩ := Option.map_eq_some_iff.1 hwrite
  have hread := toOption_eq_some.1 hs
  obtain ⟨hagain, hextra, -⟩ := reread_of_read.2 .smartRouter worded s hread
  exact ⟨s, hread, hwrite, hwrite ▸ hagain, hextra⟩

end Spec

end FlowGate
