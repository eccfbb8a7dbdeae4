import FlowGate.Proofs.Record.Conversion
import FlowGate.Proofs.Record.RoundTrip
import Mathlib.Data.List.Nodup

/-!
# What becomes of a mapping that is read and written again

Reading a mapping into a record and writing the record brings the mapping into canonical form.
`Entries.Become` is the law for this, key by key: a field that is given holds its canonical value,
one that is not is left out unless it holds a list, and what no field uses stands as it was. Records
inside a spec follow the same law. `Spec.becomes_of_read` says that all records do, and that a
mapping in canonical form becomes itself, but for the order of entries (`Value.Same`).
-/

namespace FlowGate

open List (Forall₂)

/-! ## Values in another order -/

/-- Whether two values differ in nothing but the order of the entries of mappings. -/
inductive Value.Same : Value → Value → Prop
  | refl (v : Value) : Same v v
  | list {vs ws : List Value} : Forall₂ Same vs ws → Same (.list vs) (.list ws)
  | map {es fs gs : Entries} : es.Perm fs → fs.map Prod.fst = gs.map Prod.fst →
      Forall₂ Same (fs.map Prod.snd) (gs.map Prod.snd) → Same (.map es) (.map gs)

/-- Mappings with the same keys and the same values under them are the same. -/
theorem Value.Same.of_entries {es ds : Entries} (hes : (es.map Prod.fst).Nodup)
    (hds : (ds.map Prod.fst).Nodup) (hkeys : ∀ d ∈ ds, d.1 ∈ es.map Prod.fst)
    (hvalues : ∀ e ∈ es, ∃ d ∈ ds, d.1 = e.1 ∧ e.2.Same d.2) :
    (Value.map es).Same (.map ds) := by
  have : Nonempty (Scalar × Value) := ⟨.null, .null⟩
  simp only [List.mem_map] at hkeys
  -- the entries of the first mapping in the order of the second
  choose! g hmem hfst using hkeys
  have hkeys' : (ds.map g).map Prod.fst = ds.map Prod.fst := by
    rw [List.map_map]
    exact List.map_congr_left hfst
  have hperm : es.Perm (ds.map g) := by
    refine (List.perm_ext_iff_of_nodup (.of_map _ hes) (.of_map _ (hkeys' ▸ hds))).2 fun e => ?_
    rw [List.mem_map]
    constructor
    · intro he
      obtain ⟨d, hd, hkey, -⟩ := hvalues e he
      exact ⟨d, hd, List.inj_on_of_nodup_map hes (hmem d hd) he ((hfst d hd).trans hkey)⟩
    · rintro ⟨d, hd, rfl⟩
      exact hmem d hd
  refine .map hperm hkeys' ?_
  rw [List.map_map, List.forall₂_map_left_iff, List.forall₂_map_right_iff, List.forall₂_same]
  intro d hd
  obtain ⟨d', hd', hkey, hsame⟩ := hvalues (g d) (hmem d hd)
  obtain rfl := List.inj_on_of_nodup_map hds hd' hd (hkey.trans (hfst d hd))
  exact hsame

/-! ## The law -/

section

variable {P : Type}

/-- What is written for a field that was not given: nothing, unless it holds a list. -/
def FieldKind.unfilled? : FieldKind P → Option Value
  | .texts | .many _ => some (.list [])
  | _ => none

/-- What a value that is given for a field of a kind becomes, if `Part` says so of records. -/
inductive FieldKind.Becomes (Part : P → Value → Value → Prop) : FieldKind P → Value → Value → Prop
  | any (v : Value) : Becomes Part .any v v
  | integer {v : Value} {n : Int} : v.MeansInteger n → Becomes Part .integer v (.int n)
  | number {v : Value} {x : Double} : v.MeansNumber x → Becomes Part .number v (.float x)
  | boolean {v : Value} {b : Bool} : v.MeansBoolean b → Becomes Part .boolean v (.bool b)
  | texts {v : Value} {ss : List String} : v.MeansTexts ss →
      Becomes Part .texts v (.list (ss.map .str))
  | one {p : P} {v w : Value} : Part p v w → Becomes Part (.one p) v w
  | many {p : P} {vs ws : List Value} : Forall₂ (Part p) vs ws →
      Becomes Part (.many p) (.list vs) (.list ws)

/-- What the entries of a mapping with some fields become. -/
structure Entries.Become (Part : P → Value → Value → Prop) (fs : List (Field P))
    (es ds : Entries) : Prop where
  given : ∀ f ∈ fs, ∀ v, get? es f.key = some v → v ≠ .null →
    ∃ w, get? ds f.key = some w ∧ f.kind.Becomes Part v w
  not_given : ∀ f ∈ fs, field es f.key = .null → get? ds f.key = f.kind.unfilled?
  /-- The keys of fields come once each and in the order of the fields. -/
  keys : ((ds.filter fun e => hasKey fs e.1).map Prod.fst).Sublist (fs.map fun f => .str f.key)
  /-- What no field uses stands as it was, null or not. -/
  beside : (Value.map ds).beside fs = (Value.map es).beside fs

/-- What a value that is read into a record becomes; null is the empty mapping. -/
inductive Value.Becomes (Part : P → Value → Value → Prop) (fs : List (Field P)) :
    Value → Value → Prop
  | null {ds : Entries} : Entries.Become Part fs [] ds → Becomes Part fs .null (.map ds)
  | map {es ds : Entries} : Entries.Become Part fs es ds → Becomes Part fs (.map es) (.map ds)

end

section

variable {P : Type} {Item : P → Type} {part : (p : P) → Item p → Value} {parts : PartReader Item}
  {Part : P → Value → Value → Prop} {fs : List (Field P)}

/-- What a field holds is written as what its value becomes. -/
theorem FieldKind.becomes_write (hpart : ∀ p v r, parts.read p v = .ok r → Part p v (part p r))
    {k : FieldKind P} {v : Value} {x : k.Holds Item} (h : k.read parts v = .ok x) :
    k.Becomes Part v (k.write part x) := by
  cases k with
  | any =>
    cases h
    exact .any v
  | integer =>
    obtain ⟨n, hn, rfl⟩ := map_eq_ok.1 h
    exact .integer (readInteger_eq_ok.1 hn)
  | number =>
    obtain ⟨y, hy, rfl⟩ := map_eq_ok.1 h
    exact .number (readNumber_eq_ok.1 hy)
  | boolean =>
    obtain ⟨b, hb, rfl⟩ := map_eq_ok.1 h
    exact .boolean (readBoolean_eq_ok.1 hb)
  | texts => exact .texts (readTexts_eq_ok.1 h)
  | one p =>
    obtain ⟨r, hr, rfl⟩ := map_eq_ok.1 h
    exact .one (hpart p v r hr)
  | many p =>
    cases v with
    | list vs =>
      have hall := mapM_eq_ok.1 h
      exact .many (List.forall₂_map_right_iff.2 (hall.imp fun w r hr => hpart p w r hr))
    | scalar s => cases h
    | map es => cases h

theorem FieldKind.write_absent (k : FieldKind P) :
    k.write part (k.absent : k.Holds Item) = k.unfilled?.getD .null := by cases k <;> rfl

theorem FieldKind.unfilled?_ne_null {k : FieldKind P} : k.unfilled? ≠ some .null := by
  cases k <;> nofun

theorem FieldKind.Becomes.ne_null (hnull : ∀ p v w, Part p v w → w ≠ .null) {k : FieldKind P}
    {v w : Value} (h : k.Becomes Part v w) (hv : v ≠ .null) : w ≠ .null := by
  cases h with
  | any => exact hv
  | one hpart => exact hnull _ _ _ hpart
  | _ => nofun

variable (part) in
theorem Row.get?_write_of_read {record : String} {es : Entries} {fs : List (Field P)}
    (hkeys : (fs.map Field.key).Nodup) {row : Row Item fs}
    (h : Row.read parts record es fs = .ok row) {f : Field P} (hf : f ∈ fs) :
    ∃ x, f.kind.readGiven parts (Entries.field es f.key) = .ok x ∧
      Entries.get? (Row.write part fs row) f.key =
        if f.kind.write part x = .null then none else some (f.kind.write part x) := by
  induction fs with
  | nil => cases hf
  | cons g fs ih =>
    obtain ⟨hg, hfs⟩ := List.nodup_cons.1 hkeys
    obtain ⟨x, hx, h⟩ := bind_eq_ok.1 h
    obtain ⟨row', hrow, h⟩ := bind_eq_ok.1 h
    cases h
    rw [Row.write_cons, Entries.get?_append]
    obtain rfl | hf := List.mem_cons.1 hf
    · refine ⟨x, mapError_eq_ok.1 hx, ?_⟩
      rw [Row.get?_write row' hg, Option.or_none]
      unfold Field.entries
      split
      · rfl
      · rw [Entries.get?_cons, if_pos rfl]
    · have hne : f.key ≠ g.key := fun heq => hg (heq ▸ List.mem_map_of_mem hf)
      rw [g.get?_entries x hne, Option.none_or]
      exact ih hfs hrow hf

theorem Row.keys_write {fs : List (Field P)} (row : Row Item fs) :
    ((Row.write part fs row).map Prod.fst).Sublist (fs.map fun f => .str f.key) := by
  induction fs with
  | nil => exact .slnil
  | cons f fs ih =>
    obtain ⟨x, row⟩ := row
    rw [Row.write_cons, List.map_append]
    unfold Field.entries
    split
    · exact (ih row).cons _
    · exact (ih row).cons_cons _

theorem Record.get?_write (r : Record Item fs) {f : Field P} (hf : f ∈ fs) :
    Entries.get? (Row.write part fs r.row ++ r.extra) f.key =
      Entries.get? (Row.write part fs r.row) f.key := by
  rw [Entries.get?_append, r.get?_extra (List.mem_map_of_mem hf), Option.or_none]

theorem Record.filter_hasKey_write (r : Record Item fs) :
    (Row.write part fs r.row ++ r.extra).filter (fun e => hasKey fs e.1) =
      Row.write part fs r.row := by
  rw [List.filter_append, List.filter_eq_self.2 r.row.hasKey_write, List.filter_eq_nil_iff.2,
    List.append_nil]
  intro e he
  rw [r.extra_fresh e he]
  decide

theorem Record.become_of_entries (hpart : ∀ p v r, parts.read p v = .ok r → Part p v (part p r))
    (hnull : ∀ p v w, Part p v w → w ≠ .null) {record : String} (hkeys : (fs.map Field.key).Nodup)
    {es : Entries} {r : Record Item fs} (h : Record.ofEntries parts record fs es = .ok r) :
    Entries.Become Part fs es (Row.write part fs r.row ++ r.extra) := by
  obtain ⟨row, hrow, rfl⟩ := map_eq_ok.1 h
  refine ⟨fun f hf v hv hgiven => ?_, fun f hf hnone => ?_, ?_, ?_⟩
  · obtain ⟨x, hx, hwrite⟩ := Row.get?_write_of_read part hkeys hrow hf
    have hfield : Entries.field es f.key = v := congrArg (·.getD .null) hv
    rw [hfield, FieldKind.readGiven, if_neg hgiven] at hx
    have hbecomes := FieldKind.becomes_write hpart hx
    rw [Record.get?_write _ hf, hwrite, if_neg (hbecomes.ne_null hnull hgiven)]
    exact ⟨_, rfl, hbecomes⟩
  · obtain ⟨x, hx, hwrite⟩ := Row.get?_write_of_read part hkeys hrow hf
    rw [hnone, FieldKind.readGiven, if_pos rfl] at hx
    cases hx
    rw [Record.get?_write _ hf, hwrite, FieldKind.write_absent]
    cases hunfilled : f.kind.unfilled? with
    | none => rfl
    | some w =>
      have hw : w ≠ .null := fun hw => FieldKind.unfilled?_ne_null (hw ▸ hunfilled)
      exact if_neg hw
  · rw [Record.filter_hasKey_write]
    exact Row.keys_write row
  · exact Record.beside_write _

/-- What is written for a record that was read is what becomes of the value. -/
theorem Record.becomes_write (hpart : ∀ p v r, parts.read p v = .ok r → Part p v (part p r))
    (hnull : ∀ p v w, Part p v w → w ≠ .null) {record : String} (hkeys : (fs.map Field.key).Nodup)
    {v : Value} {r : Record Item fs} (h : Record.read parts record fs v = .ok r) :
    v.Becomes Part fs (r.write part) := by
  unfold Record.read at h
  split at h
  · exact .null (Record.become_of_entries hpart hnull hkeys h)
  · exact .map (Record.become_of_entries hpart hnull hkeys h)
  · cases h

end

/-! ## Mappings in canonical form -/

section

variable {P : Type}

/-- Whether a value that is given for a field is as it is written, if `Part` says so of records. -/
inductive FieldKind.Canonical (Part : P → Value → Prop) : FieldKind P → Value → Prop
  | any (v : Value) : Canonical Part .any v
  | integer (n : Int) : Canonical Part .integer (.int n)
  | number (x : Double) : Canonical Part .number (.float x)
  | boolean (b : Bool) : Canonical Part .boolean (.bool b)
  | texts (ss : List String) : Canonical Part .texts (.list (ss.map .str))
  | one {p : P} {v : Value} : Part p v → Canonical Part (.one p) v
  | many {p : P} {vs : List Value} : (∀ v ∈ vs, Part p v) → Canonical Part (.many p) (.list vs)

/-- Whether the entries of a mapping with some fields are in canonical form. -/
structure Entries.Canonical (Part : P → Value → Prop) (fs : List (Field P)) (es : Entries) :
    Prop where
  distinct : (es.map Prod.fst).Nodup
  /-- No field is null, and what is given is as it is written. -/
  given : ∀ f ∈ fs, ∀ v, get? es f.key = some v → v ≠ .null ∧ f.kind.Canonical Part v
  /-- All lists are there. -/
  lists : ∀ f ∈ fs, get? es f.key = none → f.kind.unfilled? = none

/-- Whether a value is a mapping in canonical form. -/
def Value.Canonical (Part : P → Value → Prop) (fs : List (Field P)) (v : Value) : Prop :=
  ∃ es, v = .map es ∧ Entries.Canonical Part fs es

variable {Part : P → Value → Value → Prop} {CanonicalPart : P → Value → Prop}
  {fs : List (Field P)}

theorem FieldKind.Canonical.same_of_becomes
    (hpart : ∀ p v w, CanonicalPart p v → Part p v w → v.Same w) {k : FieldKind P} {v w : Value}
    (h : k.Canonical CanonicalPart v) (hw : k.Becomes Part v w) : v.Same w := by
  cases h with
  | any => cases hw; exact .refl v
  | integer n => cases hw with | integer hn => cases hn; exact .refl _
  | number x => cases hw with | number hx => cases hx; exact .refl _
  | boolean b => cases hw with | boolean hb => cases hb; exact .refl _
  | texts ss =>
    cases hw with
    | texts hss =>
      cases hss
      rw [List.map_map, List.map_map]
      exact .refl _
  | one hv => cases hw with | one hw => exact hpart _ _ _ hv hw
  | many hvs =>
    cases hw with
    | many hws =>
      have hall := (List.forall₂_and_left _ _).2 ⟨hvs, hws⟩
      exact .list (hall.imp fun v w ⟨hv, hw⟩ => hpart _ v w hv hw)

theorem Entries.get?_eq_some_iff {es : Entries} (hes : (es.map Prod.fst).Nodup) {key : String}
    {v : Value} : get? es key = some v ↔ (.str key, v) ∈ es := by
  have hfst : ∀ {e}, es.find? (fun e => e.1 == .str key) = some e → e.1 = .str key :=
    fun h => by simpa using List.find?_some h
  unfold get?
  rw [Option.map_eq_some_iff]
  constructor
  · rintro ⟨e, he, rfl⟩
    rw [← hfst he]
    exact List.mem_of_find?_eq_some he
  · intro hmem
    cases hfound : es.find? fun e => e.1 == .str key with
    | none => exact absurd (beq_self_eq_true _) (List.find?_eq_none.1 hfound _ hmem)
    | some e =>
      have hmem' := List.mem_of_find?_eq_some hfound
      exact ⟨e, rfl, congrArg Prod.snd (List.inj_on_of_nodup_map hes hmem' hmem (hfst hfound))⟩

theorem hasKey_eq_true_iff {k : Scalar} : hasKey fs k = true ↔ ∃ f ∈ fs, k = .str f.key := by
  simp only [hasKey, List.any_eq_true, beq_iff_eq]

theorem Entries.Become.mem_beside {es ds : Entries} (h : Entries.Become Part fs es ds)
    {e : Scalar × Value} (hkey : hasKey fs e.1 = false) : e ∈ ds ↔ e ∈ es := by
  have hbeside : (ds.filter fun e => !hasKey fs e.1) = es.filter fun e => !hasKey fs e.1 := h.beside
  have hmem : e ∈ (ds.filter fun e => !hasKey fs e.1) ↔
      e ∈ (es.filter fun e => !hasKey fs e.1) := by rw [hbeside]
  simpa only [List.mem_filter, hkey, Bool.not_false, and_true] using hmem

theorem Entries.Become.nodup_keys (hkeys : (fs.map Field.key).Nodup) {es ds : Entries}
    (h : Entries.Become Part fs es ds) (hes : (es.map Prod.fst).Nodup) :
    (ds.map Prod.fst).Nodup := by
  have hperm := List.filter_append_perm (fun e : Scalar × Value => hasKey fs e.1) ds
  have hbeside : (ds.filter fun e => !hasKey fs e.1) = es.filter fun e => !hasKey fs e.1 := h.beside
  have hfields : (fs.map fun f => Scalar.str f.key).Nodup :=
    List.Nodup.of_map Scalar.text (by rw [List.map_map]; exact hkeys)
  rw [← (hperm.map Prod.fst).nodup_iff, List.map_append, List.nodup_append']
  refine ⟨hfields.sublist h.keys, ?_, ?_⟩
  · rw [hbeside]
    exact hes.sublist (List.filter_sublist.map Prod.fst)
  · intro k hk hk'
    obtain ⟨d, hd, rfl⟩ := List.mem_map.1 hk
    obtain ⟨d', hd', hsame⟩ := List.mem_map.1 hk'
    have hfield := (List.mem_filter.1 hd).2
    have hbare := (List.mem_filter.1 hd').2
    rw [hsame, hfield] at hbare
    cases hbare

theorem Entries.Become.same (hpart : ∀ p v w, CanonicalPart p v → Part p v w → v.Same w)
    (hkeys : (fs.map Field.key).Nodup) {es ds : Entries}
    (hes : Entries.Canonical CanonicalPart fs es)
    (h : Entries.Become Part fs es ds) : (Value.map es).Same (.map ds) := by
  have hds := h.nodup_keys hkeys hes.distinct
  refine .of_entries hes.distinct hds (fun d hd => ?_) (fun e he => ?_)
  · cases hkey : hasKey fs d.1 with
    | false => exact List.mem_map_of_mem ((h.mem_beside hkey).1 hd)
    | true =>
      obtain ⟨f, hf, hfield⟩ := hasKey_eq_true_iff.1 hkey
      have hwritten : get? ds f.key = some d.2 := (get?_eq_some_iff hds).2 (hfield ▸ hd)
      cases hgiven : get? es f.key with
      | some v =>
        rw [hfield]
        exact List.mem_map_of_mem ((get?_eq_some_iff hes.distinct).1 hgiven)
      | none =>
        -- only a list is written that was not given, and no list is missing
        have hnone : field es f.key = .null := congrArg (·.getD .null) hgiven
        rw [h.not_given f hf hnone, hes.lists f hf hgiven] at hwritten
        cases hwritten
  · cases hkey : hasKey fs e.1 with
    | false => exact ⟨e, (h.mem_beside hkey).2 he, rfl, .refl _⟩
    | true =>
      obtain ⟨f, hf, hfield⟩ := hasKey_eq_true_iff.1 hkey
      have hgiven : get? es f.key = some e.2 := (get?_eq_some_iff hes.distinct).2 (hfield ▸ he)
      obtain ⟨hv, hcanonical⟩ := hes.given f hf e.2 hgiven
      obtain ⟨w, hw, hbecomes⟩ := h.given f hf e.2 hgiven hv
      exact ⟨(.str f.key, w), (get?_eq_some_iff hds).1 hw, hfield.symm,
        hcanonical.same_of_becomes hpart hbecomes⟩

theorem Value.Becomes.same (hpart : ∀ p v w, CanonicalPart p v → Part p v w → v.Same w)
    (hkeys : (fs.map Field.key).Nodup) {v w : Value} (hv : v.Canonical CanonicalPart fs)
    (h : v.Becomes Part fs w) : v.Same w := by
  obtain ⟨es, rfl, hes⟩ := hv
  cases h with
  | map h => exact h.same hpart hkeys hes

end

/-! ## The records of the program -/

/-- What becomes of a value that is read into a record inside a spec; it has no parts. -/
def Component.Becomes (p : Part) : Value → Value → Prop :=
  Value.Becomes (fun e : Empty => nomatch e) p.fields

/-- What becomes of a value that is read into a spec. -/
def Spec.Becomes (k : NodeKind) : Value → Value → Prop :=
  Value.Becomes Component.Becomes k.fields

/-- Whether a mapping is one that stores a record inside a spec, in any order. -/
def Component.Canonical (p : Part) : Value → Prop :=
  Value.Canonical (fun e : Empty => nomatch e) p.fields

/-- Whether a mapping is one that stores a spec, in any order. -/
def Spec.Canonical (k : NodeKind) : Value → Prop :=
  Value.Canonical Component.Canonical k.fields

theorem Component.becomes_write {p : Part} {v : Value} {r : Component p}
    (h : Component.read p v = .ok r) : Component.Becomes p v (Component.write p r) :=
  Record.becomes_write (fun e => nomatch e) (fun e => nomatch e) p.nodup_keys h

theorem Component.Becomes.ne_null {p : Part} {v w : Value} (h : Component.Becomes p v w) :
    w ≠ .null := by
  cases h <;> nofun

theorem Component.Becomes.same {p : Part} {v w : Value} (hv : Component.Canonical p v)
    (h : Component.Becomes p v w) : v.Same w :=
  Value.Becomes.same (fun e => nomatch e) p.nodup_keys hv h

namespace Spec

/-- What is written for a record that was read is what becomes of the value, be it a record inside
a spec or a spec, and the value itself if that is in canonical form. -/
theorem becomes_of_read :
    (∀ (p : Part) (v : Value) (r : Component p), Component.read p v = .ok r →
      Component.Becomes p v (Component.write p r) ∧
        (Component.Canonical p v → v.Same (Component.write p r))) ∧
    ∀ (k : NodeKind) (v : Value) (s : Spec k), Spec.read k v = .ok s →
      Spec.Becomes k v s.write ∧ (Spec.Canonical k v → v.Same s.write) := by
  constructor
  · intro p v r h
    have hbecomes := Component.becomes_write h
    exact ⟨hbecomes, fun hv => hbecomes.same hv⟩
  · intro k v s h
    have hpart : ∀ p v r, components.read p v = .ok r →
        Component.Becomes p v (Component.write p r) := fun _ _ _ => Component.becomes_write
    have hbecomes : Spec.Becomes k v s.write :=
      Record.becomes_write hpart (fun _ _ _ => Component.Becomes.ne_null) k.nodup_keys h
    exact ⟨hbecomes, fun hv =>
      Value.Becomes.same (fun _ _ _ => Component.Becomes.same) k.nodup_keys hv hbecomes⟩

/-- An agent group in canonical form, with its entries in another order than that of the fields. -/
def group : Value :=
  .map [
    (.str "members", .list [.map [(.str "domain", .str "sales"), (.str "flow", .str "f1")]]),
    (.str "note", .null), (.str "name", .str "front desk")]

/-- What is written for it. -/
def regrouped : Value :=
  .map [
    (.str "name", .str "front desk"),
    (.str "members", .list [.map [(.str "flow", .str "f1"), (.str "domain", .str "sales")]]),
    (.str "note", .null)]

theorem canonical_group : Spec.Canonical .agentGroup group := by
  refine ⟨_, rfl, by decide, ?_, by decide⟩
  simp only [NodeKind.fields, List.forall_mem_cons, Field.any, Field.many, Field.plain]
  refine ⟨?_, ?_, ?_, nofun⟩
  · rintro _ ⟨⟩
    exact ⟨nofun, .any _⟩
  · rintro _ ⟨⟩
  · rintro _ ⟨⟩
    refine ⟨nofun, .many fun v hv => ?_⟩
    obtain rfl := List.mem_singleton.1 hv
    refine ⟨_, rfl, by decide, ?_, by decide⟩
    simp only [Part.fields, List.forall_mem_cons, Field.any, Field.plain]
    refine ⟨?_, ?_, nofun⟩
    · rintro _ ⟨⟩
      exact ⟨nofun, .any _⟩
    · rintro _ ⟨⟩
      exact ⟨nofun, .any _⟩

/-- A router in words becomes one in plain values; the group becomes itself. -/
theorem becomes_reworded :
    (∃ s : Spec .smartRouter, Spec.read .smartRouter worded = .ok s ∧
      Spec.Becomes .smartRouter worded reworded) ∧
    ∃ s : Spec .agentGroup, Spec.read .agentGroup group = .ok s ∧
      Spec.Canonical .agentGroup group ∧ group.Same regrouped := by
  constructor
  · have hwrite : (Spec.read .smartRouter worded).toOption.map Spec.write = some reworded := by
      decide +kernel
    obtain ⟨s, hs, hwrite⟩ := Option.map_eq_some_iff.1 hwrite
    have hread := toOption_eq_some.1 hs
    exact ⟨s, hread, hwrite ▸ (becomes_of_read.2 .smartRouter worded s hread).1⟩
  · have hwrite : (Spec.read .agentGroup group).toOption.map Spec.write = some regrouped := by
      decide +kernel
    obtain ⟨s, hs, hwrite⟩ := Option.map_eq_some_iff.1 hwrite
    have hread := toOption_eq_some.1 hs
    have hsame := (becomes_of_read.2 .agentGroup group s hread).2 canonical_group
    exact ⟨s, hread, canonical_group, hwrite ▸ hsame⟩

end Spec

end FlowGate
