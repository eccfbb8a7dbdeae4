import FlowGate.Proofs.Record.Conversion
import FlowGate.Proofs.Record.Overflow
import FlowGate.Proofs.Value.Text

/-!
# The values that records are read from

`Value.IsInteger`, `IsNumber`, `IsBoolean` and `IsTexts` are the forms in which a converted field
may be given, and `Spec.WellFormed` is the grammar of specs that is made of them: null or a mapping,
in which every such field is null or given in a form of its kind. `Spec.accepts_iff` says that a
spec is read from the values of the grammar and from no others, if these have a text.
-/

namespace FlowGate

/-! ## Forms of values -/

namespace Value

/-- The forms of an integer: itself, an integral double or a text. -/
inductive IsInteger : Value → Prop
  | int (n : Int) : IsInteger (.int n)
  | double {x : Double} (n : Int) : x.units? = some (n * 2 ^ 1074) → IsInteger (.float x)
  | text {s : String} : (Number.readInt? s.toList).isSome → IsInteger (.str s)

/-- The forms of a number: an integer that is not past the last double, a double or a text. -/
inductive IsNumber : Value → Prop
  | int {n : Int} : n.natAbs < 2 ^ 1024 - 2 ^ 970 → IsNumber (.int n)
  | double (x : Double) : IsNumber (.float x)
  | text {s : String} : (Number.readDouble? s.toList).isSome → IsNumber (.str s)

/-- The forms of a boolean: itself, zero, one or a word between blanks in any letter case. -/
inductive IsBoolean : Value → Prop
  | bool (b : Bool) : IsBoolean (.bool b)
  | zero : IsBoolean (.int 0)
  | one : IsBoolean (.int 1)
  | word {s : String} : smallWord s ∈ ["true", "yes", "on", "1", "false", "no", "off", "0"] →
      IsBoolean (.str s)

/-- The form of a list of texts: scalars. -/
inductive IsTexts : Value → Prop
  | list {items : List Value} : (∀ v ∈ items, v.isScalar = true) → IsTexts (.list items)

theorem isInteger_iff {v : Value} : v.IsInteger ↔ ∃ n, v.MeansInteger n := by
  constructor
  · rintro (n | ⟨n, hx⟩ | hs)
    · exact ⟨n, .int n⟩
    · exact ⟨n, .double (Double.toInt?_eq_some_iff.2 hx)⟩
    · obtain ⟨n, hn⟩ := Option.isSome_iff_exists.1 hs
      exact ⟨n, .text hn⟩
  · rintro ⟨n, _ | hx | hs⟩
    · exact .int n
    · exact .double n (Double.toInt?_eq_some_iff.1 hx)
    · exact .text (Option.isSome_iff_exists.2 ⟨n, hs⟩)

theorem isNumber_iff {v : Value} : v.IsNumber ↔ ∃ x, v.MeansNumber x := by
  constructor
  · rintro (hn | x | hs)
    · obtain ⟨x, hx⟩ := Option.ne_none_iff_exists'.1 fun h =>
        Nat.not_le.2 hn ((Double.ofInt?_eq_none_iff _).1 h)
      exact ⟨x, .int hx⟩
    · exact ⟨x, .double x⟩
    · obtain ⟨x, hx⟩ := Option.isSome_iff_exists.1 hs
      exact ⟨x, .text hx⟩
  · rintro ⟨x, _ | hn | hs⟩
    · exact .double x
    · refine .int (Nat.not_le.1 fun h => ?_)
      rw [(Double.ofInt?_eq_none_iff _).2 h] at hn
      cases hn
    · exact .text (Option.isSome_iff_exists.2 ⟨x, hs⟩)

theorem isBoolean_iff {v : Value} : v.IsBoolean ↔ ∃ b, v.MeansBoolean b := by
  have hwords : ∀ w, w ∈ ["true", "yes", "on", "1", "false", "no", "off", "0"] ↔
      w ∈ trueWords ∨ w ∈ falseWords := fun w => List.mem_append (s := trueWords)
  constructor
  · rintro (b | _ | _ | hs)
    · exact ⟨b, .bool b⟩
    · exact ⟨false, .zero⟩
    · exact ⟨true, .one⟩
    · obtain hs | hs := (hwords _).1 hs
      · exact ⟨true, .trueWord hs⟩
      · exact ⟨false, .falseWord hs⟩
  · rintro ⟨b, _ | _ | _ | hs | hs⟩
    · exact .bool b
    · exact .zero
    · exact .one
    · exact .word ((hwords _).2 (.inl hs))
    · exact .word ((hwords _).2 (.inr hs))

theorem isTexts_iff {v : Value} (htext : v.HasText) : v.IsTexts ↔ ∃ ss, v.MeansTexts ss := by
  constructor
  · rintro ⟨h⟩
    exact ⟨_, .list fun v hv => ⟨h v hv, (hasText_list _).1 htext v hv⟩⟩
  · rintro ⟨ss, ⟨h⟩⟩
    exact .list fun v hv => (h v hv).1

end Value

/-! ## The grammar of records -/

section

variable {P : Type}

/-- Whether a value has the form of a kind of field, if `Part` says so of records. -/
def FieldKind.Fits (Part : P → Value → Prop) : FieldKind P → Value → Prop
  | .any, _ => True
  | .integer, v => v.IsInteger
  | .number, v => v.IsNumber
  | .boolean, v => v.IsBoolean
  | .texts, v => v.IsTexts
  | .one p, v => Part p v
  | .many p, v => ∃ items, v = .list items ∧ ∀ w ∈ items, Part p w

/-- Whether a value has the form of a record with some fields. -/
inductive Value.FitsRecord (Part : P → Value → Prop) (fs : List (Field P)) : Value → Prop
  | null : FitsRecord Part fs .null
  | map {es : Entries} : (∀ f ∈ fs, Entries.field es f.key = .null ∨
      f.kind.Fits Part (Entries.field es f.key)) → FitsRecord Part fs (.map es)

variable {Item : P → Type} {parts : PartReader Item} {Part : P → Value → Prop}

/-- A field takes null and the values of its form. -/
theorem FieldKind.accepts_iff
    (hpart : ∀ p v, v.HasText → ((∃ r, parts.read p v = .ok r) ↔ Part p v)) (k : FieldKind P)
    {v : Value} (htext : v.HasText) : k.Accepts parts v ↔ v = .null ∨ k.Fits Part v := by
  unfold Accepts readGiven
  split
  · next hnull => exact iff_of_true ⟨_, rfl⟩ (.inl hnull)
  · next hgiven =>
    rw [or_iff_right hgiven]
    cases k with
    | any => exact iff_of_true ⟨v, rfl⟩ trivial
    | integer =>
      refine exists_map_eq_ok.trans ?_
      simp only [readInteger_eq_ok, Fits, Value.isInteger_iff]
    | number =>
      refine exists_map_eq_ok.trans ?_
      simp only [readNumber_eq_ok, Fits, Value.isNumber_iff]
    | boolean =>
      refine exists_map_eq_ok.trans ?_
      simp only [readBoolean_eq_ok, Fits, Value.isBoolean_iff]
    | texts =>
      refine (exists_congr fun ss => readTexts_eq_ok).trans ?_
      exact (Value.isTexts_iff htext).symm
    | one p => exact exists_map_eq_ok.trans (hpart p v htext)
    | many p =>
      cases v with
      | list items =>
        refine exists_mapM_eq_ok.trans ?_
        have hitems := (Value.hasText_list items).1 htext
        simp only [Fits, Value.list.injEq, exists_eq_left']
        exact forall₂_congr fun w hw => hpart p w (hitems w hw)
      | scalar s => exact iff_of_false (not_exists_ok _) nofun
      | map es => exact iff_of_false (not_exists_ok _) nofun

theorem Row.exists_read {record : String} {es : Entries} {fs : List (Field P)} :
    (∃ row, Row.read parts record es fs = .ok row) ↔
      ∀ f ∈ fs, f.kind.Accepts parts (Entries.field es f.key) := by
  induction fs with
  | nil => exact iff_of_true ⟨(), rfl⟩ nofun
  | cons f fs ih =>
    rw [List.forall_mem_cons, ← ih]
    refine exists_bind_eq_ok.trans ?_
    simp only [mapError_eq_ok]
    constructor
    · rintro ⟨x, hx, hrow⟩
      obtain ⟨row, hrow, -⟩ := exists_bind_eq_ok.1 hrow
      exact ⟨⟨x, hx⟩, row, hrow⟩
    · rintro ⟨⟨x, hx⟩, row, hrow⟩
      exact ⟨x, hx, exists_bind_eq_ok.2 ⟨row, hrow, (x, row), rfl⟩⟩

/-- A record is read from the values of its form and from no others. -/
theorem Record.exists_read
    (hpart : ∀ p v, v.HasText → ((∃ r, parts.read p v = .ok r) ↔ Part p v)) {record : String}
    {fs : List (Field P)} {v : Value} (htext : v.HasText) :
    (∃ r, Record.read parts record fs v = .ok r) ↔ v.FitsRecord Part fs := by
  fun_cases Record.read parts record fs v with
  | case1 =>
    refine iff_of_true (exists_map_eq_ok.2 (Row.exists_read.2 fun f _ => ?_)) .null
    exact ⟨_, if_pos rfl⟩
  | case2 es =>
    have hfields : (∀ f ∈ fs, f.kind.Accepts parts (Entries.field es f.key)) ↔
        ∀ f ∈ fs, Entries.field es f.key = .null ∨ f.kind.Fits Part (Entries.field es f.key) :=
      forall₂_congr fun f _ => f.kind.accepts_iff hpart (htext.field f.key)
    refine exists_map_eq_ok.trans (Row.exists_read.trans (hfields.trans ⟨.map, ?_⟩))
    intro h
    cases h with
    | map h => exact h
  | case3 v hnull hmap =>
    refine iff_of_false (not_exists_ok _) ?_
    rintro (_ | _)
    · exact hnull rfl
    · exact hmap _ rfl

end

def Component.WellFormed (p : Part) (v : Value) : Prop :=
  v.FitsRecord (fun e : Empty => nomatch e) p.fields

def Spec.WellFormed (k : NodeKind) (v : Value) : Prop :=
  v.FitsRecord Component.WellFormed k.fields

theorem Component.accepts_iff (p : Part) {v : Value} (htext : v.HasText) :
    (∃ r, Component.read p v = .ok r) ↔ Component.WellFormed p v :=
  Record.exists_read (fun e => nomatch e) htext

/-- A spec is read from the values of its form and from no others. -/
theorem Spec.accepts_iff (k : NodeKind) {v : Value} (htext : v.HasText) :
    (∃ s, Spec.read k v = .ok s) ↔ Spec.WellFormed k v :=
  Record.exists_read (fun p _ => Component.accepts_iff p) htext

end FlowGate
