import FlowGate.Proofs.Number.Range
import FlowGate.Proofs.Outcome
import FlowGate.Proofs.Value.Text
import FlowGate.Record.Reading

/-!
# What values mean to a field

An integer, a number, a boolean and a list of texts may each be given in several ways. The relations
`Value.MeansInteger`, `MeansNumber`, `MeansBoolean` and `MeansTexts` list the ways, and the lemmas
`read…_eq_ok` say that the readers take these and no others, and take them for what they mean.
-/

namespace FlowGate

namespace Value

/-- The integer that a value means: itself, or what an integral double or a text says. -/
inductive MeansInteger : Value → Int → Prop
  | int (n : Int) : MeansInteger (.int n) n
  | double {x : Double} {n : Int} : x.toInt? = some n → MeansInteger (.float x) n
  | text {s : String} {n : Int} : Number.readInt? s.toList = some n → MeansInteger (.str s) n

/-- The number that a value means: itself, or what an integer near a double or a text says. -/
inductive MeansNumber : Value → Double → Prop
  | double (x : Double) : MeansNumber (.float x) x
  | int {n : Int} {x : Double} : Double.ofInt? n = some x → MeansNumber (.int n) x
  | text {s : String} {x : Double} : Number.readDouble? s.toList = some x → MeansNumber (.str s) x

/-- A text without the blanks around it, in small letters. -/
def smallWord (s : String) : String := String.ofList (Text.lower (Text.trim s.toList))

/-- The boolean that a value means: itself, or what zero, one or a word says. -/
inductive MeansBoolean : Value → Bool → Prop
  | bool (b : Bool) : MeansBoolean (.bool b) b
  | zero : MeansBoolean (.int 0) false
  | one : MeansBoolean (.int 1) true
  | trueWord {s : String} : smallWord s ∈ trueWords → MeansBoolean (.str s) true
  | falseWord {s : String} : smallWord s ∈ falseWords → MeansBoolean (.str s) false

/-- The texts that a value means: those of the scalars in a list. -/
inductive MeansTexts : Value → List String → Prop
  | list {items : List Value} : (∀ v ∈ items, v.isScalar = true ∧ v.HasText) →
      MeansTexts (.list items) (items.map text)

end Value

theorem readInteger_eq_ok {v : Value} {n : Int} : readInteger v = .ok n ↔ v.MeansInteger n := by
  constructor
  · fun_cases readInteger v with
    | case1 m =>
      rintro ⟨⟩
      exact .int n
    | case2 x m hx =>
      rintro ⟨⟩
      exact .double hx
    | case4 s m hs =>
      rintro ⟨⟩
      exact .text hs
    | _ => rintro ⟨⟩
  · rintro (_ | hx | hs)
    · rfl
    · simp only [readInteger, hx]
    · simp only [readInteger, hs]

theorem readNumber_eq_ok {v : Value} {x : Double} : readNumber v = .ok x ↔ v.MeansNumber x := by
  constructor
  · fun_cases readNumber v with
    | case1 y =>
      rintro ⟨⟩
      exact .double x
    | case2 n y hn =>
      rintro ⟨⟩
      exact .int hn
    | case4 s y hs =>
      rintro ⟨⟩
      exact .text hs
    | _ => rintro ⟨⟩
  · rintro (_ | hn | hs)
    · rfl
    · simp only [readNumber, hn]
    · simp only [readNumber, hs]

theorem wordBoolean?_eq_some {s : String} {b : Bool} : wordBoolean? s = some b ↔
    b = true ∧ Value.smallWord s ∈ trueWords ∨ b = false ∧ Value.smallWord s ∈ falseWords := by
  have hdisjoint : ∀ w ∈ trueWords, w ∉ falseWords := by decide
  unfold wordBoolean?
  dsimp only
  rw [← Value.smallWord]
  simp only [List.contains_iff_mem]
  split
  · next htrue => simp [htrue, hdisjoint _ htrue, eq_comm]
  · next htrue =>
    split
    · next hfalse => simp [htrue, hfalse, eq_comm]
    · next hfalse => simp [htrue, hfalse]

theorem readBoolean_eq_ok {v : Value} {b : Bool} : readBoolean v = .ok b ↔ v.MeansBoolean b := by
  constructor
  · fun_cases readBoolean v with
    | case1 c =>
      rintro ⟨⟩
      exact .bool b
    | case2 s c hs =>
      rintro ⟨⟩
      obtain ⟨rfl, hword⟩ | ⟨rfl, hword⟩ := wordBoolean?_eq_some.1 hs
      · exact .trueWord hword
      · exact .falseWord hword
    | case4 =>
      rintro ⟨⟩
      exact .zero
    | case5 =>
      rintro ⟨⟩
      exact .one
    | _ => rintro ⟨⟩
  · rintro (_ | _ | _ | hword | hword)
    · rfl
    · rfl
    · rfl
    · simp only [readBoolean, wordBoolean?_eq_some.2 (.inl ⟨rfl, hword⟩)]
    · simp only [readBoolean, wordBoolean?_eq_some.2 (.inr ⟨rfl, hword⟩)]

theorem readText_eq_ok {v : Value} {s : String} : readText v = .ok s ↔ v.HasText ∧ v.text = s := by
  rw [← Value.isTooLong_eq_false_iff]
  unfold readText
  split
  · next h => simp [h]
  · next h => simp [h]

theorem mapM_readText_eq_ok {items : List Value} {ss : List String} :
    items.mapM readText = .ok ss ↔ (∀ v ∈ items, v.HasText) ∧ items.map Value.text = ss := by
  simp only [mapM_eq_ok, readText_eq_ok, List.forall₂_and_left]
  rw [← List.forall₂_map_left_iff (f := Value.text) (R := (· = ·)), List.forall₂_eq_eq_eq]

theorem readTexts_eq_ok {v : Value} {ss : List String} :
    readTexts v = .ok ss ↔ v.MeansTexts ss := by
  constructor
  · fun_cases readTexts v with
    | case1 items hscalar =>
      intro h
      obtain ⟨htexts, rfl⟩ := mapM_readText_eq_ok.1 h
      exact .list fun v hv => ⟨List.all_eq_true.1 hscalar v hv, htexts v hv⟩
    | _ => rintro ⟨⟩
  · rintro ⟨h⟩
    have hscalar := List.all_eq_true.2 fun v hv => (h v hv).1
    rw [readTexts, if_pos hscalar, mapM_readText_eq_ok]
    exact ⟨fun v hv => (h v hv).2, rfl⟩

end FlowGate
