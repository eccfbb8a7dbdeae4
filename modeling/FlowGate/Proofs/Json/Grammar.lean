import FlowGate.Proofs.Json.RoundTrip
import Mathlib.Data.List.TakeWhile

/-!
# The grammar of JSON

`Json.IsText` says which texts are JSON, with the words and the integers that a `Dialect` admits.
`Dialect.accepted` is the one that is read: it has three more words than the standard one and limits
the digits of integers. The lemmas on blanks, numbers and strings say that each of them is read
exactly in its form, a number up to where none goes on (`EndsNumber`). Which integers are texts, and
what no text begins with, holds of every dialect.
-/

namespace FlowGate.Json

/-! ## The grammar -/

/-- The words of a kind of texts, and the numbers of digits that an integer may have. -/
structure Dialect where
  words : List (List Char)
  fits : Nat → Prop

namespace Dialect

/-- JSON as it is defined. -/
def standard : Dialect where
  words := ["null".toList, "true".toList, "false".toList]
  fits _ := True

/-- JSON as it is read. -/
def accepted : Dialect where
  words := Json.words.map Prod.fst
  fits n := n ≤ Number.digitLimit

end Dialect

def Blank (cs : List Char) : Prop := ∀ c ∈ cs, isSpace c = true

def Digits (cs : List Char) : Prop := cs ≠ [] ∧ ∀ c ∈ cs, c.isDigit = true

/-- The digits of an integer; a zero stands in front only if it stands alone. -/
def Whole (cs : List Char) : Prop := Digits cs ∧ (cs.head? = some '0' → cs = ['0'])

inductive Fraction : List Char → Prop
  | none : Fraction []
  | some {ds : List Char} (digits : Digits ds) : Fraction ('.' :: ds)

inductive Exponent : List Char → Prop
  | none : Exponent []
  | some {e : Char} {sign ds : List Char} (mark : e ∈ ['e', 'E'])
      (signed : sign ∈ [[], ['+'], ['-']]) (digits : Digits ds) : Exponent (e :: (sign ++ ds))

/-- A number without its sign. It is an integer if it has neither fraction nor exponent. -/
inductive Numeral (fits : Nat → Prop) : List Char → Prop
  | mk {whole fraction exponent : List Char} (digits : Whole whole) (isFraction : Fraction fraction)
      (isExponent : Exponent exponent)
      (integer : fraction = [] → exponent = [] → fits whole.length) :
      Numeral fits (whole ++ (fraction ++ exponent))

/-- What stands between the quotes of a string. -/
inductive Body : List Char → Prop
  | nil : Body []
  | plain {c : Char} {cs : List Char} (quote : c ≠ '"') (slash : c ≠ '\\')
      (control : 0x20 ≤ c.toNat) (rest : Body cs) : Body (c :: cs)
  | letter {e c : Char} {cs : List Char} (meaning : letterEscape? e = some c) (rest : Body cs) :
      Body ('\\' :: e :: cs)
  | unit {digits cs : List Char} {n : Nat} (code : hex4? digits = some (n, [])) (rest : Body cs) :
      Body ('\\' :: 'u' :: (digits ++ cs))

/-- What a stretch of a text is: a value, a member of a mapping, or what is left of a list or of a
mapping from an item or a member on. -/
inductive Role where
  | value
  | member
  | items
  | members

/-- The forms of values and of their parts. -/
inductive Grammar (dialect : Dialect) : Role → List Char → Prop
  | word {cs : List Char} (mem : cs ∈ dialect.words) : Grammar dialect .value cs
  | number {sign cs : List Char} (signed : sign ∈ [[], ['-']]) (numeral : Numeral dialect.fits cs) :
      Grammar dialect .value (sign ++ cs)
  | string {cs : List Char} (body : Body cs) : Grammar dialect .value ('"' :: (cs ++ ['"']))
  | emptyList {s : List Char} (blank : Blank s) : Grammar dialect .value ('[' :: (s ++ [']']))
  | list {s cs : List Char} (blank : Blank s) (items : Grammar dialect .items cs) :
      Grammar dialect .value ('[' :: (s ++ cs))
  | emptyMap {s : List Char} (blank : Blank s) :
      Grammar dialect .value ('\x7b' :: (s ++ ['\x7d']))
  | map {s cs : List Char} (blank : Blank s) (members : Grammar dialect .members cs) :
      Grammar dialect .value ('\x7b' :: (s ++ cs))
  | member {key s t cs : List Char} (body : Body key) (before : Blank s) (after : Blank t)
      (value : Grammar dialect .value cs) :
      Grammar dialect .member ('"' :: (key ++ '"' :: (s ++ ':' :: (t ++ cs))))
  | lastItem {cs s : List Char} (value : Grammar dialect .value cs) (blank : Blank s) :
      Grammar dialect .items (cs ++ (s ++ [']']))
  | nextItem {cs s t more : List Char} (value : Grammar dialect .value cs) (before : Blank s)
      (after : Blank t) (items : Grammar dialect .items more) :
      Grammar dialect .items (cs ++ (s ++ ',' :: (t ++ more)))
  | lastMember {cs s : List Char} (member : Grammar dialect .member cs) (blank : Blank s) :
      Grammar dialect .members (cs ++ (s ++ ['\x7d']))
  | nextMember {cs s t more : List Char} (member : Grammar dialect .member cs) (before : Blank s)
      (after : Blank t) (members : Grammar dialect .members more) :
      Grammar dialect .members (cs ++ (s ++ ',' :: (t ++ more)))

/-- Whether a text is a value with blanks around it. -/
def IsText (dialect : Dialect) (cs : List Char) : Prop :=
  ∃ s v t, cs = s ++ (v ++ t) ∧ Blank s ∧ Blank t ∧ Grammar dialect .value v

/-! ## Blanks -/

theorem exists_blank_skipSpace (cs : List Char) : ∃ s, cs = s ++ skipSpace cs ∧ Blank s :=
  ⟨cs.takeWhile isSpace, (List.takeWhile_append_dropWhile).symm,
    fun _ hc => List.mem_takeWhile_imp hc⟩

theorem skipSpace_blank {s : List Char} (h : Blank s) (cs : List Char) :
    skipSpace (s ++ cs) = skipSpace cs := List.dropWhile_append_of_pos h

theorem skipSpace_mark {s : List Char} (h : Blank s) {c : Char} (hc : isSpace c = false)
    (rest : List Char) : skipSpace (s ++ c :: rest) = c :: rest := by
  rw [skipSpace_blank h, skipSpace_of_head hc]

theorem skipSpace_opens {s cs : List Char} (h : Blank s) (hcs : Opens cs) (rest : List Char) :
    skipSpace (s ++ (cs ++ rest)) = cs ++ rest := by
  rw [skipSpace_blank h, hcs.skipSpace]

theorem Blank.endsNumber {s : List Char} (h : Blank s) {cs : List Char} (hcs : EndsNumber cs) :
    EndsNumber (s ++ cs) := by
  cases s with
  | nil => exact hcs
  | cons c s =>
    refine endsNumber_cons ?_ (s ++ cs)
    have hc : isSpace c = true := h c List.mem_cons_self
    simp only [isSpace, Bool.or_eq_true, decide_eq_true_eq] at hc
    obtain ((rfl | rfl) | rfl) | rfl := hc <;> decide

/-! ## Numbers -/

def EndsDigits (rest : List Char) : Prop := ∀ c ∈ rest.head?, c.isDigit = false

theorem takeWhile_digits {ds rest : List Char} (h : Digits ds) (hrest : EndsDigits rest) :
    (ds ++ rest).takeWhile Char.isDigit = ds ∧ (ds ++ rest).dropWhile Char.isDigit = rest := by
  have hnone : rest.takeWhile Char.isDigit = [] ∧ rest.dropWhile Char.isDigit = rest := by
    cases rest with
    | nil => exact ⟨rfl, rfl⟩
    | cons c rest => simp [hrest c rfl]
  rw [List.takeWhile_append_of_pos h.2, List.dropWhile_append_of_pos h.2, hnone.1, hnone.2,
    List.append_nil]
  exact ⟨rfl, rfl⟩

theorem length_digitsOf (cs : List Char) :
    (digitsOf cs).length = (cs.takeWhile Char.isDigit).length := List.length_map _

theorem isEmpty_digitsOf (cs : List Char) :
    (digitsOf cs).isEmpty = (cs.takeWhile Char.isDigit).isEmpty := List.isEmpty_map

theorem exists_digits {cs : List Char} (h : (digitsOf cs).isEmpty = false) :
    ∃ ds, cs = ds ++ cs.dropWhile Char.isDigit ∧ Digits ds ∧ ds.length = (digitsOf cs).length := by
  rw [isEmpty_digitsOf] at h
  refine ⟨cs.takeWhile Char.isDigit, List.takeWhile_append_dropWhile.symm, ⟨?_, ?_⟩,
    (length_digitsOf cs).symm⟩
  · simpa using h
  · exact fun _ hc => List.mem_takeWhile_imp hc

theorem fraction_of_fractionOf (cs : List Char) : ∃ t, cs = t ++ (fractionOf cs).2 ∧ Fraction t ∧
    ((fractionOf cs).1.isEmpty = true ↔ t = []) := by
  unfold fractionOf
  split
  · next rest =>
    split
    · exact ⟨[], rfl, .none, by simp⟩
    · next h =>
      rw [Bool.not_eq_true] at h
      obtain ⟨ds, hds, hdigits, -⟩ := exists_digits h
      exact ⟨'.' :: ds, by rw [List.cons_append, ← hds], .some hdigits, by simp [h]⟩
  · exact ⟨[], rfl, .none, by simp⟩

theorem sign_cases (cs : List Char) :
    ∃ sign ∈ [[], ['+'], ['-']], cs = sign ++ (Number.sign cs).2 := by
  unfold Number.sign
  split
  · exact ⟨['-'], by simp, rfl⟩
  · exact ⟨['+'], by simp, rfl⟩
  · exact ⟨[], by simp, rfl⟩

theorem exponent_of_exponentOf (cs : List Char) : ∃ t, cs = t ++ (exponentOf cs).2 ∧ Exponent t ∧
    ((exponentOf cs).1.isNone = true ↔ t = []) := by
  unfold exponentOf
  split
  · next e rest =>
    split
    · next hmark =>
      dsimp only
      split
      · exact ⟨[], rfl, .none, by simp⟩
      · next h =>
        rw [Bool.not_eq_true] at h
        obtain ⟨sign, hsign, hrest⟩ := sign_cases rest
        obtain ⟨ds, hds, hdigits, -⟩ := exists_digits h
        refine ⟨e :: (sign ++ ds), ?_, .some (by simpa using hmark) hsign hdigits, by simp⟩
        rw [List.cons_append, List.append_assoc, ← hds, ← hrest]
    · exact ⟨[], rfl, .none, by simp⟩
  · exact ⟨[], rfl, .none, by simp⟩

/-- The values of the digits of an integer at the start of a text. -/
def wholeOf (cs : List Char) : List Nat := if cs.head? = some '0' then [0] else digitsOf cs

theorem whole_of_wholeOf {cs : List Char} (h : (wholeOf cs).isEmpty = false) :
    ∃ t, cs = t ++ cs.drop (wholeOf cs).length ∧ Whole t ∧ t.length = (wholeOf cs).length := by
  unfold wholeOf at h ⊢
  by_cases hzero : cs.head? = some '0'
  · rw [if_pos hzero]
    obtain ⟨rest, rfl⟩ := List.head?_eq_some_iff.1 hzero
    exact ⟨['0'], rfl, ⟨⟨by simp, by simp⟩, fun _ => rfl⟩, rfl⟩
  · rw [if_neg hzero] at h ⊢
    obtain ⟨ds, hds, hdigits, hlength⟩ := exists_digits h
    have hhead : ds.head? = cs.head? := by
      rw [hds, List.head?_append_of_ne_nil _ hdigits.1]
    refine ⟨ds, ?_, ⟨hdigits, fun h => absurd (hhead ▸ h) hzero⟩, hlength⟩
    rw [← hlength]
    nth_rewrite 1 2 [hds]
    rw [List.drop_left]

theorem numeral_of_readNumber {negative : Bool} {cs rest : List Char} {v : Value}
    (h : readNumber negative cs = .ok (v, rest)) :
    ∃ t, cs = t ++ rest ∧ Numeral Dialect.accepted.fits t := by
  unfold readNumber at h
  dsimp only at h
  generalize hdigits : (if cs.head? = some '0' then [0] else digitsOf cs) = digits at h
  have hwholeOf : wholeOf cs = digits := hdigits
  split at h
  · cases h
  · next hempty =>
    rw [Bool.not_eq_true, ← hwholeOf] at hempty
    obtain ⟨whole, hcs, isWhole, hlength⟩ := whole_of_wholeOf hempty
    rw [hwholeOf] at hcs hlength
    obtain ⟨fraction, hfraction, isFraction, hnoFraction⟩ :=
      fraction_of_fractionOf (cs.drop digits.length)
    obtain ⟨exponent, hexponent, isExponent, hnoExponent⟩ :=
      exponent_of_exponentOf (fractionOf (cs.drop digits.length)).2
    have hform : cs = (whole ++ (fraction ++ exponent)) ++
        (exponentOf (fractionOf (cs.drop digits.length)).2).2 := by
      rw [List.append_assoc, List.append_assoc, ← hexponent, ← hfraction, ← hcs]
    split at h
    · split at h
      · cases h
      · next hfits =>
        cases h
        exact ⟨_, hform, .mk isWhole isFraction isExponent fun _ _ =>
          hlength ▸ Nat.not_lt.1 hfits⟩
    · next hinteger =>
      cases h
      refine ⟨_, hform, .mk isWhole isFraction isExponent fun h₁ h₂ => ?_⟩
      exact absurd (by simp [hnoFraction.2 h₁, hnoExponent.2 h₂]) hinteger

theorem fractionOf_fraction {t : List Char} (h : Fraction t) {rest : List Char}
    (hrest : ∀ c ∈ rest.head?, c.isDigit = false ∧ c ≠ '.') :
    (fractionOf (t ++ rest)).2 = rest ∧ ((fractionOf (t ++ rest)).1.isEmpty = true ↔ t = []) := by
  cases h with
  | none =>
    rw [List.nil_append]
    unfold fractionOf
    split
    · exact absurd rfl (hrest '.' rfl).2
    · exact ⟨rfl, by simp⟩
  | @some ds digits =>
    obtain ⟨htake, hdrop⟩ := takeWhile_digits digits fun c hc => (hrest c hc).1
    have hgiven : (digitsOf (ds ++ rest)).isEmpty = false := by
      rw [isEmpty_digitsOf, htake]
      simpa using digits.1
    rw [List.cons_append, fractionOf, hgiven]
    exact ⟨hdrop, by simp [hgiven]⟩

theorem sign_append {sign ds rest : List Char} (hsign : sign ∈ [[], ['+'], ['-']]) (h : Digits ds) :
    (Number.sign (sign ++ (ds ++ rest))).2 = ds ++ rest := by
  simp only [List.mem_cons, List.not_mem_nil, or_false] at hsign
  obtain rfl | rfl | rfl := hsign
  · obtain ⟨c, ds, rfl⟩ := List.exists_cons_of_ne_nil h.1
    have hc : c.isDigit = true := h.2 c List.mem_cons_self
    unfold Number.sign
    split
    · next heq => exact absurd (List.cons.inj heq).1 (ne_of_isDigit hc rfl)
    · next heq => exact absurd (List.cons.inj heq).1 (ne_of_isDigit hc rfl)
    · rfl
  · rfl
  · rfl

theorem exponentOf_exponent {t : List Char} (h : Exponent t) {rest : List Char}
    (hrest : EndsNumber rest) :
    (exponentOf (t ++ rest)).2 = rest ∧ ((exponentOf (t ++ rest)).1.isNone = true ↔ t = []) := by
  cases h with
  | none => simp [exponentOf_eq_self hrest]
  | @some e sign ds mark signed digits =>
    obtain ⟨htake, hdrop⟩ := takeWhile_digits digits fun c hc => (hrest c hc).1
    have hgiven : (digitsOf (ds ++ rest)).isEmpty = false := by
      rw [isEmpty_digitsOf, htake]
      simpa using digits.1
    rw [List.cons_append, List.append_assoc, exponentOf, if_pos (by simpa using mark)]
    have hsign : (Number.sign (sign ++ (ds ++ rest))).2 = ds ++ rest := sign_append signed digits
    generalize Number.sign (sign ++ (ds ++ rest)) = signed at hsign ⊢
    obtain ⟨negative, body⟩ := signed
    subst hsign
    dsimp only
    rw [hgiven]
    exact ⟨hdrop, by simp⟩

theorem Exponent.head {t : List Char} (h : Exponent t) {rest : List Char}
    (hrest : EndsNumber rest) :
    ∀ c ∈ (t ++ rest).head?, c.isDigit = false ∧ c ≠ '.' := by
  cases h with
  | none =>
    intro c hc
    obtain ⟨hdigit, hmark⟩ := hrest c hc
    exact ⟨hdigit, fun h => hmark (h ▸ List.mem_cons_self)⟩
  | some mark signed digits =>
    rintro _ ⟨⟩
    rw [List.mem_pair] at mark
    obtain rfl | rfl := mark <;> decide

theorem Fraction.head {t : List Char} (h : Fraction t) {rest : List Char}
    (hrest : ∀ c ∈ rest.head?, c.isDigit = false ∧ c ≠ '.') : EndsDigits (t ++ rest) := by
  cases h with
  | none => exact fun c hc => (hrest c hc).1
  | some digits =>
    rintro _ ⟨⟩
    rfl

theorem wholeOf_whole {t : List Char} (h : Whole t) {rest : List Char} (hrest : EndsDigits rest) :
    (wholeOf (t ++ rest)).length = t.length := by
  obtain ⟨hdigits, hzero⟩ := h
  unfold wholeOf
  rw [List.head?_append_of_ne_nil _ hdigits.1]
  split
  · next h =>
    rw [hzero h]
    rfl
  · rw [length_digitsOf, (takeWhile_digits hdigits hrest).1]

theorem readNumber_numeral {t : List Char} (h : Numeral Dialect.accepted.fits t) (negative : Bool)
    {rest : List Char} (hrest : EndsNumber rest) :
    ∃ v, readNumber negative (t ++ rest) = .ok (v, rest) := by
  obtain @⟨whole, fraction, exponent, digits, isFraction, isExponent, integer⟩ := h
  obtain ⟨hend, hnoExponent⟩ := exponentOf_exponent isExponent hrest
  obtain ⟨hmiddle, hnoFraction⟩ := fractionOf_fraction isFraction (isExponent.head hrest)
  have hlength := wholeOf_whole digits (isFraction.head (isExponent.head hrest))
  rw [List.append_assoc, List.append_assoc]
  unfold readNumber
  dsimp only
  generalize hdigits : (if (whole ++ (fraction ++ (exponent ++ rest))).head? = some '0' then [0]
    else digitsOf (whole ++ (fraction ++ (exponent ++ rest)))) = ds
  have hwholeOf : wholeOf (whole ++ (fraction ++ (exponent ++ rest))) = ds := hdigits
  rw [hwholeOf] at hlength
  have hgiven : ds.isEmpty = false := by
    rw [List.isEmpty_eq_false_iff, ← List.length_pos_iff, hlength, List.length_pos_iff]
    exact digits.1.1
  rw [hgiven, if_neg Bool.false_ne_true, hlength, List.drop_left, hmiddle, hend]
  split
  · next hinteger =>
    rw [Bool.and_eq_true] at hinteger
    have hfits : whole.length ≤ Number.digitLimit :=
      integer (hnoFraction.1 hinteger.1) (hnoExponent.1 hinteger.2)
    rw [if_neg (Nat.not_lt.2 hfits)]
    exact ⟨_, rfl⟩
  · exact ⟨_, rfl⟩

/-! ## Strings -/

theorem hex4?_eq_some {cs rest : List Char} {n : Nat} (h : hex4? cs = some (n, rest)) :
    ∃ digits, cs = digits ++ rest ∧ ∀ more, hex4? (digits ++ more) = some (n, more) := by
  unfold hex4? at h
  split at h
  · next a b c d more =>
    simp only [Option.bind_eq_bind, Option.bind_eq_some_iff, Option.pure_def] at h
    obtain ⟨i, hi, j, hj, k, hk, l, hl, h⟩ := h
    cases h
    exact ⟨[a, b, c, d], rfl, fun more => by simp [hex4?, hi, hj, hk, hl]⟩
  · cases h

/-- An escape takes up one unit or two. -/
theorem body_of_unicodeEscape? {cs rest : List Char} {c : Char}
    (h : unicodeEscape? cs = some (c, rest)) :
    ∃ t, cs = t ++ rest ∧ ∀ more, Body more → Body ('\\' :: 'u' :: (t ++ more)) := by
  unfold unicodeEscape? at h
  simp only [Option.bind_eq_bind, Option.bind_eq_some_iff, Option.pure_def] at h
  obtain ⟨⟨high, rest'⟩, hhigh, h⟩ := h
  obtain ⟨digits, rfl, hdigits⟩ := hex4?_eq_some hhigh
  have hone : ∀ more, Body more → Body ('\\' :: 'u' :: (digits ++ more)) := fun more hmore =>
    .unit (by simpa using hdigits []) hmore
  split at h
  · next heq =>
    obtain rfl : rest' = _ := heq
    split at h
    · simp only [Option.bind_eq_some_iff] at h
      obtain ⟨⟨low, after⟩, hlow, h⟩ := h
      dsimp only at h
      split at h
      · simp only [Option.some.injEq, Prod.mk.injEq] at h
        obtain ⟨-, rfl⟩ := h
        obtain ⟨digits', rfl, hdigits'⟩ := hex4?_eq_some hlow
        refine ⟨digits ++ '\\' :: 'u' :: digits', by simp, fun more hmore => ?_⟩
        rw [List.append_assoc]
        exact hone _ (.unit (by simpa using hdigits' []) hmore)
      · cases h
        exact ⟨digits, rfl, hone⟩
    · cases h
      exact ⟨digits, rfl, hone⟩
  · cases h
    exact ⟨digits, rfl, hone⟩

theorem body_of_readString {fuel : Nat} {acc cs rest : List Char} {s : String}
    (h : readString fuel acc cs = .ok (s, rest)) : ∃ t, cs = t ++ '"' :: rest ∧ Body t := by
  induction fuel generalizing acc cs with
  | zero => cases h
  | succ fuel ih =>
    rw [readString.eq_def] at h
    dsimp only at h
    split at h
    · cases h
    · cases h
      exact ⟨[], rfl, .nil⟩
    · next rest' =>
      split at h
      · next c after hescape =>
        obtain ⟨t, ht, hbody⟩ := body_of_unicodeEscape? hescape
        obtain ⟨more, rfl, hmore⟩ := ih h
        exact ⟨'\\' :: 'u' :: (t ++ more), by simp [ht], hbody more hmore⟩
      · cases h
    · next e rest' hnot =>
      split at h
      · next c hletter =>
        obtain ⟨more, rfl, hmore⟩ := ih h
        exact ⟨'\\' :: e :: more, rfl, .letter hletter hmore⟩
      · cases h
    · next c rest' hquote hunit hslash =>
      split at h
      · cases h
      · next hplain =>
        obtain ⟨more, rfl, hmore⟩ := ih h
        simp only [Bool.or_eq_true, decide_eq_true_eq, not_or, Nat.not_lt] at hplain
        exact ⟨c :: more, rfl, .plain hquote hplain.1 hplain.2 hmore⟩

theorem hex4?_append {digits : List Char} {n : Nat} (h : hex4? digits = some (n, []))
    (more : List Char) : hex4? (digits ++ more) = some (n, more) := by
  obtain ⟨digits', heq, hdigits⟩ := hex4?_eq_some h
  rw [List.append_nil] at heq
  exact heq ▸ hdigits more

/-- A string that goes on with the escape of a unit. -/
theorem Body.exists_unit {cs rest more : List Char} (h : Body cs)
    (heq : cs ++ '"' :: rest = '\\' :: 'u' :: more) : ∃ digits cs' n, hex4? digits = some (n, []) ∧
      Body cs' ∧ cs = '\\' :: 'u' :: (digits ++ cs') ∧ more = digits ++ (cs' ++ '"' :: rest) := by
  cases h with
  | nil => simp at heq
  | plain quote slash control rest => exact absurd (List.cons.inj heq).1 slash
  | letter meaning rest =>
    simp only [List.cons_append, List.cons.injEq, true_and] at heq
    rw [heq.1] at meaning
    cases meaning
  | @unit digits cs' n code rest =>
    simp only [List.cons_append, List.append_assoc, List.cons.injEq, true_and] at heq
    exact ⟨digits, cs', n, code, rest, rfl, heq.symm⟩

/-- The escape of a unit is read with the one behind it or alone. -/
theorem unicodeEscape?_body {digits cs : List Char} {n : Nat} (code : hex4? digits = some (n, []))
    (h : Body cs) (rest : List Char) : ∃ c cs', Body cs' ∧ cs'.length ≤ cs.length ∧
      unicodeEscape? (digits ++ (cs ++ '"' :: rest)) = some (c, cs' ++ '"' :: rest) := by
  unfold unicodeEscape?
  rw [hex4?_append code]
  simp only [Option.bind_eq_bind, Option.bind_some, Option.pure_def]
  split
  · next more heq =>
    obtain ⟨digits', cs', m, code', hcs', rfl, rfl⟩ := h.exists_unit heq
    rw [hex4?_append code']
    simp only [Option.bind_some]
    split
    · split
      · refine ⟨_, cs', hcs', ?_, rfl⟩
        simp only [List.length_cons, List.length_append]
        omega
      · exact ⟨_, _, h, Nat.le_refl _, rfl⟩
    · exact ⟨_, _, h, Nat.le_refl _, rfl⟩
  · exact ⟨_, cs, h, Nat.le_refl _, rfl⟩

theorem readString_body {t : List Char} (h : Body t) {fuel : Nat} (hfuel : t.length < fuel)
    (acc rest : List Char) : ∃ s, readString fuel acc (t ++ '"' :: rest) = .ok (s, rest) := by
  induction fuel generalizing t acc with
  | zero => cases hfuel
  | succ fuel ih =>
    cases h with
    | nil => exact ⟨_, rfl⟩
    | plain quote slash control more =>
      rw [List.cons_append, readString_plain quote slash control]
      exact ih more (Nat.lt_of_succ_lt_succ hfuel) _
    | letter meaning more =>
      rw [List.cons_append, List.cons_append, readString_letter meaning]
      exact ih more (by simp only [List.length_cons] at hfuel; omega) _
    | unit code more =>
      obtain ⟨c, cs', hcs', hlength, hescape⟩ := unicodeEscape?_body code more rest
      rw [List.cons_append, List.cons_append, List.append_assoc, readString, hescape]
      refine ih hcs' ?_ _
      simp only [List.length_cons, List.length_append] at hfuel
      omega

/-! ## Texts -/

theorem Numeral.exists_digit {fits : Nat → Prop} {t : List Char} (h : Numeral fits t) :
    ∃ c cs, t = c :: cs ∧ c.isDigit = true := by
  obtain @⟨whole, fraction, exponent, digits, -, -, -⟩ := h
  obtain ⟨c, cs, rfl⟩ := List.exists_cons_of_ne_nil digits.1.1
  exact ⟨c, _, rfl, digits.1.2 c List.mem_cons_self⟩

theorem Grammar.begins {dialect : Dialect} {t : List Char} (h : Grammar dialect .value t) :
    t ∈ dialect.words ∨
      ∃ c cs, t = c :: cs ∧ (c ∈ ['"', '[', '\x7b', '-'] ∨ c.isDigit = true) := by
  cases h with
  | word mem => exact .inl mem
  | @number sign cs signed numeral =>
    obtain ⟨c, cs, rfl, hdigit⟩ := numeral.exists_digit
    rw [List.mem_pair] at signed
    obtain rfl | rfl := signed
    · exact .inr ⟨c, cs, rfl, .inr hdigit⟩
    · exact .inr ⟨'-', c :: cs, rfl, .inl (by decide)⟩
  | _ => exact .inr ⟨_, _, rfl, .inl (by decide)⟩

/-- No text begins with a character that neither blanks nor values begin with. -/
theorem not_isText_cons {dialect : Dialect} {c : Char} {cs : List Char} (solid : isSpace c = false)
    (digit : c.isDigit = false) (mark : c ∉ ['"', '[', '\x7b', '-'])
    (words : ∀ w ∈ dialect.words, w ≠ [] ∧ w.head? ≠ some c) : ¬ IsText dialect (c :: cs) := by
  rintro ⟨s, v, t, hparts, hbefore, -, hform⟩
  cases s with
  | cons b s =>
    obtain ⟨rfl, -⟩ := List.cons.inj hparts
    rw [hbefore c List.mem_cons_self] at solid
    cases solid
  | nil =>
    obtain hword | ⟨b, v, rfl, hmark | hdigit⟩ := hform.begins
    · obtain ⟨hne, hhead⟩ := words v hword
      obtain ⟨b, v, rfl⟩ := List.exists_cons_of_ne_nil hne
      exact hhead (congrArg some (List.cons.inj hparts).1.symm)
    · exact mark ((List.cons.inj hparts).1 ▸ hmark)
    · rw [(List.cons.inj hparts).1, hdigit] at digit
      cases digit

theorem Numeral.fits_of_digits {fits : Nat → Prop} {t : List Char} (h : Numeral fits t)
    (digits : ∀ c ∈ t, c.isDigit = true) : fits t.length := by
  obtain @⟨whole, _, _, -, fraction, exponent, integer⟩ := h
  cases fraction with
  | some => exact absurd (digits '.' (by simp)) (by decide)
  | none =>
    cases exponent with
    | @some e sign ds mark =>
      have hdigit : e.isDigit = true := digits e (by simp)
      rw [List.mem_pair] at mark
      obtain rfl | rfl := mark <;> cases hdigit
    | none => simpa using integer rfl rfl

theorem Blank.eq_nil_of_digits {s : List Char} (h : Blank s) (digits : ∀ c ∈ s, c.isDigit = true) :
    s = [] := by
  rw [List.eq_nil_iff_forall_not_mem]
  intro c hc
  have hspace := h c hc
  simp only [isSpace, Bool.or_eq_true, decide_eq_true_eq] at hspace
  obtain ((rfl | rfl) | rfl) | rfl := hspace <;> exact absurd (digits _ hc) (by decide)

/-- An integer is a text of the dialects that its digits fit. -/
theorem isText_whole_iff {dialect : Dialect} {ds : List Char} (h : Whole ds)
    (words : ∀ w ∈ dialect.words, w.all Char.isDigit = false) :
    IsText dialect ds ↔ dialect.fits ds.length := by
  constructor
  · rintro ⟨s, v, t, rfl, hbefore, hafter, hform⟩
    have hdigits := h.1.2
    simp only [List.forall_mem_append] at hdigits
    obtain ⟨hs, hv, ht⟩ := hdigits
    rw [hbefore.eq_nil_of_digits hs, hafter.eq_nil_of_digits ht, List.nil_append, List.append_nil]
    cases hform with
    | word mem =>
      have hnot := words v mem
      rw [List.all_eq_true.2 hv] at hnot
      cases hnot
    | @number sign cs signed numeral =>
      rw [List.mem_pair] at signed
      obtain rfl | rfl := signed
      · exact numeral.fits_of_digits hv
      · exact absurd (hv '-' (by simp)) (by decide)
    | _ => exact absurd (hv _ List.mem_cons_self) (by decide)
  · intro hfits
    have hnumeral : Numeral dialect.fits (ds ++ ([] ++ [])) := .mk h .none .none fun _ _ => hfits
    have hform : Grammar dialect .value ([] ++ (ds ++ ([] ++ []))) := .number (by decide) hnumeral
    exact ⟨[], _, [], by simp, nofun, nofun, hform⟩

end FlowGate.Json
