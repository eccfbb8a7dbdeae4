import FlowGate.Json.Reader
import FlowGate.Json.Writer
import Mathlib.Algebra.Order.Group.Nat

/-!
# Strings and numbers of JSON

A string and an integer are read as they were written. `readString_escapeChar` says so of one
character of a string, whichever of its forms (`Escape`) it has; the digits of an integer end where
the text does not go on with a character of a number (`EndsNumber`).
-/

namespace FlowGate.Json

/-! ## Escapes -/

theorem hexValue?_digitChar {d : Nat} (h : d < 16) : Text.hexValue? (Nat.digitChar d) = some d := by
  decide +revert

theorem hexDigits_add_two (width n : Nat) :
    Text.hexDigits (width + 2) n =
      Text.hexDigits (width + 1) (n / 16) ++ [Nat.digitChar (n % 16)] := by
  unfold Text.hexDigits
  dsimp only
  by_cases h : n < 16
  · rw [Nat.toDigits_of_lt_base h, Nat.div_eq_of_lt h, Nat.mod_eq_of_lt h,
      Nat.toDigits_of_lt_base (by decide)]
    show List.replicate (width + 1) '0' ++ _ = List.replicate width '0' ++ ['0'] ++ _
    rw [List.replicate_succ']
  · have hwidth (l : Nat) : width + 2 - (l + 1) = width + 1 - l := by omega
    rw [Nat.toDigits_of_base_le (by decide) (by omega), List.length_append, List.length_singleton,
      hwidth, List.append_assoc]

theorem hexDigits_four {n : Nat} (h : n < 0x10000) :
    Text.hexDigits 4 n = [Nat.digitChar (n / 0x1000), Nat.digitChar (n / 0x100 % 16),
      Nat.digitChar (n / 0x10 % 16), Nat.digitChar (n % 16)] := by
  have hfirst : Text.hexDigits 1 (n / 0x1000) = [Nat.digitChar (n / 0x1000)] := by
    unfold Text.hexDigits
    rw [Nat.toDigits_of_lt_base (by omega)]
    rfl
  simp only [hexDigits_add_two, Nat.div_div_eq_div_mul, Nat.reduceMul, hfirst, List.cons_append,
    List.nil_append]

theorem hex4?_hexDigits {n : Nat} (h : n < 0x10000) (rest : List Char) :
    hex4? (Text.hexDigits 4 n ++ rest) = some (n, rest) := by
  have hfirst : Text.hexValue? (Nat.digitChar (n / 0x1000)) = some (n / 0x1000) :=
    hexValue?_digitChar (by omega)
  have hdigit (m : Nat) : Text.hexValue? (Nat.digitChar (m % 16)) = some (m % 16) :=
    hexValue?_digitChar (Nat.mod_lt m (by decide))
  have hvalue : ((n / 0x1000 * 16 + n / 0x100 % 16) * 16 + n / 0x10 % 16) * 16 + n % 16 = n := by
    omega
  rw [hexDigits_four h]
  simp [hex4?, hfirst, hdigit, hvalue]

theorem not_surrogate (c : Char) :
    Text.isHighSurrogate c.toNat = false ∧ Text.isLowSurrogate c.toNat = false := by
  have hvalid : c.toNat < 0xd800 ∨ 0xdfff < c.toNat ∧ c.toNat < 0x110000 := c.valid
  simp only [Text.isHighSurrogate, Text.isLowSurrogate, Bool.and_eq_false_iff,
    decide_eq_false_iff_not]
  omega

theorem unicodeEscape?_unit {c : Char} (h : c.toNat < 0x10000) (rest : List Char) :
    unicodeEscape? (Text.hexDigits 4 c.toNat ++ rest) = some (c, rest) := by
  obtain ⟨hhigh, hlow⟩ := not_surrogate c
  have hcode : Text.ofCode c.toNat = c := by simp [Text.ofCode, hhigh, hlow]
  unfold unicodeEscape?
  rw [hex4?_hexDigits h]
  simp only [Option.bind_eq_bind, Option.bind_some, hhigh, Bool.false_eq_true, if_false, hcode]
  split <;> rfl

theorem lt_of_isHighSurrogate {n : Nat} (h : Text.isHighSurrogate n = true) : n < 0x10000 := by
  simp only [Text.isHighSurrogate, Bool.and_eq_true, decide_eq_true_eq] at h
  omega

theorem lt_of_isLowSurrogate {n : Nat} (h : Text.isLowSurrogate n = true) : n < 0x10000 := by
  simp only [Text.isLowSurrogate, Bool.and_eq_true, decide_eq_true_eq] at h
  omega

theorem unicodeEscape?_pair {high low : Nat} (hhigh : Text.isHighSurrogate high = true)
    (hlow : Text.isLowSurrogate low = true) (rest : List Char) :
    unicodeEscape? (Text.hexDigits 4 high ++ (unitEscape low ++ rest)) =
      some (Text.ofSurrogates high low, rest) := by
  unfold unicodeEscape? unitEscape
  rw [hex4?_hexDigits (lt_of_isHighSurrogate hhigh)]
  simp only [Option.bind_eq_bind, Option.bind_some, List.cons_append, hhigh, if_true]
  rw [hex4?_hexDigits (lt_of_isLowSurrogate hlow)]
  simp only [Option.bind_some, hlow, if_true]
  rfl

/-! ## Strings -/

/-- The forms of a character inside a string: a letter, itself, one unit, or two. -/
inductive Escape (c : Char) : Prop
  | letter (e : Char) (meaning : letterEscape? e = some c) (form : escapeChar c = ['\\', e])
  | plain (quote : c ≠ '"') (slash : c ≠ '\\') (control : 0x20 ≤ c.toNat)
      (form : escapeChar c = [c])
  | unit (small : c.toNat < 0x10000) (form : escapeChar c = unitEscape c.toNat)
  | pair (high low : Nat) (isHigh : Text.isHighSurrogate high = true)
      (isLow : Text.isLowSurrogate low = true) (meaning : Text.ofSurrogates high low = c)
      (form : escapeChar c = unitEscape high ++ unitEscape low)

/-- A character past U+FFFF is the one of its two surrogates. -/
theorem exists_surrogates {c : Char} (h : 0xffff < c.toNat) :
    let high := 0xd800 + (c.toNat - 0x10000) / 0x400
    let low := 0xdc00 + (c.toNat - 0x10000) % 0x400
    Text.isHighSurrogate high = true ∧ Text.isLowSurrogate low = true ∧
      Text.ofSurrogates high low = c := by
  intro high low
  have hvalid : c.toNat < 0xd800 ∨ 0xdfff < c.toNat ∧ c.toNat < 0x110000 := c.valid
  have hcode : 0x10000 + (high - 0xd800) * 0x400 + (low - 0xdc00) = c.toNat := by omega
  simp only [Text.isHighSurrogate, Text.isLowSurrogate, Bool.and_eq_true, decide_eq_true_eq]
  refine ⟨by omega, by omega, ?_⟩
  rw [Text.ofSurrogates, hcode, Char.ofNat_toNat]

theorem Escape.of_char (c : Char) : Escape c := by
  by_cases hletter : c ∈ ['"', '\\', '\n', '\r', '\t', '\x08', '\x0c']
  · simp only [List.mem_cons, List.not_mem_nil, or_false] at hletter
    obtain rfl | rfl | rfl | rfl | rfl | rfl | rfl := hletter <;> exact .letter _ rfl rfl
  · simp only [List.mem_cons, List.not_mem_nil, or_false, not_or] at hletter
    obtain ⟨hquote, hslash, hn, hr, ht, hb, hf⟩ := hletter
    have hform : escapeChar c =
        if 0x20 ≤ c.toNat && c.toNat < 0x7f then [c]
        else if c.toNat ≤ 0xffff then unitEscape c.toNat
        else unitEscape (0xd800 + (c.toNat - 0x10000) / 0x400)
          ++ unitEscape (0xdc00 + (c.toNat - 0x10000) % 0x400) := by
      unfold escapeChar
      rw [if_neg hquote, if_neg hslash, if_neg hn, if_neg hr, if_neg ht, if_neg hb, if_neg hf]
    split at hform
    · next h =>
      rw [Bool.and_eq_true, decide_eq_true_eq] at h
      exact .plain hquote hslash h.1 hform
    · split at hform
      · next h => exact .unit (by omega) hform
      · next h =>
        obtain ⟨hhigh, hlow, hmeaning⟩ := exists_surrogates (Nat.lt_of_not_le h)
        exact .pair _ _ hhigh hlow hmeaning hform

theorem readString_letter {e c : Char} (h : letterEscape? e = some c) (fuel : Nat)
    (acc rest : List Char) :
    readString (fuel + 1) acc ('\\' :: e :: rest) = readString fuel (c :: acc) rest := by
  have hu : e ≠ 'u' := by
    rintro rfl
    cases h
  rw [readString]
  · rw [h]
  · exact hu

theorem readString_plain {c : Char} (hquote : c ≠ '"') (hslash : c ≠ '\\') (h : 0x20 ≤ c.toNat)
    (fuel : Nat) (acc rest : List Char) :
    readString (fuel + 1) acc (c :: rest) = readString fuel (c :: acc) rest := by
  rw [readString, if_neg]
  · simp [hslash, h]
  · exact hquote
  · rintro _ rfl
    exact absurd rfl hslash
  · rintro _ _ rfl
    exact absurd rfl hslash

theorem readString_escapeChar (fuel : Nat) (acc : List Char) (c : Char) (rest : List Char) :
    readString (fuel + 1) acc (escapeChar c ++ rest) = readString fuel (c :: acc) rest := by
  cases Escape.of_char c with
  | letter e meaning form =>
    rw [form]
    exact readString_letter meaning fuel acc rest
  | plain quote slash control form =>
    rw [form]
    exact readString_plain quote slash control fuel acc rest
  | unit small form =>
    rw [form]
    show readString (fuel + 1) acc ('\\' :: 'u' :: (_ ++ rest)) = _
    rw [readString, unicodeEscape?_unit small]
  | pair high low isHigh isLow meaning form =>
    rw [form, List.append_assoc]
    show readString (fuel + 1) acc ('\\' :: 'u' :: (_ ++ (_ ++ rest))) = _
    rw [readString, unicodeEscape?_pair isHigh isLow, meaning]

theorem readString_escaped {cs : List Char} {fuel : Nat} (h : cs.length < fuel)
    (acc rest : List Char) :
    readString fuel acc (cs.flatMap escapeChar ++ '"' :: rest) =
      .ok (String.ofList (acc.reverse ++ cs), rest) := by
  induction cs generalizing fuel acc with
  | nil =>
    obtain ⟨fuel, rfl⟩ := Nat.exists_eq_add_one_of_ne_zero (Nat.ne_zero_of_lt h)
    simp [readString]
  | cons c cs ih =>
    obtain ⟨fuel, rfl⟩ := Nat.exists_eq_add_one_of_ne_zero (Nat.ne_zero_of_lt h)
    rw [List.flatMap_cons, List.append_assoc, readString_escapeChar, ih (by simpa using h)]
    simp

theorem toList_stringText (s : String) :
    (stringText s).toList = '"' :: (s.toList.flatMap escapeChar ++ ['"']) := by
  simp [stringText]

theorem length_stringText (s : String) : s.length + 2 ≤ (stringText s).length := by
  have hchar (c : Char) : 1 ≤ (escapeChar c).length := by
    cases Escape.of_char c <;> simp [*, unitEscape]
  have hchars (cs : List Char) : cs.length ≤ (cs.flatMap escapeChar).length := by
    induction cs with
    | nil => exact Nat.le_refl _
    | cons c cs ih =>
      rw [List.flatMap_cons, List.length_append, List.length_cons, Nat.add_comm]
      exact Nat.add_le_add (hchar c) ih
  rw [← String.length_toList, ← String.length_toList, toList_stringText]
  simpa using hchars s.toList

/-! ## Numbers -/

def EndsNumber (rest : List Char) : Prop :=
  ∀ c ∈ rest.head?, c.isDigit = false ∧ c ∉ ['.', 'e', 'E']

theorem endsNumber_cons {c : Char} (h : c.isDigit = false ∧ c ∉ ['.', 'e', 'E'])
    (rest : List Char) : EndsNumber (c :: rest) := by
  rintro _ ⟨rfl⟩
  exact h

theorem isDigit_of_mem_toDigits {n : Nat} {c : Char} (h : c ∈ Nat.toDigits 10 n) :
    c.isDigit = true :=
  Nat.isDigit_of_mem_toDigits (by decide) (by decide) h

theorem head?_toDigits_append (n : Nat) (rest : List Char) :
    (Nat.toDigits 10 n ++ rest).head? = (Nat.toDigits 10 n).head? := by
  cases h : Nat.toDigits 10 n with
  | nil => exact absurd h Nat.toDigits_ne_nil
  | cons c cs => rfl

theorem head?_toDigits_ne {n : Nat} (h : n ≠ 0) : (Nat.toDigits 10 n).head? ≠ some '0' := by
  induction n using Nat.strongRecOn with
  | _ n ih =>
    by_cases hn : n < 10
    · rw [Nat.toDigits_of_lt_base hn]
      simpa using h
    · rw [Nat.toDigits_of_base_le (by decide) (by omega), head?_toDigits_append]
      exact ih (n / 10) (by omega) (by omega)

theorem digitsOf_toDigits (n : Nat) {rest : List Char} (h : EndsNumber rest) :
    digitsOf (Nat.toDigits 10 n ++ rest) =
      (Nat.toDigits 10 n).map fun c => c.toNat - '0'.toNat := by
  have hrest : rest.takeWhile Char.isDigit = [] := by
    cases rest with
    | nil => rfl
    | cons c rest => rw [List.takeWhile_cons, (h c rfl).1]; rfl
  unfold digitsOf
  rw [List.takeWhile_append_of_pos fun c hc => isDigit_of_mem_toDigits hc, hrest, List.append_nil]

theorem fractionOf_eq_self {rest : List Char} (h : EndsNumber rest) :
    fractionOf rest = ([], rest) := by
  unfold fractionOf
  split
  · exact absurd (List.mem_cons_self) (h '.' rfl).2
  · rfl

theorem exponentOf_eq_self {rest : List Char} (h : EndsNumber rest) :
    exponentOf rest = (none, rest) := by
  unfold exponentOf
  split
  · next e rest =>
    have hmark := (h e rfl).2
    rw [if_neg]
    rw [Bool.or_eq_true, decide_eq_true_eq, decide_eq_true_eq]
    rintro (rfl | rfl) <;> exact hmark (by decide)
  · rfl

theorem readNumber_toDigits (negative : Bool) {n : Nat} (h : n < 10 ^ Number.digitLimit)
    {rest : List Char} (hrest : EndsNumber rest) :
    readNumber negative (Nat.toDigits 10 n ++ rest) =
      .ok (.int (if negative then -(n : Int) else n), rest) := by
  have hwhole : (if (Nat.toDigits 10 n ++ rest).head? = some '0' then [0]
      else digitsOf (Nat.toDigits 10 n ++ rest)) =
        (Nat.toDigits 10 n).map fun c => c.toNat - '0'.toNat := by
    rw [head?_toDigits_append]
    by_cases hn : n = 0
    · subst hn
      rfl
    · rw [if_neg (head?_toDigits_ne hn), digitsOf_toDigits n hrest]
  have hvalue : Number.ofDigits ((Nat.toDigits 10 n).map fun c => c.toNat - '0'.toNat) = n := by
    unfold Number.ofDigits Number.ofDigitsIn
    rw [List.foldl_map]
    exact Nat.ofDigitChars_ten_toDigits
  have hlength : ¬ Number.digitLimit < (Nat.toDigits 10 n).length :=
    Nat.not_lt.2 ((Nat.length_toDigits_le_iff (by decide) (by decide)).2 h)
  unfold readNumber
  simp only [hwhole, List.length_map, List.drop_left, fractionOf_eq_self hrest,
    exponentOf_eq_self hrest, List.isEmpty_map, hlength, hvalue]
  simp [Nat.toDigits_ne_nil]

theorem readWord?_eq_none {c : Char} (h : c ∉ ['n', 't', 'f', 'N', 'I', '-']) (rest : List Char) :
    readWord? (c :: rest) = none := by
  simp only [List.mem_cons, List.not_mem_nil, or_false, not_or] at h
  obtain ⟨hn, ht, hf, hN, hI, hdash⟩ := h
  simp [readWord?, words, List.isPrefixOf, Ne.symm hn, Ne.symm ht, Ne.symm hf, Ne.symm hN,
    Ne.symm hI, Ne.symm hdash]

theorem readWord?_minus {c : Char} (h : c ≠ 'I') (rest : List Char) :
    readWord? ('-' :: c :: rest) = none := by
  simp [readWord?, words, List.isPrefixOf, Ne.symm h]

/-- A digit is no character that begins anything but a number. -/
theorem ne_of_isDigit {c d : Char} (h : c.isDigit = true) (hd : d.isDigit = false) : c ≠ d := by
  rintro rfl
  cases h.symm.trans hd

theorem readValue_digit {c : Char} (h : c.isDigit = true) (fuel : Nat) (rest : List Char) :
    readValue (fuel + 1) (c :: rest) = readNumber false (c :: rest) := by
  have hne (d : Char) (hd : d.isDigit = false) : c ≠ d := ne_of_isDigit h hd
  have hword : readWord? (c :: rest) = none := by
    refine readWord?_eq_none ?_ rest
    intro hc
    simp only [List.mem_cons, List.not_mem_nil, or_false] at hc
    obtain rfl | rfl | rfl | rfl | rfl | rfl := hc <;> cases h
  rw [readValue, hword]
  all_goals exact fun _ heq => hne _ rfl (List.cons.inj heq).1

theorem readValue_minus {c : Char} (h : c.isDigit = true) (fuel : Nat) (rest : List Char) :
    readValue (fuel + 1) ('-' :: c :: rest) = readNumber true (c :: rest) := by
  have hword : readWord? ('-' :: c :: rest) = none := readWord?_minus (ne_of_isDigit h rfl) rest
  rw [readValue, hword]

theorem exists_toDigits (n : Nat) :
    ∃ c cs, Nat.toDigits 10 n = c :: cs ∧ c.isDigit = true := by
  obtain ⟨c, cs, hcs⟩ := List.exists_cons_of_ne_nil (Nat.toDigits_ne_nil (n := n) (b := 10))
  exact ⟨c, cs, hcs, isDigit_of_mem_toDigits (hcs ▸ List.mem_cons_self)⟩

theorem toList_toString_ofNat (n : Nat) : (toString (n : Int)).toList = Nat.toDigits 10 n :=
  Nat.toList_repr

theorem toList_toString_negSucc (n : Nat) :
    (toString (Int.negSucc n)).toList = '-' :: Nat.toDigits 10 (n + 1) := by
  show ("-" ++ Nat.repr (n + 1)).toList = _
  rw [String.toList_append, Nat.toList_repr]
  rfl

theorem readValue_int {n : Int} (h : n.natAbs < 10 ^ Number.digitLimit) (fuel : Nat)
    {rest : List Char} (hrest : EndsNumber rest) :
    readValue (fuel + 1) ((toString n).toList ++ rest) = .ok (.int n, rest) := by
  cases n with
  | ofNat n =>
    obtain ⟨c, cs, hcs, hc⟩ := exists_toDigits n
    have hread : readNumber false (Nat.toDigits 10 n ++ rest) = .ok (.int n, rest) :=
      readNumber_toDigits false h hrest
    show readValue (fuel + 1) ((toString (n : Int)).toList ++ rest) = _
    rw [toList_toString_ofNat, hcs, List.cons_append, readValue_digit hc, ← List.cons_append, ← hcs,
      hread]
    rfl
  | negSucc n =>
    obtain ⟨c, cs, hcs, hc⟩ := exists_toDigits (n + 1)
    have hread := readNumber_toDigits true h hrest
    rw [toList_toString_negSucc, hcs, List.cons_append, List.cons_append, readValue_minus hc,
      ← List.cons_append, ← hcs]
    exact hread

end FlowGate.Json
