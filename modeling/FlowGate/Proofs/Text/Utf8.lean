import FlowGate.Text.Utf8
import Mathlib.Data.List.Basic

/-!
# The texts that bytes encode

`Utf8.decode_eq_ok_iff`: bytes are decoded exactly if they are the encoded forms of some characters,
and these are the characters that they are decoded to. `Utf8.Form` lists the forms by their lead
bytes, as the decoder tells them apart; by `encode_of_form` and `form_encode` they are those of the
standard library.
-/

namespace FlowGate.Utf8

variable {place : Nat} {done cs : List Char} {bytes : List UInt8}

/-- Whether a byte is one of those that follow a lead byte. -/
def IsTail (b : UInt8) : Prop := 0x80 ≤ b.toNat ∧ b.toNat ≤ 0xbf

/-- The bytes of a character, and the character. Long forms of small numbers, surrogates and numbers
past the last character have lead bytes whose second byte is restricted. -/
inductive Form : List UInt8 → Char → Prop
  | one {a : UInt8} (lead : a.toNat < 0x80) : Form [a] (Char.ofNat a.toNat)
  | two {a b : UInt8} (low : 0xc2 ≤ a.toNat) (high : a.toNat ≤ 0xdf) (second : IsTail b) :
      Form [a, b] (Char.ofNat ((a.toNat - 0xc0) * 64 + (b.toNat - 0x80)))
  | three {a b c : UInt8} (low : 0xe0 ≤ a.toNat) (high : a.toNat ≤ 0xef) (second : IsTail b)
      (long : a.toNat = 0xe0 → 0xa0 ≤ b.toNat) (surrogate : a.toNat = 0xed → b.toNat ≤ 0x9f)
      (third : IsTail c) :
      Form [a, b, c]
        (Char.ofNat (((a.toNat - 0xe0) * 64 + (b.toNat - 0x80)) * 64 + (c.toNat - 0x80)))
  | four {a b c d : UInt8} (low : 0xf0 ≤ a.toNat) (high : a.toNat ≤ 0xf4) (second : IsTail b)
      (long : a.toNat = 0xf0 → 0x90 ≤ b.toNat) (past : a.toNat = 0xf4 → b.toNat ≤ 0x8f)
      (third : IsTail c) (fourth : IsTail d) :
      Form [a, b, c, d]
        (Char.ofNat ((((a.toNat - 0xf0) * 64 + (b.toNat - 0x80)) * 64 + (c.toNat - 0x80)) * 64 +
          (d.toNat - 0x80)))

/-! ## Lead bytes -/

/-- What a lead byte of two, three or four announces. -/
inductive Announces (b : UInt8) (place : Nat) : Pending → Prop
  | two (low : 0xc2 ≤ b.toNat) (high : b.toNat ≤ 0xdf) :
      Announces b place ⟨b, place, b.toNat - 0xc0, 1, 0x80, 0xbf⟩
  | three (low : 0xe0 ≤ b.toNat) (high : b.toNat ≤ 0xef) :
      Announces b place ⟨b, place, b.toNat - 0xe0, 2, if b.toNat = 0xe0 then 0xa0 else 0x80,
        if b.toNat = 0xed then 0x9f else 0xbf⟩
  | four (low : 0xf0 ≤ b.toNat) (high : b.toNat ≤ 0xf4) :
      Announces b place ⟨b, place, b.toNat - 0xf0, 3, if b.toNat = 0xf0 then 0x90 else 0x80,
        if b.toNat = 0xf4 then 0x8f else 0xbf⟩

theorem pending?_of_announces {b : UInt8} {p : Pending} (h : Announces b place p) :
    pending? b place = some p := by
  unfold pending?
  cases h with
  | two low high => simp [low, high]
  | three low high =>
    by_cases hlong : b.toNat = 0xe0
    · simp [hlong]
    · by_cases hsurrogate : b.toNat = 0xed
      · simp [hsurrogate]
      · simp [hlong, hsurrogate, high, show 0xe1 ≤ b.toNat by omega, show ¬ b.toNat ≤ 0xdf by omega]
  | four low high =>
    by_cases hlong : b.toNat = 0xf0
    · simp [hlong]
    · by_cases hpast : b.toNat = 0xf4
      · simp [hpast]
      · simp [hlong, hpast, show 0xf1 ≤ b.toNat by omega, show b.toNat ≤ 0xf3 by omega,
          show ¬ b.toNat ≤ 0xdf by omega, show ¬ b.toNat ≤ 0xef by omega,
          show b.toNat ≠ 0xe0 by omega, show b.toNat ≠ 0xed by omega]

theorem announces_of_pending? {b : UInt8} {p : Pending} (h : pending? b place = some p) :
    Announces b place p := by
  have hranges : (0xc2 ≤ b.toNat ∧ b.toNat ≤ 0xdf) ∨ (0xe0 ≤ b.toNat ∧ b.toNat ≤ 0xef) ∨
      (0xf0 ≤ b.toNat ∧ b.toNat ≤ 0xf4) := by
    by_contra hnone
    unfold pending? at h
    dsimp only at h
    split_ifs at h <;> simp only [Bool.and_eq_true, decide_eq_true_eq] at * <;> omega
  obtain ⟨low, high⟩ | ⟨low, high⟩ | ⟨low, high⟩ := hranges
  · have hp : Announces b place _ := .two low high
    cases (pending?_of_announces hp).symm.trans h
    exact hp
  · have hp : Announces b place _ := .three low high
    cases (pending?_of_announces hp).symm.trans h
    exact hp
  · have hp : Announces b place _ := .four low high
    cases (pending?_of_announces hp).symm.trans h
    exact hp

/-! ## Steps -/

/-- What is still to come after one more byte of a character. -/
def Pending.next (p : Pending) (b : UInt8) : Pending :=
  { p with code := p.code * 64 + (b.toNat - 0x80), need := p.need - 1, low := 0x80, high := 0xbf }

theorem decodeFrom_lead {b : UInt8} {p : Pending} (h : Announces b place p) (rest : List UInt8) :
    decodeFrom place done none (b :: rest) = decodeFrom (place + 1) done (some p) rest := by
  have hlarge : ¬ b.toNat < 0x80 := by cases h <;> omega
  rw [decodeFrom, if_neg hlarge, pending?_of_announces h]

theorem decodeFrom_last {b : UInt8} {p : Pending} (hneed : p.need ≤ 1) (low : p.low ≤ b.toNat)
    (high : b.toNat ≤ p.high) (rest : List UInt8) :
    decodeFrom place done (some p) (b :: rest) =
      decodeFrom (place + 1) (Char.ofNat (p.code * 64 + (b.toNat - 0x80)) :: done) none rest := by
  rw [decodeFrom, if_pos (by simp [low, high]), if_pos hneed]

theorem decodeFrom_next {b : UInt8} {p : Pending} (hneed : 1 < p.need) (low : p.low ≤ b.toNat)
    (high : b.toNat ≤ p.high) (rest : List UInt8) :
    decodeFrom place done (some p) (b :: rest) =
      decodeFrom (place + 1) done (some (p.next b)) rest := by
  rw [decodeFrom, if_pos (by simp [low, high]), if_neg (Nat.not_le.2 hneed)]
  rfl

theorem exists_cons_of_decodeFrom {p : Pending}
    (h : decodeFrom place done (some p) bytes = .ok cs) :
    ∃ b rest, bytes = b :: rest ∧ p.low ≤ b.toNat ∧ b.toNat ≤ p.high := by
  cases bytes with
  | nil => cases h
  | cons b rest =>
    rw [decodeFrom] at h
    split at h
    · next hrange =>
      rw [Bool.and_eq_true, decide_eq_true_eq, decide_eq_true_eq] at hrange
      exact ⟨b, rest, rfl, hrange⟩
    · cases h

/-! ## Characters -/

/-- A character is decoded from its form. -/
theorem decodeFrom_form {t : List UInt8} {c : Char} (h : Form t c) (rest : List UInt8) :
    decodeFrom place done none (t ++ rest) =
      decodeFrom (place + t.length) (c :: done) none rest := by
  cases h with
  | one lead =>
    show decodeFrom place done none (_ :: rest) = _
    rw [decodeFrom, if_pos lead]
    rfl
  | two low high second =>
    show decodeFrom place done none (_ :: _ :: rest) = _
    rw [decodeFrom_lead (.two low high), decodeFrom_last (Nat.le_refl 1) second.1 second.2]
    rfl
  | three low high second long surrogate third =>
    show decodeFrom place done none (_ :: _ :: _ :: rest) = _
    rw [decodeFrom_lead (.three low high),
      decodeFrom_next Nat.one_lt_two (by dsimp only; split <;> simp_all [IsTail])
        (by dsimp only; split <;> simp_all [IsTail]),
      decodeFrom_last (Nat.le_refl 1) third.1 third.2]
    rfl
  | four low high second long past third fourth =>
    show decodeFrom place done none (_ :: _ :: _ :: _ :: rest) = _
    rw [decodeFrom_lead (.four low high),
      decodeFrom_next (Nat.lt_add_of_pos_left Nat.two_pos)
        (by dsimp only; split <;> simp_all [IsTail])
        (by dsimp only; split <;> simp_all [IsTail]),
      decodeFrom_next Nat.one_lt_two third.1 third.2,
      decodeFrom_last (Nat.le_refl 1) fourth.1 fourth.2]
    rfl

/-- What is decoded begins with the form of a character. -/
theorem exists_form_of_decodeFrom {a : UInt8}
    (h : decodeFrom place done none (a :: bytes) = .ok cs) :
    ∃ t c rest, a :: bytes = t ++ rest ∧ Form t c := by
  by_cases hsmall : a.toNat < 0x80
  · exact ⟨[a], _, bytes, rfl, .one hsmall⟩
  · cases hpending : pending? a place with
    | none =>
      rw [decodeFrom, if_neg hsmall, hpending] at h
      cases h
    | some p =>
      have hlead := announces_of_pending? hpending
      rw [decodeFrom_lead hlead] at h
      obtain ⟨b, rest, rfl, hb⟩ := exists_cons_of_decodeFrom h
      cases hlead with
      | two low high => exact ⟨[a, b], _, rest, rfl, .two low high hb⟩
      | three low high =>
        rw [decodeFrom_next Nat.one_lt_two hb.1 hb.2] at h
        obtain ⟨c, rest, rfl, hc⟩ := exists_cons_of_decodeFrom h
        dsimp only at hb
        refine ⟨[a, b, c], _, rest, rfl, .three low high ?_ ?_ ?_ hc⟩
        · unfold IsTail
          grind
        · grind
        · grind
      | four low high =>
        rw [decodeFrom_next (Nat.lt_add_of_pos_left Nat.two_pos) hb.1 hb.2] at h
        obtain ⟨c, rest, rfl, hc⟩ := exists_cons_of_decodeFrom h
        rw [decodeFrom_next Nat.one_lt_two hc.1 hc.2] at h
        obtain ⟨d, rest, rfl, hd⟩ := exists_cons_of_decodeFrom h
        dsimp only at hb
        refine ⟨[a, b, c, d], _, rest, rfl, .four low high ?_ ?_ ?_ hc hd⟩
        · unfold IsTail
          grind
        · grind
        · grind

/-! ## The forms of the standard library -/

theorem toNat_ofNat {n : Nat} (h : n < 0xd800 ∨ 0xdfff < n ∧ n < 0x110000) :
    (Char.ofNat n).val.toNat = n := by
  rw [Char.ofNat, dif_pos h]
  rfl

theorem encode_of_form {t : List UInt8} {c : Char} (h : Form t c) :
    String.utf8EncodeChar c = t := by
  unfold String.utf8EncodeChar
  cases h with
  | one lead =>
    rw [toNat_ofNat (by omega), if_pos (by omega)]
    simp
  | two low high second =>
    obtain ⟨hb, hb'⟩ := second
    rw [toNat_ofNat (by omega), if_neg (by omega), if_pos (by omega)]
    simp only [List.cons.injEq, ← UInt8.toNat_inj, UInt8.toNat_ofNat', and_true]
    omega
  | three low high second long surrogate third =>
    obtain ⟨hb, hb'⟩ := second
    obtain ⟨hc, hc'⟩ := third
    rw [toNat_ofNat (by omega), if_neg (by omega), if_neg (by omega), if_pos (by omega)]
    simp only [List.cons.injEq, ← UInt8.toNat_inj, UInt8.toNat_ofNat', and_true]
    omega
  | four low high second long past third fourth =>
    obtain ⟨hb, hb'⟩ := second
    obtain ⟨hc, hc'⟩ := third
    obtain ⟨hd, hd'⟩ := fourth
    rw [toNat_ofNat (by omega), if_neg (by omega), if_neg (by omega), if_neg (by omega)]
    simp only [List.cons.injEq, ← UInt8.toNat_inj, UInt8.toNat_ofNat', and_true]
    omega

theorem toNat_byte {n : Nat} (h : n < 0x100) : (UInt8.ofNat n).toNat = n := by
  rw [UInt8.toNat_ofNat', Nat.mod_eq_of_lt h]

theorem form_encode (c : Char) : Form (String.utf8EncodeChar c) c := by
  have hvalid : c.val.toNat < 0xd800 ∨ 0xdfff < c.val.toNat ∧ c.val.toNat < 0x110000 := c.valid
  have hc : Char.ofNat c.val.toNat = c := Char.ofNat_toNat c
  unfold String.utf8EncodeChar
  generalize c.val.toNat = v at hvalid hc ⊢
  subst hc
  dsimp only
  split_ifs with hone htwo hthree
  · have hform := Form.one (a := UInt8.ofNat v)
    rw [toNat_byte (by omega)] at hform
    exact hform (by omega)
  · have hform := Form.two (a := UInt8.ofNat (v / 64 % 32 + 192)) (b := UInt8.ofNat (v % 64 + 128))
    unfold IsTail at hform
    rw [toNat_byte (by omega), toNat_byte (by omega),
      show (v / 64 % 32 + 192 - 0xc0) * 64 + (v % 64 + 128 - 0x80) = v by omega] at hform
    exact hform (by omega) (by omega) (by omega)
  · have hform := Form.three (a := UInt8.ofNat (v / 4096 % 16 + 224))
      (b := UInt8.ofNat (v / 64 % 64 + 128)) (c := UInt8.ofNat (v % 64 + 128))
    unfold IsTail at hform
    rw [toNat_byte (by omega), toNat_byte (by omega), toNat_byte (by omega),
      show ((v / 4096 % 16 + 224 - 0xe0) * 64 + (v / 64 % 64 + 128 - 0x80)) * 64 +
        (v % 64 + 128 - 0x80) = v by omega] at hform
    exact hform (by omega) (by omega) (by omega) (by omega) (by omega) (by omega)
  · have hform := Form.four (a := UInt8.ofNat (v / 262144 % 8 + 240))
      (b := UInt8.ofNat (v / 4096 % 64 + 128)) (c := UInt8.ofNat (v / 64 % 64 + 128))
      (d := UInt8.ofNat (v % 64 + 128))
    unfold IsTail at hform
    rw [toNat_byte (by omega), toNat_byte (by omega), toNat_byte (by omega),
      toNat_byte (by omega),
      show (((v / 262144 % 8 + 240 - 0xf0) * 64 + (v / 4096 % 64 + 128 - 0x80)) * 64 +
        (v / 64 % 64 + 128 - 0x80)) * 64 + (v % 64 + 128 - 0x80) = v by omega] at hform
    exact hform (by omega) (by omega) (by omega) (by omega) (by omega) (by omega) (by omega)

/-! ## Texts -/

theorem decodeFrom_encode (place : Nat) (done cs : List Char) :
    decodeFrom place done none (cs.flatMap String.utf8EncodeChar) = .ok (done.reverse ++ cs) := by
  induction cs generalizing place done with
  | nil => rw [List.flatMap_nil, List.append_nil, decodeFrom]
  | cons c cs ih =>
    rw [List.flatMap_cons, decodeFrom_form (form_encode c), ih, List.reverse_cons,
      List.append_assoc]
    rfl

theorem exists_encode_of_decodeFrom (h : decodeFrom place done none bytes = .ok cs) :
    ∃ ds : List Char, bytes = ds.flatMap String.utf8EncodeChar := by
  induction hlength : bytes.length using Nat.strongRecOn generalizing bytes place done with
  | _ n ih =>
    cases bytes with
    | nil => exact ⟨[], rfl⟩
    | cons a bytes =>
      obtain ⟨t, c, rest, hparts, hform⟩ := exists_form_of_decodeFrom h
      rw [hparts, decodeFrom_form hform] at h
      have hpos : 0 < t.length := by cases hform <;> exact Nat.succ_pos _
      rw [hparts, List.length_append] at hlength
      obtain ⟨ds, rfl⟩ := ih rest.length (by omega) h rfl
      exact ⟨c :: ds, by rw [hparts, List.flatMap_cons, encode_of_form hform]⟩

/-- Bytes are decoded to some characters exactly if they are the forms of these in a row. -/
theorem decode_eq_ok_iff : decode bytes = .ok cs ↔ bytes = cs.flatMap String.utf8EncodeChar := by
  constructor
  · intro h
    obtain ⟨ds, rfl⟩ := exists_encode_of_decodeFrom h
    have hds : decode (ds.flatMap String.utf8EncodeChar) = .ok ds := decodeFrom_encode 0 [] ds
    cases hds.symm.trans h
    rfl
  · rintro rfl
    exact decodeFrom_encode 0 [] cs

theorem toList_data_toUTF8 (s : String) :
    s.toUTF8.data.toList = s.toList.flatMap String.utf8EncodeChar := by
  have hbytes : s.toByteArray = s.toList.utf8Encode := by
    rw [← String.toByteArray_ofList, String.ofList_toList]
  rw [String.toUTF8_eq_toByteArray, hbytes]
  exact List.toList_data_toByteArray

/-- Decoding undoes the encoding of texts and succeeds on nothing else. -/
theorem decode_eq_toList_iff {s : String} :
    decode bytes = .ok s.toList ↔ bytes = s.toUTF8.data.toList := by
  rw [decode_eq_ok_iff, toList_data_toUTF8]

end FlowGate.Utf8
