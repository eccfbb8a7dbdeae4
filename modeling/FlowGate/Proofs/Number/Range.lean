import FlowGate.Number.Double
import Mathlib.Algebra.Order.Ring.Int
import Mathlib.Algebra.Order.Ring.Nat

/-!
# The range of doubles

The last double is `2 ^ 1024 - 2 ^ 971`, and the step before it `2 ^ 971`. An integer has no nearest
finite double exactly if its distance from the last one is half of that step or more
(`Double.ofInt?_eq_none_iff`); a tie is rounded away, since the last place is odd. The other way
round, a double is an integer exactly if it is a whole multiple of the units that make up one
(`Double.toInt?_eq_some_iff`).
-/

namespace FlowGate.Double

theorem divNearest_bounds (num den : Nat) :
    num / den ≤ divNearest num den ∧ divNearest num den ≤ num / den + 1 := by
  unfold divNearest
  dsimp only
  split
  · omega
  · split <;> omega

/-- The scale of a positive integer leaves 53 binary digits. -/
theorem scaleOf_one {n : Nat} (h : n ≠ 0) : scaleOf n 1 = (n.log2 : Int) - 52 := by
  have hle : 2 ^ n.log2 ≤ n := Nat.log2_self_le h
  have hlog : Nat.log2 1 = 0 := by decide
  have hexp : (-((n.log2 : Int) - 0 - 53 + 53)).toNat = 0 := by omega
  have hexp' : ((n.log2 : Int) - 0 - 53 + 53).toNat = n.log2 := by omega
  unfold scaleOf
  simp only [hlog, Nat.cast_zero, hexp, hexp', Nat.pow_eq, pow_zero, mul_one, one_mul]
  rw [if_neg (Nat.not_lt.2 hle)]
  omega

theorem nearestPlace_one {n : Nat} (h : n ≠ 0) :
    nearestPlace n 1 = (n.log2 + 1022) * binade +
      divNearest (n * 2 ^ (52 - n.log2)) (2 ^ (n.log2 - 52)) := by
  have hplace : ((n.log2 : Int) - 52 + 1074).toNat = n.log2 + 1022 := by omega
  have hup : (-((n.log2 : Int) - 52)).toNat = 52 - n.log2 := by omega
  have hdown : ((n.log2 : Int) - 52).toNat = n.log2 - 52 := by omega
  unfold nearestPlace
  rw [if_neg h, scaleOf_one h]
  simp only [hplace, hup, hdown, Nat.pow_eq, one_mul]

/-- The digits that a scale leaves are 53 at most. -/
theorem scaled_lt (n : Nat) : n * 2 ^ (52 - n.log2) / 2 ^ (n.log2 - 52) < 2 ^ 53 := by
  have hlt : n < 2 ^ (n.log2 + 1) := Nat.lt_log2_self
  rw [Nat.div_lt_iff_lt_mul (Nat.two_pow_pos _), ← pow_add]
  have hpow : 2 ^ (n.log2 + 1) * 2 ^ (52 - n.log2) = 2 ^ (53 + (n.log2 - 52)) := by
    rw [← pow_add]
    congr 1
    omega
  rw [← hpow]
  exact Nat.mul_lt_mul_of_pos_right hlt (Nat.two_pow_pos _)

/-- A quotient of 53 binary digits is rounded to one more digit from half a unit below it on. -/
theorem le_divNearest_iff {n m : Nat} (hm : 0 < m) (hn : n < 2 ^ 53 * (2 * m)) :
    2 ^ 53 ≤ divNearest n (2 * m) ↔ 2 ^ 53 * (2 * m) - m ≤ n := by
  have hdiv := Nat.div_add_mod n (2 * m)
  have hmod := Nat.mod_lt n (show 0 < 2 * m by omega)
  have hq : n / (2 * m) < 2 ^ 53 := (Nat.div_lt_iff_lt_mul (by omega)).2 hn
  unfold divNearest
  dsimp only
  generalize n / (2 * m) = q at *
  generalize n % (2 * m) = r at *
  obtain rfl | hq : q = 2 ^ 53 - 1 ∨ q ≤ 2 ^ 53 - 2 := by omega
  · -- the quotient is odd, so a tie goes past the end
    split
    · omega
    · split <;> omega
  · have hle : 2 * m * q ≤ 2 * m * (2 ^ 53 - 2) := Nat.mul_le_mul_left _ hq
    split
    · omega
    · split <;> omega

/-! Everything is measured in halves of the step between the last doubles. -/

private theorem pow_1024 : 2 ^ 1024 = 2 ^ 53 * (2 * 2 ^ 970) := by rw [← pow_succ', ← pow_add]

private theorem pow_1023 : 2 ^ 1023 = 2 ^ 53 * 2 ^ 970 := by rw [← pow_add]

theorem nearestPlace_lt_limit {n : Nat} (h : n ≠ 0) (hlog : n.log2 ≤ 1022) :
    nearestPlace n 1 < limit := by
  have hlimit : limit = 2047 * 2 ^ 52 := rfl
  have hbinade : binade = 2 ^ 52 := rfl
  have hdigits := (divNearest_bounds (n * 2 ^ (52 - n.log2)) (2 ^ (n.log2 - 52))).2
  have hscaled := scaled_lt n
  rw [nearestPlace_one h, hlimit, hbinade]
  omega

theorem limit_le_nearestPlace {n : Nat} (h : n ≠ 0) (hlog : 1024 ≤ n.log2) :
    limit ≤ nearestPlace n 1 := by
  have hlimit : limit = 2047 * 2 ^ 52 := rfl
  have hbinade : binade = 2 ^ 52 := rfl
  have hup : n * 2 ^ (52 - n.log2) = n := by
    have hzero : 52 - n.log2 = 0 := by omega
    rw [hzero, pow_zero, mul_one]
  have hscaled : 2 ^ 52 ≤ n / 2 ^ (n.log2 - 52) := by
    have hexp : 52 + (n.log2 - 52) = n.log2 := by omega
    rw [Nat.le_div_iff_mul_le (Nat.two_pow_pos _), ← pow_add, hexp]
    exact Nat.log2_self_le h
  have hdigits := (divNearest_bounds n (2 ^ (n.log2 - 52))).1
  rw [nearestPlace_one h, hlimit, hbinade, hup]
  omega

/-- In the last binade the rounding decides. -/
theorem limit_le_nearestPlace_iff_of_log2 {n : Nat} (hlog : n.log2 = 1023) :
    limit ≤ nearestPlace n 1 ↔ 2 ^ 1024 - 2 ^ 970 ≤ n := by
  have hne : n ≠ 0 := by
    rintro rfl
    cases hlog
  have hlimit : limit = 2047 * 2 ^ 52 := rfl
  have hbinade : binade = 2 ^ 52 := rfl
  have hdown : 2 ^ (n.log2 - 52) = 2 * 2 ^ 970 := by rw [hlog, ← pow_succ']
  have hup : n * 2 ^ (52 - n.log2) = n := by rw [hlog, pow_zero, mul_one]
  have hpos : 0 < 2 ^ 970 := pow_pos Nat.two_pos 970
  have hn : n < 2 ^ 53 * (2 * 2 ^ 970) := by
    have hnext : n.log2 + 1 = 1024 := by omega
    have hlt : n < 2 ^ (n.log2 + 1) := Nat.lt_log2_self
    rwa [hnext, pow_1024] at hlt
  rw [nearestPlace_one hne, hlimit, hbinade, hup, hdown, pow_1024, ← le_divNearest_iff hpos hn,
    hlog]
  omega

theorem limit_le_nearestPlace_iff {n : Nat} (h : n ≠ 0) :
    limit ≤ nearestPlace n 1 ↔ 2 ^ 1024 - 2 ^ 970 ≤ n := by
  obtain hlog | hlog | hlog : n.log2 ≤ 1022 ∨ n.log2 = 1023 ∨ 1024 ≤ n.log2 := by omega
  · have hplace := nearestPlace_lt_limit h hlog
    have hlt : n < 2 ^ (n.log2 + 1) := Nat.lt_log2_self
    have hpow : 2 ^ (n.log2 + 1) ≤ 2 ^ 1023 := by
      apply Nat.pow_le_pow_right
      · decide
      · omega
    rw [pow_1023] at hpow
    rw [pow_1024]
    generalize 2 ^ 970 = m at *
    omega
  · exact limit_le_nearestPlace_iff_of_log2 hlog
  · have hplace := limit_le_nearestPlace h hlog
    have hle : 2 ^ n.log2 ≤ n := Nat.log2_self_le h
    have hpow : 2 ^ 1024 ≤ 2 ^ n.log2 := by
      apply Nat.pow_le_pow_right
      · decide
      · exact hlog
    rw [pow_1024] at hpow ⊢
    generalize 2 ^ 970 = m at *
    omega

/-- An integer has no nearest double exactly from half a step above the last one on. -/
theorem ofInt?_eq_none_iff (n : Int) : ofInt? n = none ↔ 2 ^ 1024 - 2 ^ 970 ≤ n.natAbs := by
  have hsmall : ¬ 2 ^ 1024 - 2 ^ 970 ≤ (0 : Int).natAbs := by
    have hpos : 0 < 2 ^ 970 := pow_pos Nat.two_pos 970
    rw [pow_1024]
    generalize 2 ^ 970 = m at *
    omega
  unfold ofInt?
  dsimp only
  by_cases h : n = 0
  · subst h
    simp only [hsmall, iff_false]
    decide
  · rw [← limit_le_nearestPlace_iff (Int.natAbs_ne_zero.2 h)]
    split
    · next hlt => simp only [reduceCtorEq, false_iff, Nat.not_le]; exact hlt
    · next hnot => simp only [true_iff]; exact Nat.not_lt.1 hnot

/-! ## Integral doubles -/

theorem neg_le_exponent (place : Nat) : -1074 ≤ exponent place := by
  unfold exponent
  split
  · exact le_rfl
  · next h =>
    have hpos : 0 < binade := Nat.two_pow_pos 52
    have hone : 1 ≤ place / binade := (Nat.one_le_div_iff hpos).2 (Nat.not_lt.1 h)
    omega

theorem units_of_mod {s : Nat} {e : Int} (he : -1074 ≤ e) (h : s % 2 ^ (-e).toNat = 0) :
    s * 2 ^ (e + 1074).toNat = s / 2 ^ (-e).toNat * 2 ^ e.toNat * 2 ^ 1074 := by
  have hexp : (-e).toNat + (e + 1074).toNat = e.toNat + 1074 := by omega
  calc s * 2 ^ (e + 1074).toNat
      = s / 2 ^ (-e).toNat * 2 ^ (-e).toNat * 2 ^ (e + 1074).toNat := by
        rw [Nat.div_mul_cancel (Nat.dvd_of_mod_eq_zero h)]
    _ = s / 2 ^ (-e).toNat * 2 ^ e.toNat * 2 ^ 1074 := by
        rw [Nat.mul_assoc, ← pow_add, hexp, pow_add, Nat.mul_assoc]

theorem mod_eq_zero_of_dvd {s : Nat} {e : Int} (he : -1074 ≤ e)
    (h : 2 ^ 1074 ∣ s * 2 ^ (e + 1074).toNat) : s % 2 ^ (-e).toNat = 0 := by
  obtain hneg | hnonneg : e < 0 ∨ 0 ≤ e := by omega
  · have hexp : 1074 = (-e).toNat + (e + 1074).toNat := by omega
    have hpow : 2 ^ 1074 = 2 ^ (-e).toNat * 2 ^ (e + 1074).toNat := by rw [← pow_add, ← hexp]
    rw [hpow] at h
    exact Nat.mod_eq_zero_of_dvd (Nat.dvd_of_mul_dvd_mul_right (Nat.two_pow_pos _) h)
  · have hzero : (-e).toNat = 0 := by omega
    rw [hzero, pow_zero, Nat.mod_one]

theorem natAbs_signed (negative : Bool) (m : Nat) :
    (if negative then -(m : Int) else m).natAbs = m := by
  cases negative <;> simp

theorem signed_mul (negative : Bool) (m k : Nat) :
    (if negative then -((m * k : Nat) : Int) else (m * k : Nat)) =
      (if negative then -(m : Int) else m) * k := by
  cases negative <;> simp

theorem toInt?_eq_some_iff {x : Double} {n : Int} :
    x.toInt? = some n ↔ x.units? = some (n * 2 ^ 1074) := by
  have hcast : (2 ^ 1074 : Int) = (2 ^ 1074 : Nat) := (Nat.cast_pow 2 1074).symm
  rw [hcast]
  cases x with
  | nan => exact iff_of_false nofun nofun
  | infinite negative => exact iff_of_false nofun nofun
  | finite negative place =>
    have he := neg_le_exponent place
    unfold toInt? units?
    simp only [Nat.pow_eq, Option.some.injEq]
    generalize significand place = s
    generalize exponent place = e at he ⊢
    split
    · next hmod =>
      have hne : ((2 ^ 1074 : Nat) : Int) ≠ 0 := hcast ▸ pow_ne_zero 1074 two_ne_zero
      rw [units_of_mod he hmod, signed_mul negative _ (2 ^ 1074), Option.some.injEq]
      exact (mul_left_inj' hne).symm
    · next hmod =>
      refine iff_of_false nofun fun hn => hmod (mod_eq_zero_of_dvd he ?_)
      rw [← natAbs_signed negative (s * _), hn, Int.natAbs_mul, Int.natAbs_natCast]
      exact Nat.dvd_mul_left _ _

end FlowGate.Double
