import Mathlib.Algebra.Order.Field.Rat
import Mathlib.Data.Nat.Digits.Defs
import Mathlib.Tactic.Linarith
import Mathlib.Tactic.Positivity
import MemoryWatchdog.Binary64

/-!
# Rounding decimals

`Binary64.ofDecimal` decides decimals that are far outside the range of numbers by their size, without computing them. This makes no
difference: a decimal is always rounded to the number nearest to its exact value (`ofDecimal_eq`). A value below half of the smallest
distance between two numbers is rounded to zero, and rounding leaves at least half of a value that is not below one, so that a value far
above the greatest number is rounded to an infinity.
-/

namespace MemoryWatchdog.Binary64

theorem spacing_pos (q : Rat) : 0 < spacing q :=
  Rat.zpow_pos (by decide)

theorem two_zpow_le {a b : Int} (h : a ≤ b) : (2 : Rat) ^ a ≤ (2 : Rat) ^ b :=
  zpow_le_zpow_right₀ (by norm_num) h

theorem one_le_overflow : 1 ≤ overflow :=
  two_zpow_le (a := 0) (b := 1024) (by decide)

theorem num_eq_natAbs {q : Rat} (hpos : 0 < q) : (q.num : Rat) = q.num.natAbs := by
  rw [Nat.cast_natAbs, abs_of_pos (Rat.num_pos.mpr hpos)]

/-- The exponent of a positive number is not too large for it. -/
theorem two_zpow_binaryExponent_le {q : Rat} (hpos : 0 < q) : (2 : Rat) ^ binaryExponent q ≤ q := by
  have hmagnitude : magnitudeOf q = q := if_neg (not_lt.mpr hpos.le)
  unfold binaryExponent
  rw [hmagnitude]
  extract_lets e
  split
  · assumption
  · have hnum : (2 : Rat) ^ (q.num.natAbs.log2 : Int) ≤ q * q.den := by
      rw [Rat.mul_den_eq_num, Rat.zpow_natCast, num_eq_natAbs hpos]
      exact_mod_cast Nat.log2_self_le (Int.natAbs_ne_zero.mpr (Rat.num_ne_zero.mpr hpos.ne'))
    have hden : (q.den : Rat) ≤ (2 : Rat) ^ ((q.den.log2 : Int) + 1) := by
      rw [← Nat.cast_succ, Rat.zpow_natCast]
      exact_mod_cast Nat.lt_log2_self.le
    have hsplit : (2 : Rat) ^ (q.num.natAbs.log2 : Int) = 2 ^ (e - 1) * 2 ^ ((q.den.log2 : Int) + 1) := by
      rw [← Rat.zpow_add (by decide)]
      congr 1
      omega
    have hscaled := hnum.trans (mul_le_mul_of_nonneg_left hden hpos.le)
    rw [hsplit] at hscaled
    exact le_of_mul_le_mul_right hscaled (Rat.zpow_pos (by decide))

/-- Numbers below half of the smallest distance between two numbers are rounded to zero. -/
theorem nearest_of_small {q : Rat} (hpos : 0 ≤ q) (hsmall : q < (2 : Rat) ^ (-1075 : Int)) : nearest q = 0 := by
  have hspacing : 0 < spacing q := spacing_pos q
  have hleast : (2 : Rat) ^ (-1075 : Int) * 2 ≤ spacing q := by
    rw [← Rat.zpow_add_one (by decide)]
    exact two_zpow_le (le_max_right _ _)
  have hlow : 0 ≤ q / spacing q := by positivity
  have hhigh : q / spacing q < 1 / 2 := by
    rw [div_lt_div_iff₀ hspacing (by norm_num)]
    linarith
  obtain ⟨hbelow, habove⟩ := halfEven_bounds (q / spacing q)
  have hlt : halfEven (q / spacing q) < 1 := by
    have h : (halfEven (q / spacing q) : Rat) < 1 := by linarith
    exact_mod_cast h
  have hgt : -1 < halfEven (q / spacing q) := by
    have h : (-1 : Rat) < halfEven (q / spacing q) := by linarith
    exact_mod_cast h
  have hinteger : halfEven (q / spacing q) = 0 := by omega
  rw [nearest, hinteger, Int.cast_zero, zero_mul]

/-- Rounding leaves at least half of a number that is not too small. -/
theorem half_le_nearest {q : Rat} (hone : 1 ≤ q) : q / 2 ≤ nearest q := by
  have hpos := spacing_pos q
  have hspacing : spacing q ≤ q := by
    unfold spacing unitExponent
    rcases le_total (binaryExponent q - 52) (-1074) with h | h
    · rw [max_eq_right h]
      exact (two_zpow_le (b := 0) (by decide)).trans hone
    · rw [max_eq_left h]
      exact (two_zpow_le (by omega)).trans (two_zpow_binaryExponent_le (by linarith))
  obtain ⟨-, habove⟩ := halfEven_bounds (q / spacing q)
  have h := mul_le_mul_of_nonneg_right habove hpos.le
  rw [div_mul_cancel₀ _ hpos.ne', add_mul] at h
  rw [nearest]
  linarith

/-- What is less than half of the least number is rounded to zero. -/
theorem ofMagnitude_of_small (negative : Bool) {q : Rat} (hpos : 0 ≤ q) (hsmall : q < (2 : Rat) ^ (-1075 : Int)) :
    ofMagnitude negative q = .finite negative 0 := by
  have hfinite : ¬ overflow ≤ 0 := not_le.mpr (lt_of_lt_of_le one_pos one_le_overflow)
  simp only [ofMagnitude, nearest_of_small hpos hsmall, if_neg hfinite]

/-- What is twice as large as the first that is too large is rounded to infinity. -/
theorem ofMagnitude_of_large (negative : Bool) {q : Rat} (hlarge : 2 * overflow ≤ q) : ofMagnitude negative q = .infinite negative := by
  have hone := one_le_overflow
  have h := half_le_nearest (q := q) (by linarith)
  exact if_pos (by linarith)

/-- The number of digits is the decimal order of magnitude. -/
theorem digitCount_bounds {n : Nat} (hpos : 0 < n) : 10 ^ (digitCount n - 1) ≤ n ∧ n < 10 ^ digitCount n := by
  have hiff (k : Nat) (hk : 0 < k) : digitCount n ≤ k ↔ n < 10 ^ k := Nat.length_toDigits_le_iff (by decide) hk
  have hcount : 0 < digitCount n := Nat.length_toDigits_pos
  refine ⟨?_, (hiff _ hcount).mp le_rfl⟩
  rcases Nat.eq_zero_or_pos (digitCount n - 1) with hone | hmore
  · rw [hone]
    exact hpos
  · by_contra hlt
    have := (hiff _ hmore).mpr (by omega)
    omega

/-- A decimal is rounded to the nearest number, however large or small it is. -/
theorem ofDecimal_eq (negative : Bool) (digits : Nat) (exponent : Int) :
    ofDecimal negative digits exponent = ofMagnitude negative ((digits : Rat) * (10 : Rat) ^ exponent) := by
  have hten : (0 : Rat) < (10 : Rat) ^ exponent := Rat.zpow_pos (by decide)
  rcases Nat.eq_zero_or_pos digits with rfl | hdigits
  · rw [Nat.cast_zero, zero_mul, ofMagnitude_of_small negative le_rfl (Rat.zpow_pos (by decide))]
    rfl
  · obtain ⟨hlow, hhigh⟩ := digitCount_bounds hdigits
    unfold ofDecimal
    extract_lets size
    by_cases hsmall : size < -330
    · have hvalue : (digits : Rat) * 10 ^ exponent < 2 ^ (-1075 : Int) :=
        calc (digits : Rat) * 10 ^ exponent
            ≤ (10 : Rat) ^ (digitCount digits : Int) * 10 ^ exponent := by
              rw [Rat.zpow_natCast]
              exact mul_le_mul_of_nonneg_right (by exact_mod_cast hhigh.le) hten.le
          _ = (10 : Rat) ^ size := (Rat.zpow_add (by decide) _ _).symm
          _ ≤ (10 : Rat) ^ (-331 : Int) := zpow_le_zpow_right₀ (by norm_num) (by omega)
          _ < 2 ^ (-1075 : Int) := by decide +kernel
      rw [if_pos (by simp [hsmall]), ofMagnitude_of_small negative (by positivity) hvalue]
    · rw [if_neg (by simp [hsmall, hdigits.ne'])]
      by_cases hlarge : 310 < size
      · have hvalue : 2 * overflow ≤ (digits : Rat) * 10 ^ exponent :=
          calc 2 * overflow
              ≤ (10 : Rat) ^ (310 : Int) := by decide +kernel
            _ ≤ (10 : Rat) ^ (((digitCount digits - 1 : Nat) : Int) + exponent) :=
              zpow_le_zpow_right₀ (by norm_num) (by omega)
            _ = (10 : Rat) ^ ((digitCount digits - 1 : Nat) : Int) * 10 ^ exponent := Rat.zpow_add (by decide) _ _
            _ ≤ (digits : Rat) * 10 ^ exponent := by
              rw [Rat.zpow_natCast]
              exact mul_le_mul_of_nonneg_right (by exact_mod_cast hlow) hten.le
        rw [if_pos hlarge, ofMagnitude_of_large negative hvalue]
      · rw [if_neg hlarge]

end MemoryWatchdog.Binary64
