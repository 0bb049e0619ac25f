import Mathlib.Data.Int.ConditionallyCompleteOrder
import MemoryWatchdog.Proofs.Rounding

/-!
# Rounding keeps the order

A rounding is monotone and keeps zero and one; more than that no law of the ratios needs. Rounding to the nearest 64-bit number is one
(`rounding_nearest`). Numbers with the same spacing are rounded on one grid, and between two numbers with different ones there is a power
of two, or zero, that is on both grids.
-/

namespace MemoryWatchdog

/-- A function that rounds in the order of the numbers and keeps zero and one. -/
structure Rounding (round : Rat → Rat) : Prop where
  monotone : Monotone round
  zero : round 0 = 0
  one : round 1 = 1

namespace Binary64

/-- Rounding to an integer keeps the order. -/
theorem halfEven_monotone : Monotone halfEven := by
  intro p q hpq
  by_contra h
  have hint : halfEven q + 1 ≤ halfEven p := by omega
  have hgap : (halfEven q : Rat) + 1 ≤ halfEven p := by exact_mod_cast hint
  -- Both would be halfway between the two integers, and so the same number.
  obtain ⟨hp, -⟩ := halfEven_bounds p
  obtain ⟨-, hq⟩ := halfEven_bounds q
  have heq : p = q := by linarith
  exact h (heq ▸ le_rfl)

/-! ## The grid of a number -/

/-- What is at most a point of its grid is rounded to no more than that. -/
theorem nearest_le_of_le {q g : Rat} {n : Int} (hg : g = n * spacing q) (h : q ≤ g) : nearest q ≤ g := by
  have hpos := spacing_pos q
  have hdiv : q / spacing q ≤ n := by
    rw [div_le_iff₀ hpos, ← hg]
    exact h
  have hint := halfEven_monotone hdiv
  rw [halfEven_intCast] at hint
  rw [nearest, hg]
  exact mul_le_mul_of_nonneg_right (by exact_mod_cast hint) hpos.le

/-- What is at least a point of its grid is rounded to no less than that. -/
theorem le_nearest_of_le {q g : Rat} {n : Int} (hg : g = n * spacing q) (h : g ≤ q) : g ≤ nearest q := by
  have hpos := spacing_pos q
  have hdiv : (n : Rat) ≤ q / spacing q := by
    rw [le_div_iff₀ hpos, ← hg]
    exact h
  have hint := halfEven_monotone hdiv
  rw [halfEven_intCast] at hint
  rw [nearest, hg]
  exact mul_le_mul_of_nonneg_right (by exact_mod_cast hint) hpos.le

/-- A point of its own grid is kept. -/
theorem nearest_of_multiple {q : Rat} {n : Int} (h : q = n * spacing q) : nearest q = q :=
  le_antisymm (nearest_le_of_le h le_rfl) (le_nearest_of_le h le_rfl)

/-- Numbers with one grid are rounded in their order. -/
theorem nearest_le_nearest_of_unitExponent {p q : Rat} (hunit : unitExponent p = unitExponent q) (h : p ≤ q) :
    nearest p ≤ nearest q := by
  have hspacing : spacing p = spacing q := by rw [spacing, spacing, hunit]
  have hpos := spacing_pos q
  have hint := halfEven_monotone ((div_le_div_iff_of_pos_right hpos).mpr h)
  rw [nearest, nearest, hspacing]
  exact mul_le_mul_of_nonneg_right (by exact_mod_cast hint) hpos.le

/-- A power of two that is not below the unit of a number is on its grid, and so is its negative. -/
theorem exists_multiple_of_two_zpow {q : Rat} {e : Int} (h : unitExponent q ≤ e) :
    ∃ n : Int, (2 : Rat) ^ e = n * spacing q ∧ -(2 : Rat) ^ e = (-n : Int) * spacing q := by
  have hsplit : (2 : Rat) ^ e = 2 ^ (e - unitExponent q) * spacing q := by
    rw [spacing, ← Rat.zpow_add (by decide)]
    congr 1
    omega
  have hpower : (2 : Rat) ^ (e - unitExponent q) = ((2 ^ (e - unitExponent q).toNat : Int) : Rat) := by
    have hexp : e - unitExponent q = ((e - unitExponent q).toNat : Int) := by omega
    rw [hexp, Rat.zpow_natCast]
    push_cast
    rfl
  refine ⟨2 ^ (e - unitExponent q).toNat, by rw [hsplit, hpower], ?_⟩
  rw [hsplit, hpower, Int.cast_neg, neg_mul]

/-! ## The size of a number -/

/-- The magnitude of a number is its absolute value. -/
theorem magnitudeOf_eq_abs (q : Rat) : magnitudeOf q = |q| := by
  unfold magnitudeOf
  split
  · rw [abs_of_neg ‹q < 0›]
  · rw [abs_of_nonneg (not_lt.mp ‹¬ q < 0›)]

theorem binaryExponent_neg (q : Rat) : binaryExponent (-q) = binaryExponent q := by
  simp only [binaryExponent, magnitudeOf_eq_abs, abs_neg, Rat.neg_num, Rat.neg_den, Int.natAbs_neg]

theorem binaryExponent_abs (q : Rat) : binaryExponent |q| = binaryExponent q := by
  rcases abs_choice q with h | h
  · rw [h]
  · rw [h, binaryExponent_neg]

/-- A positive number is below the power of two after its exponent. -/
theorem lt_two_zpow_binaryExponent {q : Rat} (hpos : 0 < q) : q < (2 : Rat) ^ (binaryExponent q + 1) := by
  unfold binaryExponent
  rw [magnitudeOf_eq_abs, abs_of_pos hpos]
  extract_lets e
  split
  · have hden : (0 : Rat) < q.den := by exact_mod_cast q.den_pos
    have hnum : q * q.den < (2 : Rat) ^ ((q.num.natAbs.log2 : Int) + 1) := by
      rw [Rat.mul_den_eq_num, ← Nat.cast_succ, Rat.zpow_natCast, num_eq_natAbs hpos]
      exact_mod_cast Nat.lt_log2_self
    have hlow : (2 : Rat) ^ (q.den.log2 : Int) ≤ q.den := by
      rw [Rat.zpow_natCast]
      exact_mod_cast Nat.log2_self_le q.den_nz
    have hsplit : (2 : Rat) ^ ((q.num.natAbs.log2 : Int) + 1) = 2 ^ (e + 1) * 2 ^ (q.den.log2 : Int) := by
      rw [← Rat.zpow_add (by decide)]
      congr 1
      omega
    have hpower : (0 : Rat) ≤ 2 ^ (e + 1) := (Rat.zpow_pos (by decide)).le
    rw [hsplit] at hnum
    exact lt_of_mul_lt_mul_right (hnum.trans_le (mul_le_mul_of_nonneg_left hlow hpower)) hden.le
  · rw [Int.sub_add_cancel]
    exact not_le.mp ‹_›

/-- A number other than zero lies between the powers of two that its exponent says. -/
theorem binaryExponent_bounds {q : Rat} (h : q ≠ 0) :
    (2 : Rat) ^ binaryExponent q ≤ |q| ∧ |q| < (2 : Rat) ^ (binaryExponent q + 1) := by
  have hpos := abs_pos.mpr h
  rw [← binaryExponent_abs q]
  exact ⟨two_zpow_binaryExponent_le hpos, lt_two_zpow_binaryExponent hpos⟩

/-- The larger of two numbers has no smaller exponent. -/
theorem binaryExponent_le_of_abs_le {p q : Rat} (hp : p ≠ 0) (h : |p| ≤ |q|) : binaryExponent p ≤ binaryExponent q := by
  have hq : q ≠ 0 := abs_pos.mp ((abs_pos.mpr hp).trans_le h)
  have hlt : (2 : Rat) ^ binaryExponent p < 2 ^ (binaryExponent q + 1) :=
    (binaryExponent_bounds hp).1.trans_lt (h.trans_lt (binaryExponent_bounds hq).2)
  have := (zpow_lt_zpow_iff_right₀ (by norm_num : (1 : Rat) < 2)).mp hlt
  omega

/-- If the larger of two numbers has a coarser grid, a power of two that is on both grids lies between their magnitudes. -/
theorem exists_power_between {p q : Rat} (hp : p ≠ 0) (h : |p| ≤ |q|) (hunit : unitExponent p ≠ unitExponent q) :
    ∃ e : Int, |p| ≤ 2 ^ e ∧ (2 : Rat) ^ e ≤ |q| ∧ unitExponent p ≤ e ∧ unitExponent q ≤ e := by
  have hq : q ≠ 0 := abs_pos.mp ((abs_pos.mpr hp).trans_le h)
  have hle := binaryExponent_le_of_abs_le hp h
  unfold unitExponent at hunit ⊢
  refine ⟨binaryExponent q, ?_, (binaryExponent_bounds hq).1, by omega, by omega⟩
  exact (binaryExponent_bounds hp).2.le.trans (two_zpow_le (by omega))

/-! ## Rounding to the nearest number -/

/-- Rounding to the nearest number keeps the order. -/
theorem nearest_monotone : Monotone nearest := by
  intro p q hpq
  have hzero (r : Rat) : (0 : Rat) = (0 : Int) * spacing r := by rw [Int.cast_zero, zero_mul]
  by_cases hunit : unitExponent p = unitExponent q
  · exact nearest_le_nearest_of_unitExponent hunit hpq
  · rcases lt_trichotomy p 0 with hp | rfl | hp
    · rcases le_or_gt 0 q with hq | hq
      · -- Zero lies between the two numbers.
        exact (nearest_le_of_le (hzero p) hp.le).trans (le_nearest_of_le (hzero q) hq)
      · -- Both are negative, and the negative of a power of two lies between them.
        have habs : |q| ≤ |p| := by
          rw [abs_of_neg hp, abs_of_neg hq]
          exact neg_le_neg hpq
        obtain ⟨e, hqe, hpe, hunitq, hunitp⟩ := exists_power_between hq.ne habs (Ne.symm hunit)
        rw [abs_of_neg hq] at hqe
        rw [abs_of_neg hp] at hpe
        obtain ⟨m, -, hm⟩ := exists_multiple_of_two_zpow hunitp
        obtain ⟨n, -, hn⟩ := exists_multiple_of_two_zpow hunitq
        exact (nearest_le_of_le hm (by linarith)).trans (le_nearest_of_le hn (by linarith))
    · exact (nearest_le_of_le (hzero 0) le_rfl).trans (le_nearest_of_le (hzero q) hpq)
    · -- Both are positive, and a power of two lies between them.
      have hq : 0 < q := hp.trans_le hpq
      have habs : |p| ≤ |q| := by rwa [abs_of_pos hp, abs_of_pos hq]
      obtain ⟨e, hpe, hqe, hunitp, hunitq⟩ := exists_power_between hp.ne' habs hunit
      rw [abs_of_pos hp] at hpe
      rw [abs_of_pos hq] at hqe
      obtain ⟨m, hm, -⟩ := exists_multiple_of_two_zpow hunitp
      obtain ⟨n, hn, -⟩ := exists_multiple_of_two_zpow hunitq
      exact (nearest_le_of_le hm hpe).trans (le_nearest_of_le hn hqe)

theorem nearest_one : nearest 1 = 1 := by
  have hunit : unitExponent 1 ≤ 0 := by decide +kernel
  obtain ⟨n, hn, -⟩ := exists_multiple_of_two_zpow hunit
  exact nearest_of_multiple (by simpa using hn)

/-- Rounding to the nearest number keeps the order, zero and one. -/
theorem rounding_nearest : Rounding nearest where
  monotone := nearest_monotone
  zero := nearest_zero
  one := nearest_one

end Binary64

end MemoryWatchdog
