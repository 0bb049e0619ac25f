/-!
# Sums and products that stay in bounds

An amount that would pass the greatest number stays at it.
-/

namespace MemoryWatchdog

/-- The sum, or the greatest number if that is less. -/
def saturatingAdd (a b : UInt64) : UInt64 :=
  .ofNat (min (a.toNat + b.toNat) (UInt64.size - 1))

/-- The product, or the greatest number if that is less. -/
def saturatingMul (a b : UInt64) : UInt64 :=
  .ofNat (min (a.toNat * b.toNat) (UInt64.size - 1))

theorem toNat_ofNat_min (n : Nat) : (UInt64.ofNat (min n (UInt64.size - 1))).toNat = min n (UInt64.size - 1) :=
  UInt64.toNat_ofNat_of_lt' (Nat.lt_of_le_of_lt (Nat.min_le_right n _) (by decide))

/-- The sum without bounds, or the greatest number if that is less. -/
theorem toNat_saturatingAdd (a b : UInt64) : (saturatingAdd a b).toNat = min (a.toNat + b.toNat) (UInt64.size - 1) :=
  toNat_ofNat_min _

/-- The product without bounds, or the greatest number if that is less. -/
theorem toNat_saturatingMul (a b : UInt64) : (saturatingMul a b).toNat = min (a.toNat * b.toNat) (UInt64.size - 1) :=
  toNat_ofNat_min _

end MemoryWatchdog
