/-!
# Binary floating-point numbers

Ratios are 64-bit binary floating-point numbers. A finite one is a sign and an exact rational magnitude, and arithmetic is
exact arithmetic followed by `Binary64.nearest`, which rounds to the nearest representable number and, halfway between two, to
the one with the even mantissa. The statements at the end say that rounding an integer quotient stays within half a unit.
-/

namespace MemoryWatchdog

/-- A 64-bit binary floating-point number: no number, an infinity, or a sign and a magnitude that is zero or positive. -/
inductive Binary64
  | nan
  | infinite (negative : Bool)
  | finite (negative : Bool) (magnitude : Rat)
  deriving DecidableEq, Repr, Inhabited

namespace Binary64

/-- The magnitude of a rational number. -/
def magnitudeOf (q : Rat) : Rat :=
  if q < 0 then -q else q

/-- The exponent `e` with `2 ^ e ≤ |q| < 2 ^ (e + 1)`, for `q` other than zero. -/
def binaryExponent (q : Rat) : Int :=
  let e : Int := (q.num.natAbs.log2 : Int) - (q.den.log2 : Int)
  if (2 : Rat) ^ e ≤ magnitudeOf q then e else e - 1

/-- The exponent of the unit that numbers of the size of `q` are multiples of. -/
def unitExponent (q : Rat) : Int :=
  max (binaryExponent q - 52) (-1074)

/-- The distance between neighbouring numbers of the size of `q`. -/
def spacing (q : Rat) : Rat :=
  (2 : Rat) ^ unitExponent q

/-- The nearest integer; halfway between two it is the even one. -/
def halfEven (q : Rat) : Int :=
  let below := q.floor
  let rest := q - below
  if rest < 1 / 2 then below
  else if 1 / 2 < rest then below + 1
  else if below % 2 = 0 then below
  else below + 1

/-- The nearest number with a 53-bit mantissa and an exponent that is not too small; halfway between two it is the one with the
even mantissa. The exponent has no upper bound here. -/
def nearest (q : Rat) : Rat :=
  (halfEven (q / spacing q) : Rat) * spacing q

/-- The first power of two that is too large for a finite number. -/
def overflow : Rat :=
  (2 : Rat) ^ (1024 : Int)

/-- The number with the given sign nearest to the magnitude. -/
def ofMagnitude (negative : Bool) (q : Rat) : Binary64 :=
  let r := nearest q
  if overflow ≤ r then .infinite negative else .finite negative r

/-- The number nearest to a rational number. -/
def ofRat (q : Rat) : Binary64 :=
  ofMagnitude (decide (q < 0)) (magnitudeOf q)

/-- The number nearest to a natural number. -/
def ofNat (n : Nat) : Binary64 :=
  ofRat (n : Rat)

/-- How many decimal digits a natural number is written with. -/
def digitCount (n : Nat) : Nat :=
  (Nat.toDigits 10 n).length

/-- The number nearest to `digits · 10 ^ exponent`, with the given sign. Numbers that are far outside the range are decided by
their size alone, so that no huge power is computed. -/
def ofDecimal (negative : Bool) (digits : Nat) (exponent : Int) : Binary64 :=
  let size := (digitCount digits : Int) + exponent
  if digits = 0 || size < -330 then .finite negative 0
  else if 310 < size then .infinite negative
  else ofMagnitude negative ((digits : Rat) * (10 : Rat) ^ exponent)

/-- The signed value of a sign and a magnitude. -/
def signed (negative : Bool) (magnitude : Rat) : Rat :=
  if negative then -magnitude else magnitude

def isFinite : Binary64 → Bool
  | .finite .. => true
  | _ => false

/-- Whether the first number is less than the second. No comparison with no number holds, and the zeros are equal. -/
def lt : Binary64 → Binary64 → Bool
  | .nan, _ => false
  | _, .nan => false
  | .infinite a, .infinite b => a && !b
  | .infinite a, .finite .. => a
  | .finite .., .infinite b => !b
  | .finite a m, .finite b n => decide (signed a m < signed b n)

/-- Whether the number is finite and not below zero. -/
def isNonNegative : Binary64 → Bool
  | .finite a m => decide (0 ≤ signed a m)
  | _ => false

/-- The least mantissa that uses all 53 bits, `2 ^ 52`. -/
def leastFullMantissa : Nat :=
  0x10000000000000

/-- The sign's bit in a 64-bit pattern, `2 ^ 63`. -/
def signBit : Nat :=
  0x8000000000000000

/-- The 64-bit pattern: sign, biased exponent, fraction. -/
def toBits : Binary64 → Nat
  | .nan => 0x7ff8000000000000
  | .infinite negative => 0x7ff0000000000000 + if negative then signBit else 0
  | .finite negative m =>
    let e := unitExponent m
    let mantissa := (m / (2 : Rat) ^ e).num.toNat
    let size := if mantissa < leastFullMantissa then mantissa
      else (e + 1075).toNat * leastFullMantissa + (mantissa - leastFullMantissa)
    (if m = 0 then 0 else size) + if negative then signBit else 0

/-- Rounding to an integer is off by at most one half. -/
theorem halfEven_bounds (q : Rat) : (halfEven q : Rat) - 1 / 2 ≤ q ∧ q ≤ (halfEven q : Rat) + 1 / 2 := by
  have h1 := Rat.floor_le q
  have h2 : q - 1 < (q.floor : Rat) := Rat.lt_floor
  have h3 : ((q.floor + 1 : Int) : Rat) = (q.floor : Rat) + 1 := Rat.intCast_add _ _
  unfold halfEven
  dsimp only
  split
  · grind
  · split
    · rw [h3]
      grind
    · split
      · grind
      · rw [h3]
        grind

/-- An integer is not changed by the rounding. -/
theorem halfEven_intCast (n : Int) : halfEven (n : Rat) = n := by
  have h : (n : Rat) - (n : Rat) < 1 / 2 := by grind
  rw [halfEven, Rat.floor_intCast]
  exact if_pos h

@[simp] theorem nearest_zero : nearest 0 = 0 := by
  have h : (0 : Rat) / spacing 0 = ((0 : Int) : Rat) := by
    rw [Rat.div_def, Rat.zero_mul]
    rfl
  rw [nearest, h, halfEven_intCast]
  exact Rat.zero_mul _

end Binary64

end MemoryWatchdog
