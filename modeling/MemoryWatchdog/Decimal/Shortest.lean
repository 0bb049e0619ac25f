import MemoryWatchdog.Binary64

/-!
# The fewest decimal digits that read back

A finite number other than zero is written with the fewest decimal digits that read back to it: among the decimals with that many
digits that round to the number, the nearest one is taken. `Decimal.shortest` looks at the grids of 1, 2, … 17 digits in turn. On
each grid only the two neighbours of the number matter, because if any point of a grid lies in the interval that rounds to the
number then one of those two does.
-/

namespace MemoryWatchdog

/-- The decimal number `digits · 10 ^ exponent`. -/
structure Decimal where
  digits : Nat
  exponent : Int
  deriving DecidableEq, Repr, Inhabited

namespace Decimal

/-- Which of two decimals is taken when both are equally near. -/
inductive Tie
  | upward
  | toEven
  deriving DecidableEq, Repr

/-- The value of a decimal. -/
def toRat (d : Decimal) : Rat :=
  (d.digits : Rat) * (10 : Rat) ^ d.exponent

/-- The exponent `e` with `10 ^ e ≤ q < 10 ^ (e + 1)`, for positive `q`. -/
def decimalExponent (q : Rat) : Int :=
  let e : Int := (Binary64.digitCount q.num.natAbs : Int) - (Binary64.digitCount q.den : Int)
  if (10 : Rat) ^ e ≤ q then e else e - 1

/-- The numbers that round to one number: the two ends and whether the ends themselves belong. -/
structure Interval where
  low : Rat
  high : Rat
  closed : Bool

/-- Whether a number lies in the interval. -/
def Interval.contains (i : Interval) (q : Rat) : Bool :=
  (decide (i.low < q) && decide (q < i.high)) || (i.closed && (q == i.low || q == i.high))

/-- The interval that rounds to a positive finite number. Below a power of two the neighbour is half as far, and the ends belong
to the number when its mantissa is even. -/
def Interval.around (q : Rat) : Interval :=
  let unit := Binary64.spacing q
  let mantissa := (q / unit).num.toNat
  let lowGap := if mantissa = Binary64.leastFullMantissa && decide (-1074 < Binary64.unitExponent q) then unit / 4 else unit / 2
  ⟨q - lowGap, q + unit / 2, mantissa % 2 == 0⟩

/-- The neighbour of `q` among the multiples of `10 ^ exponent` that lies in the interval, the nearer one if both do. -/
def onGrid? (tie : Tie) (i : Interval) (q : Rat) (exponent : Int) : Option Decimal :=
  let unit := (10 : Rat) ^ exponent
  let below := (q / unit).floor.toNat
  let low : Decimal := ⟨below, exponent⟩
  let high : Decimal := ⟨below + 1, exponent⟩
  match i.contains low.toRat, i.contains high.toRat with
  | false, false => none
  | true, false => some low
  | false, true => some high
  | true, true =>
    let down := q - low.toRat
    let up := high.toRat - q
    if down < up then some low
    else if up < down then some high
    else match tie with
      | .upward => some high
      | .toEven => some (if below % 2 = 0 then low else high)

/-- The same number without zeros at the end of its digits. -/
def stripZeros (digits : Nat) (exponent : Int) : Decimal :=
  if h : digits ≠ 0 ∧ digits % 10 = 0 then stripZeros (digits / 10) (exponent + 1) else ⟨digits, exponent⟩
termination_by digits
decreasing_by omega

/-- The decimal with the fewest digits that rounds to a positive finite number. -/
def shortest (tie : Tie) (q : Rat) : Decimal :=
  let i := Interval.around q
  let top := decimalExponent q
  match (List.range 17).findSome? fun k => onGrid? tie i q (top - (k : Nat)) with
  | some d => stripZeros d.digits d.exponent
  | none => ⟨0, 0⟩

end Decimal

end MemoryWatchdog
