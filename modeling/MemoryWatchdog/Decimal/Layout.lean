import MemoryWatchdog.Decimal.Shortest

/-!
# How numbers are written

The digits of `Decimal.shortest` are laid out in one of three ways. Descriptions write every number positionally and a whole
number without a point; diagnostics of the settings file add a point and a zero to a whole number; JSON also does, and writes
very large and very small numbers with an exponent.
-/

namespace MemoryWatchdog

namespace Decimal

/-- The decimal digits of a natural number. -/
def digitsOf (n : Nat) : List Char :=
  Nat.toDigits 10 n

/-- The digits in front of the point and behind it. -/
def positionalParts (d : Decimal) : List Char × List Char :=
  let ds := digitsOf d.digits
  if 0 ≤ d.exponent then (ds ++ List.replicate d.exponent.toNat '0', [])
  else
    let places := (-d.exponent).toNat
    if places < ds.length then (ds.take (ds.length - places), ds.drop (ds.length - places))
    else (['0'], List.replicate (places - ds.length) '0' ++ ds)

/-- The decimal in positional notation, a whole number without a point. -/
def positional (d : Decimal) : String :=
  match d.positionalParts with
  | (whole, []) => String.ofList whole
  | (whole, places) => String.ofList whole ++ "." ++ String.ofList places

/-- The decimal in positional notation, always with a point. -/
def positionalWithPoint (d : Decimal) : String :=
  match d.positionalParts with
  | (whole, []) => String.ofList whole ++ ".0"
  | (whole, places) => String.ofList whole ++ "." ++ String.ofList places

/-- The exponent of the first digit. -/
def leadingExponent (d : Decimal) : Int :=
  d.exponent + (digitsOf d.digits).length - 1

/-- The decimal with one digit in front of the point and a signed exponent. -/
def scientific (d : Decimal) : String :=
  let e := d.leadingExponent
  let exponent := (if e < 0 then "e-" else "e+") ++ toString e.natAbs
  match digitsOf d.digits with
  | [] => "0" ++ exponent
  | [c] => String.ofList [c] ++ exponent
  | c :: cs => String.ofList (c :: '.' :: cs) ++ exponent

end Decimal

namespace Binary64

/-- The sign in front of a number. -/
def signText (negative : Bool) : String :=
  if negative then "-" else ""

/-- The number as a description shows it: positional, never with an exponent. Of two nearest decimals the larger is taken. -/
def display : Binary64 → String
  | .nan => "NaN"
  | .infinite negative => signText negative ++ "inf"
  | .finite negative m =>
    signText negative ++ if m = 0 then "0" else (Decimal.shortest .upward m).positional

/-- The number as a diagnostic of the settings file shows it: like `display`, a whole number with a point and a zero. -/
def displayWithPoint : Binary64 → String
  | .finite negative m =>
    signText negative ++ if m = 0 then "0.0" else (Decimal.shortest .upward m).positionalWithPoint
  | x => x.display

/-- The number in JSON: positional from `10 ^ -5` up to `10 ^ 16` and always with a point, otherwise with an exponent. JSON has no
infinities and no sign for "no number", so these are null. Of two nearest decimals the even one is taken. -/
def json : Binary64 → String
  | .finite negative m =>
    signText negative ++
      if m = 0 then "0.0"
      else
        let d := Decimal.shortest .toEven m
        if -5 ≤ d.leadingExponent ∧ d.leadingExponent < 16 then d.positionalWithPoint else d.scientific
  | _ => "null"

end Binary64

end MemoryWatchdog
