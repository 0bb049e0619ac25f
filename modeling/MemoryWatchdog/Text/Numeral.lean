import MemoryWatchdog.Binary64

/-!
# Reading numbers

An unsigned numeral is an optional plus and ASCII digits that denote a number below a bound. A real numeral is an optional sign
and either a word for an infinity or for no number, or digits with an optional point and an optional exponent, at least one digit
in front of the exponent. Nothing else is a numeral: no blanks, no separators, no other digits.
-/

namespace MemoryWatchdog.Text

/-- The number that the digits denote, read on after the number in front of them. -/
def appendDigits (n : Nat) (ds : List Char) : Nat :=
  ds.foldl (fun n d => 10 * n + (d.toNat - 48)) n

/-- Digits in front of the first other character, and the rest. -/
def spanDigits (cs : List Char) : List Char × List Char :=
  (cs.takeWhile Char.isDigit, cs.dropWhile Char.isDigit)

/-- The number below the bound that an unsigned numeral denotes. -/
def readUnsigned? (bound : Nat) (cs : List Char) : Option Nat :=
  let ds := match cs with
    | '+' :: rest => rest
    | cs => cs
  let n := appendDigits 0 ds
  if !ds.isEmpty && ds.all Char.isDigit && decide (n < bound) then some n else none

/-- An optional sign, and the rest. -/
def readSign : List Char → Bool × List Char
  | '-' :: rest => (true, rest)
  | '+' :: rest => (false, rest)
  | cs => (false, cs)

/-- The exponent that ends a numeral: nothing, or the letter, an optional sign and at least one digit. -/
def readExponent? : List Char → Option Int
  | [] => some 0
  | c :: rest =>
    if c = 'e' ∨ c = 'E' then
      let (negative, ds) := readSign rest
      if !ds.isEmpty && ds.all Char.isDigit then
        let n : Int := appendDigits 0 ds
        some (if negative then -n else n)
      else none
    else none

/-- The number that digits with an optional point and an optional exponent denote. -/
def readDecimal? (negative : Bool) (cs : List Char) : Option Binary64 :=
  let (whole, rest) := spanDigits cs
  let (places, rest) := match rest with
    | '.' :: rest => spanDigits rest
    | rest => ([], rest)
  if whole.isEmpty && places.isEmpty then none
  else (readExponent? rest).map fun e =>
    Binary64.ofDecimal negative (appendDigits (appendDigits 0 whole) places) (e - places.length)

/-- The number that a real numeral denotes, rounded to the nearest. -/
def readReal? (cs : List Char) : Option Binary64 :=
  let (negative, rest) := readSign cs
  let word := String.ofList (rest.map Char.toLower)
  if word = "inf" ∨ word = "infinity" then some (.infinite negative)
  else if word = "nan" then some .nan
  else readDecimal? negative rest

end MemoryWatchdog.Text
