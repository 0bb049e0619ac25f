import MemoryWatchdog.Text.Numeral
import MemoryWatchdog.Text.Reader

/-!
# Strings, numbers, booleans and dates

The values of a settings file that hold no other values. Strings come in four forms: in double quotes, where a backslash starts an
escape, or in single quotes, where it does not, and each on one line or, in three quotes, over several. Integers have 64 bits and a
sign, and reals are rounded to the nearest binary number; one that overflows upwards is refused.
-/

namespace MemoryWatchdog.Toml

open Reader

/-- A blank inside a line. -/
def isInlineBlank (c : Char) : Bool :=
  c == ' ' || c == '\t'

/-- Blanks inside a line, possibly none. -/
def inlineBlanks : Reader Unit := do
  let _ ← whileTrue isInlineBlank

/-- A line end: a line feed, or a carriage return and a line feed. -/
def lineEnd : Reader Unit :=
  exactly '\n' <|> word "\r\n"

/-- Whether a character may stand in a text at all: no control character but the tab. -/
def isText (c : Char) : Bool :=
  c == '\t' || (decide (0x20 ≤ c.toNat) && c.toNat != 0x7f)

/-- A comment, up to the line end. -/
def comment : Reader Unit := do
  exactly '#'
  let _ ← whileTrue isText

/-- The value of a hexadecimal digit. -/
def hexValue (c : Char) : Nat :=
  if c.isDigit then c.toNat - 48
  else if 'a' ≤ c ∧ c ≤ 'f' then c.toNat - 87
  else c.toNat - 55

def isHexDigit (c : Char) : Bool :=
  c.isDigit || (decide ('a' ≤ c) && decide (c ≤ 'f')) || (decide ('A' ≤ c) && decide (c ≤ 'F'))

/-- The character with the code point that the given count of hexadecimal digits denotes. -/
def codePoint (count : Nat) : Reader Char := fun cs =>
  let ds := cs.take count
  let n := ds.foldl (fun n d => 16 * n + hexValue d) 0
  if ds.length = count ∧ ds.all isHexDigit ∧ n.isValidChar then some (Char.ofNat n, cs.drop count) else none

/-- An escape, after its backslash. -/
def escaped : Reader Char := do
  match ← satisfying fun _ => true with
  | 'b' => return '\x08'
  | 't' => return '\t'
  | 'n' => return '\n'
  | 'f' => return '\x0c'
  | 'r' => return '\r'
  | '"' => return '"'
  | '\\' => return '\\'
  | 'u' => codePoint 4
  | 'U' => codePoint 8
  | _ => failure

/-- A string in double quotes on one line. -/
def basicString : Reader String := do
  exactly '"'
  let cs ← repeated ((satisfying fun c => isText c && c != '"' && c != '\\') <|> (do exactly '\\'; escaped))
  exactly '"'
  return String.ofList cs

/-- A string in single quotes on one line. -/
def literalString : Reader String := do
  exactly '\''
  let cs ← whileTrue fun c => isText c && c != '\''
  exactly '\''
  return String.ofList cs

/-- One or two quotes that do not end a string in three quotes. -/
def innerQuotes (quote : Char) : Reader (List Char) := fun cs =>
  let quotes := cs.takeWhile (· == quote)
  if 0 < quotes.length ∧ quotes.length < 3 then some (quotes, cs.dropWhile (· == quote)) else none

/-- The three quotes that end a string, with up to two more in front of them that belong to it. -/
def closingQuotes (quote : Char) : Reader (List Char) := fun cs =>
  let quotes := cs.takeWhile (· == quote)
  if 3 ≤ quotes.length then
    let inner := min 2 (quotes.length - 3)
    some (List.replicate inner quote, cs.drop (inner + 3))
  else none

/-- A backslash at the end of a line, which joins the line to the next character that is no blank. -/
def joinedLines : Reader (List Char) := do
  exactly '\\'
  inlineBlanks
  lineEnd
  let _ ← repeated ((do let _ ← satisfying isInlineBlank) <|> lineEnd)
  return []

/-- A string in three quotes, made of pieces; a line end right after the opening quotes does not belong to it. -/
def blockString (quote : Char) (piece : Reader (List Char)) : Reader String := do
  word (String.ofList [quote, quote, quote])
  let _ ← optional lineEnd
  let pieces ← repeated (piece <|> (do lineEnd; return ['\n']) <|> innerQuotes quote)
  let last ← closingQuotes quote
  return String.ofList (pieces.flatten ++ last)

/-- A string in three double quotes. -/
def basicBlock : Reader String :=
  blockString '"' <|
    (do return [← satisfying fun c => isText c && c != '"' && c != '\\'])
      <|> joinedLines
      <|> (do exactly '\\'; return [← escaped])

/-- A string in three single quotes. -/
def literalBlock : Reader String :=
  blockString '\'' do return [← satisfying fun c => isText c && c != '\'']

/-- A string in any of the four forms. -/
def string : Reader String :=
  basicBlock <|> basicString <|> literalBlock <|> literalString

/-- A digit that the test accepts, possibly after an underscore. -/
def nextDigit (isDigit : Char → Bool) : Reader Char :=
  satisfying isDigit <|> (do exactly '_'; satisfying isDigit)

/-- Digits with single underscores between them. -/
def digits (isDigit : Char → Bool) : Reader (List Char) := do
  let first ← satisfying isDigit
  let more ← repeated (nextDigit isDigit)
  return first :: more

/-- A sign, if there is one; whether it is a minus. -/
def sign : Reader Bool :=
  (do exactly '-'; return true) <|> (do exactly '+'; return false) <|> return false

/-- Decimal digits that do not start with a zero, or a single zero. -/
def wholeDigits : Reader (List Char) :=
  (do
    let first ← satisfying fun c => c.isDigit && c != '0'
    let more ← repeated (nextDigit Char.isDigit)
    return first :: more)
  <|> (do exactly '0'; return ['0'])

/-- The number that digits denote in a base. -/
def numberOf (base : Nat) (ds : List Char) : Nat :=
  ds.foldl (fun n d => base * n + hexValue d) 0

/-- An integer in a base other than ten, after a zero and a letter. Integers have 64 bits, one of them the sign. -/
def basedInteger (mark : String) (base : Nat) (isDigit : Char → Bool) : Reader Int := do
  word mark
  let n := numberOf base (← digits isDigit)
  if n < Int64.size / 2 then return n else failure

/-- A decimal integer. -/
def decimalInteger : Reader Int := do
  let negative ← sign
  let n := numberOf 10 (← wholeDigits)
  if negative then
    if n ≤ Int64.size / 2 then return -(n : Int) else failure
  else if n < Int64.size / 2 then return n
  else failure

/-- An integer of 64 bits. -/
def integer : Reader Int :=
  basedInteger "0x" 16 isHexDigit
    <|> basedInteger "0o" 8 (fun c => decide ('0' ≤ c) && decide (c ≤ '7'))
    <|> basedInteger "0b" 2 (fun c => c == '0' || c == '1')
    <|> decimalInteger

/-- The exponent of a real. -/
def exponent : Reader Int := do
  let _ ← satisfying fun c => c == 'e' || c == 'E'
  let negative ← sign
  let n := numberOf 10 (← digits Char.isDigit)
  return if negative then -(n : Int) else n

/-- A real with a point, an exponent or both. -/
def decimalReal : Reader Binary64 := do
  let negative ← sign
  let whole ← wholeDigits
  let places ← optional (do exactly '.'; digits Char.isDigit)
  let e ← match places with
    | none => some <$> exponent
    | some _ => optional exponent
  let places := places.getD []
  match Binary64.ofDecimal negative (numberOf 10 (whole ++ places)) (e.getD 0 - places.length) with
  | .infinite false => failure
  | x => return x

/-- A word for an infinity or for no number, with an optional sign. -/
def wordReal : Reader Binary64 := do
  let negative ← sign
  (do word "inf"; return .infinite negative) <|> (do word "nan"; return .nan)

/-- A real number. -/
def real : Reader Binary64 :=
  decimalReal <|> wordReal

/-- A number of two digits within bounds. -/
def twoDigits (low high : Nat) : Reader Nat := do
  let a ← satisfying Char.isDigit
  let b ← satisfying Char.isDigit
  let n := numberOf 10 [a, b]
  if low ≤ n ∧ n ≤ high then return n else failure

/-- The last day of a month. -/
def lastDay (year month : Nat) : Nat :=
  if month = 2 then
    if year % 4 = 0 ∧ (year % 100 ≠ 0 ∨ year % 400 = 0) then 29 else 28
  else if month = 4 ∨ month = 6 ∨ month = 9 ∨ month = 11 then 30
  else 31

/-- A date. -/
def date : Reader Unit := do
  let century ← twoDigits 0 99
  let year ← twoDigits 0 99
  exactly '-'
  let month ← twoDigits 1 12
  exactly '-'
  let _ ← twoDigits 1 (lastDay (100 * century + year) month)

/-- A time of day, with an optional fraction of a second. -/
def time : Reader Unit := do
  let _ ← twoDigits 0 23
  exactly ':'
  let _ ← twoDigits 0 59
  exactly ':'
  let _ ← twoDigits 0 60
  let _ ← optional (do exactly '.'; let _ ← satisfying Char.isDigit; whileTrue Char.isDigit)

/-- The offset of a time from universal time. -/
def offset : Reader Unit :=
  (do let _ ← satisfying fun c => c == 'Z' || c == 'z')
  <|> (do
    let _ ← satisfying fun c => c == '+' || c == '-'
    let _ ← twoDigits 0 23
    exactly ':'
    let _ ← twoDigits 0 59)

/-- A date, a time, or both, the latter with an optional offset. -/
def dateTime : Reader Unit :=
  (do
    date
    let _ ← optional do
      let _ ← satisfying fun c => c == 'T' || c == 't' || c == ' '
      time
      optional offset)
  <|> time

/-- A truth value. -/
def boolean : Reader Bool :=
  (do word "true"; return true) <|> (do word "false"; return false)

end MemoryWatchdog.Toml
