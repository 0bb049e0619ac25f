import MemoryWatchdog.Json
import MemoryWatchdog.Text.Numeral
import MemoryWatchdog.Text.Reader

/-!
# Reading JSON

The value that a JSON text stands for. A number without a point and an exponent is an integer if it has 64 bits, and any other number
is the nearest binary one; a zero with a minus keeps it. Two escapes that stand for the halves of one character make that character.
-/

namespace MemoryWatchdog

namespace Json

open Reader

/-- Blanks between the parts of a text. -/
def blanks : Reader Unit := do
  let _ ← whileTrue fun c => c == ' ' || c == '\t' || c == '\n' || c == '\r'

/-- The value of a hexadecimal digit. -/
def hexDigit (c : Char) : Nat :=
  if c.isDigit then c.toNat - 48 else if c.toNat < 97 then c.toNat - 55 else c.toNat - 87

/-- The number that hexadecimal digits denote. -/
def hexNumber (cs : List Char) : Nat :=
  cs.foldl (fun n c => 16 * n + hexDigit c) 0

/-- The character of the two halves of a code. -/
def joinHalves (high low : Nat) : Char :=
  .ofNat (0x10000 + (high - 0xd800) * 0x400 + (low - 0xdc00))

/-- The character that a letter after a backslash stands for. -/
def unescape : Char → Char
  | 'b' => '\x08'
  | 'f' => '\x0c'
  | 'n' => '\n'
  | 'r' => '\r'
  | 't' => '\t'
  | c => c

/-- The rest of a string, when the characters in front of it, last first, and possibly the first half of a character are read. -/
def stringFrom (read : List Char) (half : Option Nat) : List Char → Option (String × List Char)
  | [] => none
  | '"' :: rest => some (String.ofList read.reverse, rest)
  | '\\' :: 'u' :: a :: b :: c :: d :: rest =>
    let n := hexNumber [a, b, c, d]
    match half with
    | some high => stringFrom (joinHalves high n :: read) none rest
    | none => if 0xd800 ≤ n ∧ n < 0xdc00 then stringFrom read (some n) rest else stringFrom (Char.ofNat n :: read) none rest
  | '\\' :: c :: rest => stringFrom (unescape c :: read) none rest
  | c :: rest => stringFrom (c :: read) none rest

/-- A string. -/
def string? : Reader String := do
  exactly '"'
  stringFrom [] none

/-- The value of a number that was written so. -/
def ofNumeral (cs : List Char) : Option Json :=
  let real := (Text.readReal? cs).map Json.real
  match cs with
  | '-' :: ds =>
    match Text.readUnsigned? (Int64.size / 2 + 1) ds with
    | some 0 => real
    | some n => some (.integer (-n))
    | none => real
  | ds =>
    match Text.readUnsigned? UInt64.size ds with
    | some n => some (.integer n)
    | none => real

/-- A number. -/
def number : Reader Json := do
  let cs ← whileTrue fun c => c.isDigit || c == '-' || c == '+' || c == '.' || c == 'e' || c == 'E'
  match ofNumeral cs with
  | some v => return v
  | none => failure

/-- Values between brackets, with a comma between each two. -/
def listOf {α : Type} (opening closing : Char) (read : Reader α) : Reader (List α) := do
  exactly opening
  blanks
  let read ← separatedBy (exactly ',') read <|> pure []
  exactly closing
  return read

/-- A name and a value. -/
def fieldOf (value : Reader Json) : Reader (String × Json) := do
  blanks
  let name ← string?
  blanks
  exactly ':'
  return (name, ← value)

/-- A value with blanks around it, nested no deeper than given. -/
def valueWithin : Nat → Reader Json
  | 0 => failure
  | depth + 1 => do
    blanks
    let v ←
      .string <$> string?
        <|> .array <$> listOf '[' ']' (valueWithin depth)
        <|> .object <$> listOf '\x7b' '\x7d' (fieldOf (valueWithin depth))
        <|> (do word "true"; return .boolean true)
        <|> (do word "false"; return .boolean false)
        <|> (do word "null"; return .null)
        <|> number
    blanks
    return v

/-- The value of a JSON text. -/
def ofText? (text : String) : Option Json :=
  let cs := text.toList
  match valueWithin (cs.length + 1) cs with
  | some (v, []) => some v
  | _ => none

mutual

/-- The value with the fields of each object in the order of their names. -/
def ordered : Json → Json
  | .array vs => .array (orderedElements vs)
  | .object fields => .object (sorted (orderedFields fields))
  | v => v

/-- The elements of an array, each ordered. -/
def orderedElements : List Json → List Json
  | [] => []
  | v :: vs => ordered v :: orderedElements vs

/-- The fields of an object, each with its value ordered. -/
def orderedFields : List (String × Json) → List (String × Json)
  | [] => []
  | (name, v) :: rest => (name, ordered v) :: orderedFields rest

end

/-- The fields of an object, none of another value. -/
def fieldsOf : Json → List (String × Json)
  | .object fields => fields
  | _ => []

/-- The value of a field of an object, null if there is none. -/
def field (name : String) (v : Json) : Json :=
  (v.fieldsOf.lookup name).getD .null

end Json

end MemoryWatchdog
