import MemoryWatchdog.Decimal.Layout
import MemoryWatchdog.Text.Quoted

/-!
# JSON values

Payloads, events and reports are JSON. An object is a list of fields; `Json.sorted` gives the fields of an object in the order of
their names with one field per name, the order in which payloads are kept and attributes are written. Values are written either
compactly, on one line, or with each field on a line of its own.
-/

namespace MemoryWatchdog

/-- A JSON value. -/
inductive Json
  | null
  | boolean (value : Bool)
  | integer (value : Int)
  | real (value : Binary64)
  | string (value : String)
  | array (elements : List Json)
  | object (fields : List (String × Json))
  deriving Inhabited, Repr

namespace Json

/-- The value that stands for a number. JSON has no infinities and no sign for "no number", so these are null. -/
def ofBinary64 (x : Binary64) : Json :=
  if x.isFinite then .real x else .null

/-- The fields with one more, in the order of the names; a field of the same name is replaced. -/
def insertField (name : String) (value : Json) : List (String × Json) → List (String × Json)
  | [] => [(name, value)]
  | (n, v) :: rest =>
    if name < n then (name, value) :: (n, v) :: rest
    else if name = n then (name, value) :: rest
    else (n, v) :: insertField name value rest

/-- The fields in the order of their names, the last value of each name. -/
def sorted (fields : List (String × Json)) : List (String × Json) :=
  fields.foldl (fun sorted f => insertField f.1 f.2 sorted) []

/-- How a character stands inside a JSON string. -/
def escapeChar (c : Char) : String :=
  match c with
  | '"' => "\\\""
  | '\\' => "\\\\"
  | '\x08' => "\\b"
  | '\x0c' => "\\f"
  | '\n' => "\\n"
  | '\r' => "\\r"
  | '\t' => "\\t"
  | c =>
    if c.toNat < 0x20 then
      let digits := Text.hex c.toNat
      "\\u" ++ String.ofList (List.replicate (4 - digits.length) '0') ++ digits
    else c.toString

/-- A JSON string. -/
def stringText (s : String) : String :=
  "\"" ++ String.join (s.toList.map escapeChar) ++ "\""

mutual

/-- The value on one line, without blanks. -/
def compact : Json → String
  | .null => "null"
  | .boolean value => if value then "true" else "false"
  | .integer value => toString value
  | .real value => value.json
  | .string value => stringText value
  | .array elements => "[" ++ ",".intercalate (compactElements elements) ++ "]"
  | .object fields => "\x7b" ++ ",".intercalate (compactFields fields) ++ "\x7d"

/-- The elements of an array, each on one line. -/
def compactElements : List Json → List String
  | [] => []
  | v :: vs => compact v :: compactElements vs

/-- The fields of an object, each on one line. -/
def compactFields : List (String × Json) → List String
  | [] => []
  | (name, v) :: rest => (stringText name ++ ":" ++ compact v) :: compactFields rest

end

/-- A line end and the blanks that the given depth of nesting starts a line with. -/
def newLine (depth : Nat) : String :=
  "\n" ++ String.ofList (List.replicate (2 * depth) ' ')

mutual

/-- The value over several lines, each element and field on a line of its own, indented by its depth. -/
def pretty (depth : Nat) : Json → String
  | .array [] => "[]"
  | .array elements =>
    "[" ++ newLine (depth + 1) ++ ("," ++ newLine (depth + 1)).intercalate (prettyElements (depth + 1) elements)
      ++ newLine depth ++ "]"
  | .object [] => "\x7b\x7d"
  | .object fields =>
    "\x7b" ++ newLine (depth + 1) ++ ("," ++ newLine (depth + 1)).intercalate (prettyFields (depth + 1) fields)
      ++ newLine depth ++ "\x7d"
  | .null => "null"
  | .boolean value => if value then "true" else "false"
  | .integer value => toString value
  | .real value => value.json
  | .string value => stringText value

/-- The elements of an array, each over several lines. -/
def prettyElements (depth : Nat) : List Json → List String
  | [] => []
  | v :: vs => pretty depth v :: prettyElements depth vs

/-- The fields of an object, each over several lines. -/
def prettyFields (depth : Nat) : List (String × Json) → List String
  | [] => []
  | (name, v) :: rest => (stringText name ++ ": " ++ pretty depth v) :: prettyFields depth rest

end

/-- The value over several lines. -/
def prettyText (v : Json) : String :=
  pretty 0 v

/-- A payload: the fields of an object, in the order of their names. -/
abbrev Payload := List (String × Json)

end Json

export Json (Payload)

end MemoryWatchdog
