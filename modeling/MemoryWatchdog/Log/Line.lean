import MemoryWatchdog.Json
import MemoryWatchdog.Log

/-!
# Log lines as text

A log entry is printed as one line, either as text or as a JSON object.
-/

namespace MemoryWatchdog

namespace Log

/-- The name of a level. -/
def Level.name : Level → String
  | .debug => "DEBUG"
  | .info => "INFO"
  | .warn => "WARN"
  | .error => "ERROR"

/-- The value of a field as JSON. -/
def Field.toJson : Field → Json
  | .text value => .string value
  | .number value => .integer value

/-- The entry as a line of text, dated. -/
def Entry.textLine (date : String) (e : Entry) : String :=
  " ".intercalate (date :: e.level.name :: e.message :: e.fields.map fun (name, value) => name ++ "=" ++ value.toJson.compact)

/-- The entry as a JSON object on one line, dated. -/
def Entry.jsonLine (date : String) (e : Entry) : String :=
  (Json.object [("timestamp", .string date), ("level", .string e.level.name),
    ("fields", .object (("message", .string e.message) :: e.fields.map fun (name, value) => (name, value.toJson)))]).compact

end Log

end MemoryWatchdog
