import MemoryWatchdog.Log
import MemoryWatchdog.Settings
import MemoryWatchdog.Text.Blank
import MemoryWatchdog.Text.Numeral

/-!
# Settings from the environment

A variable that is set to more than blanks overrides its setting. A value that its setting does not admit is skipped with a warning
that names the variable; each variable reaches its own setting alone.
-/

namespace MemoryWatchdog

namespace Settings

/-- Reads a truth value: blanks around it and the case of its letters do not count. -/
def readFlag? (text : String) : Option Bool :=
  match String.ofList ((Text.trimBlanks text.toList).map Char.toLower) with
  | "1" | "true" | "yes" | "on" => some true
  | "0" | "false" | "no" | "off" => some false
  | _ => none

/-- Reads a value of a kind from text without blanks around it. A ratio must be finite and not negative. -/
def Kind.read? : (k : Kind) → String → Option k.Carrier
  | .flag, text => readFlag? text
  | .number, text => (Text.readUnsigned? UInt64.size text.toList).map UInt64.ofNat
  | .count, text => (Text.readUnsigned? UInt32.size text.toList).map UInt32.ofNat
  | .ratio, text => (Text.readReal? text.toList).filter Binary64.isNonNegative
  | .path, text => some text

/-- What is logged about a value that is not admitted. -/
def Kind.refusal : Kind → String
  | .flag => "ignoring unparseable boolean setting"
  | .ratio => "ignoring invalid ratio setting"
  | _ => "ignoring unparseable setting"

/-- The text of a variable without the blanks around it, if any is left. -/
def textOf (lookup : String → Option String) (f : Field) : Option String :=
  ((lookup f.environmentName).map Text.trim).filter (· != "")

/-- The settings and the log after one variable was consulted. -/
def consult (lookup : String → Option String) (s : Settings × Log) (f : Field) : Settings × Log :=
  match textOf lookup f with
  | none => s
  | some text =>
    match f.kind.read? text with
    | some v => (s.1.set f v, s.2)
    | none => (s.1, s.2.push ⟨.warn, f.kind.refusal, [("key", .text f.environmentName), ("value", .text text)]⟩)

/-- The settings with those that the environment overrides, and the warnings. -/
def applyEnvironment (lookup : String → Option String) (s : Settings) : Settings × Log :=
  Field.all.foldl (consult lookup) (s, #[])

end Settings

end MemoryWatchdog
