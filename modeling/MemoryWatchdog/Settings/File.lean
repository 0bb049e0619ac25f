import MemoryWatchdog.Decimal.Layout
import MemoryWatchdog.FileTree
import MemoryWatchdog.Settings.Environment
import MemoryWatchdog.Text.Quoted
import MemoryWatchdog.Toml.Document
import MemoryWatchdog.Toml.Excerpt

/-!
# Settings from a file

The settings file is a TOML document whose keys are those of `Settings.Field`; other keys are skipped whatever they hold. The first
value of a wrong type or out of range ends the reading, with a diagnostic that shows where it stands. `Settings.load` puts the three
layers together: defaults, the file if there is one, the environment.
-/

namespace MemoryWatchdog

namespace Settings

/-- How diagnostics call the values of a kind. -/
def Kind.expected : Kind → String
  | .flag => "a boolean"
  | .number => "u64"
  | .count => "u32"
  | .ratio => "f64"
  | .path => "path string"

/-- How diagnostics call a value. -/
def describeValue : Toml.Value → String
  | .string text => "string " ++ Text.quoted text
  | .integer n => "integer \x60" ++ toString n ++ "\x60"
  | .real x => "floating point \x60" ++ x.displayWithPoint ++ "\x60"
  | .boolean b => "boolean \x60" ++ (if b then "true" else "false") ++ "\x60"
  | .dateTime => "map"
  | .array _ => "sequence"
  | .tables _ => "sequence"
  | .table .. => "map"

/-- Why a value is not one of its kind. -/
inductive Mismatch
  | type (value : Toml.Value) (expected : Kind)
  | range (n : Int) (expected : Kind)

/-- The text of a mismatch. -/
def Mismatch.message : Mismatch → String
  | .type value expected => "invalid type: " ++ describeValue value ++ ", expected " ++ expected.expected
  | .range n expected => "invalid value: integer \x60" ++ toString n ++ "\x60, expected " ++ expected.expected

/-- The value of a kind that a value in the file stands for. -/
def Kind.ofToml : (k : Kind) → Toml.Value → Except Mismatch k.Carrier
  | .flag, .boolean b => .ok b
  | .number, .integer n => if 0 ≤ n ∧ n < UInt64.size then .ok (.ofNat n.toNat) else .error (.range n .number)
  | .count, .integer n => if 0 ≤ n ∧ n < UInt32.size then .ok (.ofNat n.toNat) else .error (.range n .count)
  | .ratio, .real x => .ok x
  | .ratio, .integer n => .ok (.ofRat n)
  | .path, .string text => .ok text
  | k, value => .error (.type value k)

/-- The settings with those that the fields of a document override, or where and why a value is wrong. -/
def applyFields : Toml.Fields → Settings → Except (Span × Mismatch) Settings
  | [], s => .ok s
  | (key, span, value) :: rest, s =>
    match Field.ofKey? key.text with
    | none => applyFields rest s
    | some f =>
      match f.kind.ofToml value with
      | .ok v => applyFields rest (s.set f v)
      | .error m => .error (span.getD key.span, m)

/-- Why settings cannot be loaded. -/
inductive Error
  | unreadable (path : String) (cause : IoError)
  | notToml (path : String)
  | wrongValue (path text : String) (span : Span) (mismatch : Mismatch)

/-- What is wrong with the file. -/
def Error.cause : Error → String
  | .unreadable _ cause => cause.message
  | .notToml _ => "TOML parse error"
  | .wrongValue _ text span mismatch => Toml.excerpt text span ++ mismatch.message ++ "\n"

/-- The text of an error. -/
def Error.message (e : Error) : String :=
  match e with
  | .unreadable path _ => "failed to read config " ++ path ++ ": " ++ e.cause
  | .notToml path => "failed to parse config " ++ path ++ ": " ++ e.cause
  | .wrongValue path .. => "failed to parse config " ++ path ++ ": " ++ e.cause

/-- The settings in the text of a file, the defaults where it says nothing. -/
def ofText (path text : String) : Except Error Settings :=
  match Toml.fieldsOf? text with
  | none => .error (.notToml path)
  | some fields =>
    match applyFields fields {} with
    | .ok s => .ok s
    | .error (span, mismatch) => .error (.wrongValue path text span mismatch)

/-- The settings in a file. -/
def ofFile (path : String) (files : FileTree) : Except Error Settings :=
  match files.readText path with
  | .error cause => .error (.unreadable path cause)
  | .ok text => ofText path text

/-- The defaults, over them the file if there is one, and over that the environment. -/
def load (path : String) (files : FileTree) (lookup : String → Option String) : Except Error Settings × Log :=
  let (fromFile, log) : Except Error Settings × Log :=
    if files.pathExists path then (ofFile path files, #[])
    else (.ok {}, #[⟨.debug, "no config file, using defaults", [("path", .text path)]⟩])
  match fromFile with
  | .error e => (.error e, log)
  | .ok s =>
    let (s, warnings) := s.applyEnvironment lookup
    (.ok s, log ++ warnings)

end Settings

end MemoryWatchdog
