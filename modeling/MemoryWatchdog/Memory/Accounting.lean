import MemoryWatchdog.Host
import MemoryWatchdog.Memory
import MemoryWatchdog.Saturating
import MemoryWatchdog.Text.Blank
import MemoryWatchdog.Text.Numeral

/-!
# Accounting files

The system keeps accounts of each process in text files with a field per line: its name, a colon, a number of units of 1024 bytes. The
first line that begins with the name counts, and on it the first token after the name. Amounts that do not fit are the greatest number.
-/

namespace MemoryWatchdog

namespace Accounting

/-- The file with the resident memory. -/
def statusPath (directory : String) : String :=
  FileTree.join directory "status"

/-- The file with the memory of the process alone. -/
def rollupPath (directory : String) : String :=
  FileTree.join directory "smaps_rollup"

/-- What follows the name of a field on the first line that begins with it. -/
def fieldText? (text field : String) : Option (List Char) :=
  (Text.lines text).findSome? (Text.afterBeginning? field.toList)

/-- The number in a field. -/
def readField (path text field : String) : Except MemoryError UInt64 :=
  match fieldText? text field with
  | none => .error (.missingField path field)
  | some rest =>
    let value := Text.firstToken rest
    match Text.readUnsigned? UInt64.size value with
    | some n => .ok (.ofNat n)
    | none => .error (.notANumber path field (String.ofList value))

/-- The bytes in a unit. -/
def unit : UInt64 := 1024

/-- The resident memory that the text of a file states. -/
def residentIn (path text : String) : Except MemoryError UInt64 :=
  (readField path text "VmRSS:").map fun n => saturatingMul n unit

/-- The memory of the process alone that the text of a file states: its unmodified and its modified pages. -/
def uniqueIn (path text : String) : Except MemoryError UInt64 := do
  let clean ← readField path text "Private_Clean:"
  let dirty ← readField path text "Private_Dirty:"
  return saturatingMul (saturatingAdd clean dirty) unit

/-- Reads the file at a path and what its text states. -/
def readFile {α : Type} (files : FileTree) (path : String) (read : String → Except MemoryError α) : Except MemoryError α :=
  match files.readText path with
  | .error cause => .error (.unreadable path cause)
  | .ok text => read text

/-- The resident memory that the files in a directory state. -/
def resident (files : FileTree) (directory : String) : Except MemoryError UInt64 :=
  let path := statusPath directory
  readFile files path (residentIn path)

/-- The memory of the process alone that the files in a directory state. -/
def unique (files : FileTree) (directory : String) : Except MemoryError UInt64 :=
  let path := rollupPath directory
  readFile files path (uniqueIn path)

/-- Measures what the files in a directory state; there are none about the heap. -/
def probe {π : Type} (directory : String) : Probe (Host π) where
  resident h := (.returned (resident h.files directory), h)
  unique h := (.returned (unique h.files directory), h)
  heap h := (.returned (.error (.unsupported "heap statistics")), h)

end Accounting

end MemoryWatchdog
