import MemoryWatchdog.Calendar
import MemoryWatchdog.Json
import MemoryWatchdog.Memory

/-!
# Heap reports

A report is a snapshot of a worker's memory: which process, in which role, when, and what could be measured. Its file is named after
the role, the process and the moment, to the millisecond.
-/

namespace MemoryWatchdog

/-- A snapshot of a worker's memory. What could not be measured is absent. -/
structure HeapReport where
  pid : Nat
  role : String
  writtenAt : Moment
  resident : Option UInt64
  unique : Option UInt64
  heap : Option HeapStats
  fragmentation : Option Binary64

namespace HeapReport

/-- The name of the file of a report. -/
def fileName (r : HeapReport) : String :=
  "heap-" ++ r.role ++ "-" ++ toString r.pid ++ "-" ++ r.writtenAt.stamp ++ ".json"

/-- The name of the file that a report is first written to. -/
def draftName (r : HeapReport) : String :=
  "." ++ r.fileName ++ ".tmp"

/-- A number of bytes, or null. -/
def bytesJson : Option UInt64 → Json
  | none => .null
  | some n => .integer n.toNat

/-- The report as a JSON object. -/
def toJson (r : HeapReport) : Json :=
  .object [
    ("pid", .integer r.pid),
    ("role", .string r.role),
    ("written_at", .string r.writtenAt.text),
    ("rss_bytes", bytesJson r.resident),
    ("uss_bytes", bytesJson r.unique),
    ("heap", match r.heap with
      | none => .null
      | some h => .object [("in_use_bytes", .integer h.inUse.toNat), ("system_bytes", .integer h.system.toNat)]),
    ("heap_fragmentation", match r.fragmentation with
      | none => .null
      | some x => .ofBinary64 x)]

/-- The text of the file of a report. -/
def text (r : HeapReport) : String :=
  r.toJson.prettyText

/-- What a measurement yielded, absent if it failed. -/
def measured {α : Type} : Reading α → Ending (Option α)
  | .returned (.ok a) => .returned (some a)
  | .returned (.error _) => .returned none
  | .panicked p => .panicked p

/-- Takes a snapshot: the heap first, then the resident memory, then the process's own. A measurement that fails is absent from it;
one that panics ends it. -/
def capture {σ : Type} (probe : Probe σ) (pid : Nat) (role : String) (writtenAt : Moment) (s : σ) : Ending HeapReport × σ :=
  let (heap, s) := probe.heap s
  match measured heap with
  | .panicked p => (.panicked p, s)
  | .returned heap =>
    let (resident, s) := probe.resident s
    match measured resident with
    | .panicked p => (.panicked p, s)
    | .returned resident =>
      let (unique, s) := probe.unique s
      match measured unique with
      | .panicked p => (.panicked p, s)
      | .returned unique =>
        (.returned { pid, role, writtenAt, resident, unique, heap, fragmentation := heap.map HeapStats.fragmentation }, s)

end HeapReport

end MemoryWatchdog
