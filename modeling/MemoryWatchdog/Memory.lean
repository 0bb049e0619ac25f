import MemoryWatchdog.Binary64
import MemoryWatchdog.FileTree
import MemoryWatchdog.Log
import MemoryWatchdog.Text.Quoted

/-!
# Measurements of a process's memory

What can be measured: the resident memory, the memory that is the process's alone, and the heap as the allocator sees it. A
measurement is taken from the surroundings and may change them; it yields a value, fails for a stated reason, or panics. The two
ratios that limits are set on are computed here, as exact arithmetic with each result rounded, for any rounding.
-/

namespace MemoryWatchdog

/-- The allocator's view of the heap, in bytes: what the program holds, and what the allocator got from the system. -/
structure HeapStats where
  inUse : UInt64
  system : UInt64
  deriving DecidableEq, Repr

/-- The share of the allocator's memory that is not in use, each step of the computation rounded. An allocator that holds nothing is
not fragmented, and no more than what it holds counts as in use. -/
def HeapStats.fragmentationWith (round : Rat → Rat) (h : HeapStats) : Rat :=
  if h.system = 0 then 0
  else
    let used := min h.inUse.toNat h.system.toNat
    round (1 - round (round (used : Rat) / round (h.system.toNat : Rat)))

/-- The fragmentation of the heap. -/
def HeapStats.fragmentation (h : HeapStats) : Binary64 :=
  .finite false (h.fragmentationWith Binary64.nearest)

/-- How many times the reference is contained in the current amount, each step rounded. -/
def growthWith (round : Rat → Rat) (current reference : UInt64) : Rat :=
  round (round (current.toNat : Rat) / round (reference.toNat : Rat))

/-- The growth of an amount over its reference. -/
def growth (current reference : UInt64) : Binary64 :=
  .finite false (growthWith Binary64.nearest current reference)

/-- Why a measurement fails. -/
inductive MemoryError
  | unreadable (path : String) (cause : IoError)
  | missingField (path field : String)
  | notANumber (path field value : String)
  | unsupported (what : String)
  deriving DecidableEq, Repr

/-- The text of an error. -/
def MemoryError.message : MemoryError → String
  | .unreadable path cause => "failed to read " ++ path ++ ": " ++ cause.message
  | .missingField path field => "field " ++ field ++ " not found in " ++ path
  | .notANumber path field value => "invalid value " ++ Text.quoted value ++ " for " ++ field ++ " in " ++ path
  | .unsupported what => what ++ " is not supported on this platform"

/-- The text of what caused an error, if something else did. -/
def MemoryError.cause : MemoryError → Option String
  | .unreadable _ cause => some cause.message
  | _ => none

/-- What a measurement yields. -/
abbrev Reading (α : Type) := Ending (Except MemoryError α)

/-- A source of measurements, each taken from the surroundings. -/
structure Probe (σ : Type) where
  resident : σ → Reading UInt64 × σ
  unique : σ → Reading UInt64 × σ
  heap : σ → Reading HeapStats × σ

end MemoryWatchdog
