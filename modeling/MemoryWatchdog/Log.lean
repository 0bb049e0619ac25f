/-!
# Log lines

What the library logs is a value: a level, a message, and named fields that are texts or numbers. The outer layer prints the lines
or hands them on.
-/

namespace MemoryWatchdog

namespace Log

/-- How important a line is. -/
inductive Level
  | debug
  | info
  | warn
  | error
  deriving DecidableEq, Repr

/-- The value of a field. -/
inductive Field
  | text (value : String)
  | number (value : Int)
  deriving DecidableEq, Repr

/-- One line of the log. -/
structure Entry where
  level : Level
  message : String
  fields : List (String × Field) := []
  deriving DecidableEq, Repr

/-- The rank of a level, the least important first. -/
def Level.rank : Level → Nat
  | .debug => 0
  | .info => 1
  | .warn => 2
  | .error => 3

end Log

/-- A log: the lines in the order they were written. -/
abbrev Log := Array Log.Entry

/-- The entries at a level or above. -/
def Log.atLeast (level : Log.Level) (log : Log) : Log :=
  log.filter fun e => decide (level.rank ≤ e.level.rank)

/-- What code outside the watchdog's control leaves when it gives up: a text, or something that holds no text. -/
inductive Panic
  | text (message : String)
  | wordless
  deriving DecidableEq, Repr

/-- The text shown for a panic. -/
def Panic.message : Panic → String
  | .text message => message
  | .wordless => "unknown panic"

/-- How a call to code outside the watchdog's control ends. -/
inductive Ending (α : Type)
  | returned (value : α)
  | panicked (panic : Panic)
  deriving DecidableEq, Repr

end MemoryWatchdog
