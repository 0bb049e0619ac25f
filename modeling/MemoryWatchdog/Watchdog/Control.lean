/-!
# The control of a watchdog

A watchdog is idle, running or stopped, and it may have been asked to stop. Its loop and all who hold a handle on it share this
control. Starting takes an idle watchdog to running and is refused otherwise. A stop has two steps, between which a start may come:
the request is noted, and a watchdog that is still idle then is stopped at once.
-/

namespace MemoryWatchdog

/-- Where a watchdog is in its life. -/
inductive LoopState
  | idle
  | running
  | stopped
  deriving DecidableEq, Repr

namespace LoopState

/-- How diagnostics show a state. -/
def debugText : LoopState → String
  | .idle => "Idle"
  | .running => "Running"
  | .stopped => "Stopped"

end LoopState

/-- The state of a watchdog and whether it was asked to stop. -/
structure Control where
  state : LoopState := .idle
  stopRequested : Bool := false
  deriving DecidableEq, Repr

namespace Control

/-- The first step of a stop. -/
def requestStop (c : Control) : Control :=
  { c with stopRequested := true }

/-- The second step of a stop: a watchdog that never started is stopped. -/
def closeIdle (c : Control) : Control :=
  if c.state = .idle then { c with state := .stopped } else c

/-- Asks the watchdog to stop. -/
def stop (c : Control) : Control :=
  c.requestStop.closeIdle

/-- Asks the watchdog to stop if a call did so. -/
def stopIf (asked : Bool) (c : Control) : Control :=
  if asked then c.stop else c

/-- Starts an idle watchdog. -/
def start? (c : Control) : Option Control :=
  if c.state = .idle then some { c with state := .running } else none

/-- Ends the watchdog. -/
def finish (c : Control) : Control :=
  { c with state := .stopped }

/-- Whether the watchdog is stopped or will be at its next wake-up. -/
def isStopping (c : Control) : Bool :=
  c.stopRequested || decide (c.state = .stopped)

@[simp] theorem stopRequested_stop (c : Control) : c.stop.stopRequested = true := by
  unfold stop closeIdle
  split <;> rfl

@[simp] theorem isStopping_stop (c : Control) : c.stop.isStopping = true := by
  simp [isStopping]

@[simp] theorem isStopping_finish (c : Control) : c.finish.isStopping = true := by
  simp [isStopping, finish]

@[simp] theorem stopIf_false (c : Control) : c.stopIf false = c := rfl

/-- A stop of a watchdog that was started only notes the request. -/
theorem stopIf_of_ne_idle {c : Control} (asked : Bool) (h : c.state ≠ .idle) :
    c.stopIf asked = { c with stopRequested := asked || c.stopRequested } := by
  cases asked <;> simp [stopIf, stop, closeIdle, requestStop, h]

/-- So it leaves the state. -/
theorem state_stopIf {c : Control} (asked : Bool) (h : c.state ≠ .idle) : (c.stopIf asked).state = c.state := by
  rw [stopIf_of_ne_idle asked h]

/-- Exactly an idle watchdog can be started, and it runs then. -/
theorem start?_eq_some_iff {c d : Control} : c.start? = some d ↔ c.state = .idle ∧ d = { c with state := .running } := by
  by_cases h : c.state = .idle
  · simp [start?, h, eq_comm]
  · simp [start?, h]

end Control

end MemoryWatchdog
