import MemoryWatchdog.Event

/-!
# Reporters

A reporter receives the events of a watchdog one by one. It may fail or panic, which the watchdog only logs, and it may ask for a stop
like any other holder of a handle. The logging reporter writes one line per event.
-/

namespace MemoryWatchdog

/-- Why a report fails. -/
structure ReportError where
  reason : String
  deriving DecidableEq, Repr

/-- The text of an error. -/
def ReportError.message (e : ReportError) : String :=
  "event report failed: " ++ e.reason

/-- A receiver of events with a state of its own. A report ends in some way, changes the state, may log, and may ask for the watchdog
that reports to stop. -/
structure Reporter (ρ : Type) where
  report : Event → ρ → Ending (Except ReportError Unit) × ρ × Log
  stops : Event → ρ → Bool := fun _ _ => false

/-- The state that a report leaves. -/
def Reporter.take {ρ : Type} (r : Reporter ρ) (state : ρ) (e : Event) : ρ :=
  (r.report e state).2.1

/-- The log line of an event. -/
def Event.logEntry (pid : Int) (role : Option String) (e : Event) : Log.Entry :=
  ⟨e.level, "memory watchdog",
    [("event", .text e.kind), ("pid", .number pid), ("role", .text (role.getD "-")),
      ("attributes", .text (Json.object e.attributes).compact)]⟩

/-- Writes each event to the log. -/
def Reporter.logging (pid : Int) (role : Option String) : Reporter Unit where
  report e _ := (.returned (.ok ()), (), #[e.logEntry pid role])

end MemoryWatchdog
