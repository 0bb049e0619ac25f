import MemoryWatchdog.Calendar
import MemoryWatchdog.Handler
import MemoryWatchdog.Reporter

/-!
# Watchdogs

A watchdog calls its monitors in regular intervals and its handler when one of them has violated its limit too often in a row. A
configuration may be refused: the interval must not be zero and the names of the monitors must be distinct. A `Watchdog` is a
configuration that was not refused.
-/

namespace MemoryWatchdog

/-- What a watchdog is made of. -/
structure Configuration (σ ρ : Type) where
  handler : Handler σ
  interval : Duration
  monitors : Stack σ
  writeHeapDumps : Bool
  reporter : Reporter ρ

/-- Why a configuration is refused. -/
inductive ConfigurationError
  | zeroInterval
  | duplicateMonitor (name : String)
  deriving DecidableEq, Repr

/-- The text of an error. -/
def ConfigurationError.message : ConfigurationError → String
  | .zeroInterval => "watchdog sleep interval must be greater than zero"
  | .duplicateMonitor name => "monitor name " ++ Text.quoted name ++ " is used more than once"

namespace Configuration

variable {σ ρ : Type}

/-- No monitors, a minute between two ticks, and a handler that only logs. -/
def standard (pid : Int) : Configuration σ Unit where
  handler := .null
  interval := .ofSeconds 60
  monitors := []
  writeHeapDumps := false
  reporter := .logging pid none

/-- Why the configuration is refused, if it is. The interval is looked at first. -/
def fault? (c : Configuration σ ρ) : Option ConfigurationError :=
  if c.interval.nanoseconds = 0 then some .zeroInterval else c.monitors.firstDuplicate?.map .duplicateMonitor

/-- The line that describes a monitor. -/
def describeEntry (e : Monitor.Entry σ) : String :=
  "  - " ++ e.name ++ " (max strikes: " ++ toString e.maxStrikes.toNat ++ ")\n"

/-- A description with a line for each setting and each monitor. -/
def describe (c : Configuration σ ρ) : String :=
  "handler: " ++ c.handler.name ++ "\n"
    ++ "sleep interval: " ++ c.interval.inSeconds.display ++ "s\n"
    ++ "write heap dumps: " ++ (if c.writeHeapDumps then "true" else "false") ++ "\n"
    ++ if c.monitors.isEmpty then "monitors: (none, watchdog is a no-op)\n"
      else "monitors:\n" ++ String.join (c.monitors.map describeEntry)

/-- A configuration is in order if its interval is not zero and its names are distinct. -/
theorem fault?_eq_none_iff {c : Configuration σ ρ} :
    c.fault? = none ↔ c.interval.nanoseconds ≠ 0 ∧ c.monitors.names.Nodup := by
  by_cases h : c.interval.nanoseconds = 0
  · simp [fault?, h]
  · simp [fault?, h, Stack.firstDuplicate?_eq_none_iff]

/-- An interval of zero is found first. -/
theorem fault?_eq_zeroInterval_iff {c : Configuration σ ρ} : c.fault? = some .zeroInterval ↔ c.interval.nanoseconds = 0 := by
  by_cases h : c.interval.nanoseconds = 0 <;> simp [fault?, h]

/-- A name that is used twice is found if the interval is not zero. -/
theorem fault?_eq_duplicateMonitor_iff {c : Configuration σ ρ} {name : String} :
    c.fault? = some (.duplicateMonitor name) ↔ c.interval.nanoseconds ≠ 0 ∧ c.monitors.firstDuplicate? = some name := by
  by_cases h : c.interval.nanoseconds = 0 <;> simp [fault?, h]

end Configuration

/-- A configuration that was not refused. -/
structure Watchdog (σ ρ : Type) extends Configuration σ ρ where
  interval_ne_zero : interval.nanoseconds ≠ 0
  names_nodup : monitors.names.Nodup

/-- Makes a watchdog of a configuration. -/
def Watchdog.ofConfiguration {σ ρ : Type} (c : Configuration σ ρ) : Except ConfigurationError (Watchdog σ ρ) :=
  match h : c.fault? with
  | some e => .error e
  | none =>
    have valid := Configuration.fault?_eq_none_iff.mp h
    .ok { c with interval_ne_zero := valid.1, names_nodup := valid.2 }

/-- A configuration is refused for its fault. -/
theorem Watchdog.ofConfiguration_eq_error_iff {σ ρ : Type} {c : Configuration σ ρ} {e : ConfigurationError} :
    ofConfiguration c = .error e ↔ c.fault? = some e := by
  unfold ofConfiguration
  split
  · next hfault => rw [hfault, Except.error.injEq, Option.some.injEq]
  · next hnone =>
    constructor
    · intro h
      cases h
    · intro hfault
      rw [hnone] at hfault
      cases hfault

/-- A configuration makes the watchdog that it is the configuration of, and no other. -/
theorem Watchdog.ofConfiguration_eq_ok_iff {σ ρ : Type} {c : Configuration σ ρ} {w : Watchdog σ ρ} :
    ofConfiguration c = .ok w ↔ w.toConfiguration = c := by
  unfold ofConfiguration
  split
  · next e hfault =>
    constructor
    · intro h
      cases h
    · rintro rfl
      rw [Configuration.fault?_eq_none_iff.mpr ⟨w.interval_ne_zero, w.names_nodup⟩] at hfault
      cases hfault
  · rw [Except.ok.injEq]
    constructor <;> rintro rfl <;> rfl

/-- The configuration of a watchdog makes that watchdog. -/
theorem Watchdog.ofConfiguration_toConfiguration {σ ρ : Type} (w : Watchdog σ ρ) : ofConfiguration w.toConfiguration = .ok w :=
  ofConfiguration_eq_ok_iff.mpr rfl

/-- Why a loop ended: it was asked to stop, or a monitor used up its strikes and the handler was called. -/
inductive Outcome
  | stopped
  | handlerInvoked (monitor : String)
  deriving DecidableEq, Repr

namespace Outcome

/-- How diagnostics show an outcome. -/
def debugText : Outcome → String
  | .stopped => "Stopped"
  | .handlerInvoked monitor => "HandlerInvoked \x7b monitor: " ++ Text.quoted monitor ++ " \x7d"

/-- The reason in the last event of a run. -/
def reason : Outcome → String
  | .stopped => "stop requested"
  | .handlerInvoked monitor => "handler invoked by " ++ monitor

end Outcome

end MemoryWatchdog
