import MemoryWatchdog.Watchdog.Tick

/-!
# Runs

A run starts an idle watchdog, sleeps, and at each wake-up either ends, if a stop was requested, or ticks. A tick with a breach ends
the run. Whoever tries to run a watchdog that is not idle is told at once that it is stopped, and nothing happens. `Run.advance`
takes a run through virtual time: it wakes whenever its sleep is over, at once when a stop is requested, and sleeps again from the
end of each tick.
-/

namespace MemoryWatchdog

/-- Where a run is after it woke up: it sleeps again with these strikes, or it has ended. -/
inductive Progress
  | sleeping (strikes : Strikes)
  | ended (outcome : Outcome)

namespace Watchdog

variable {σ ρ : Type}

/-- The first event of a run. -/
def startedEvent (w : Watchdog σ ρ) : Event :=
  .started w.monitors.names w.handler.name w.interval.inSeconds w.writeHeapDumps

/-- Ends a run. -/
def finish (w : Watchdog σ ρ) (outcome : Outcome) (sc : Scene σ ρ) : Progress × Scene σ ρ :=
  (.ended outcome, { sc with control := sc.control.finish }.emit w.reporter (.stopped outcome.reason))

/-- Starts a run, unless the watchdog is not idle. -/
def start (w : Watchdog σ ρ) (sc : Scene σ ρ) : Progress × Scene σ ρ :=
  match sc.control.start? with
  | some control => (.sleeping {}, { sc with control }.emit w.reporter w.startedEvent)
  | none =>
    (.ended .stopped,
      { sc with
        log := sc.log.push ⟨.debug, "watchdog not idle, not starting", [("state", .text sc.control.state.debugText)]⟩ })

/-- What a run does when it wakes up. -/
def wake (w : Watchdog σ ρ) (strikes : Strikes) (sc : Scene σ ρ) : Progress × Scene σ ρ :=
  if sc.control.stopRequested then w.finish .stopped sc
  else
    match w.tick strikes sc with
    | (strikes, none, sc) => (.sleeping strikes, sc)
    | (_, some monitor, sc) => w.finish (.handlerInvoked monitor) sc

/-- How long a run sleeps, in milliseconds. Clocks cannot count up to an interval of 2^63 seconds or more; such a sleep takes thirty
years. -/
def period (w : Watchdog σ ρ) : Nat :=
  if Int64.size / 2 ≤ w.interval.nanoseconds / 1000000000 then 30 * 365 * 86400 * 1000 else w.interval.inMilliseconds

/-- A sleep takes time. -/
theorem period_pos (w : Watchdog σ ρ) : 0 < w.period := by
  have := w.interval_ne_zero
  unfold period Duration.inMilliseconds
  split <;> omega

end Watchdog

/-- A run on its way through time: the strikes it sleeps with and when it wakes up, or how it ended. -/
inductive Run
  | sleeping (strikes : Strikes) (wakesAt : Nat)
  | ended (outcome : Outcome)

namespace Run

variable {σ ρ : Type}

/-- The run after a step that was made at a moment. -/
def after (w : Watchdog σ ρ) (now : Nat) : Progress → Run
  | .sleeping strikes => .sleeping strikes (now + w.period)
  | .ended outcome => .ended outcome

/-- Starts a run at a moment. -/
def start (w : Watchdog σ ρ) (now : Nat) (sc : Scene σ ρ) : Run × Scene σ ρ :=
  let (progress, sc) := w.start sc
  (after w now progress, sc)

/-- Wakes a run up at a moment. -/
def wake (w : Watchdog σ ρ) (now : Nat) (strikes : Strikes) (sc : Scene σ ρ) : Run × Scene σ ρ :=
  let (progress, sc) := w.wake strikes sc
  (after w now progress, sc)

/-- Takes a sleeping run on to a moment. -/
def sleepUntil (w : Watchdog σ ρ) (moment : Nat) (strikes : Strikes) (wakesAt : Nat) (sc : Scene σ ρ) : Run × Scene σ ρ :=
  if sc.control.stopRequested then wake w moment strikes sc
  else if _due : wakesAt ≤ moment then
    match w.wake strikes sc with
    | (.sleeping strikes, sc) => sleepUntil w moment strikes (wakesAt + w.period) sc
    | (.ended outcome, sc) => (.ended outcome, sc)
  else (.sleeping strikes wakesAt, sc)
termination_by moment + 1 - wakesAt
decreasing_by
  have := w.period_pos
  omega

/-- Takes a run on to a moment. -/
def advance (w : Watchdog σ ρ) (moment : Nat) (run : Run) (sc : Scene σ ρ) : Run × Scene σ ρ :=
  match run with
  | .sleeping strikes wakesAt => sleepUntil w moment strikes wakesAt sc
  | .ended outcome => (.ended outcome, sc)

/-- How the run ended, if it has. -/
def outcome? : Run → Option Outcome
  | .sleeping .. => none
  | .ended outcome => some outcome

end Run

end MemoryWatchdog
