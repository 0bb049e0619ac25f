import MemoryWatchdog.DumpQueue
import MemoryWatchdog.Watchdog
import MemoryWatchdog.Watchdog.Control

/-!
# The scene of a watchdog

All that a running watchdog can change: the surroundings, the state of its reporter, the requests for heap reports, its control, the
log, and a journal of what it did. Calls to monitors, handlers and reporters end in a reply, which the scene takes in; a failed or
panicked report leaves a warning and nothing else. The statements say what each of these changes and what it leaves alone.
-/

namespace MemoryWatchdog

/-- What an evaluation of a monitor found: a verdict, or why there is none. -/
abbrev Finding := Except String Verdict

/-- What a watchdog does. -/
inductive Act
  | evaluated (monitor : String) (finding : Finding)
  | reported (event : Event)
  | dumpRequested (monitor : String)
  | handlerCalled (monitor : String)

/-- What a running watchdog can change. The journal has the latest act first. -/
structure Scene (σ ρ : Type) where
  surroundings : σ
  reporter : ρ
  dumps : DumpQueue := {}
  control : Control := {}
  log : Log := #[]
  journal : List Act := []

/-- What a panic or an error of a call is told as, in front of its text if it was a panic. -/
def Ending.finding {ε α : Type} (panicked : String) (message : ε → String) : Ending (Except ε α) → Except String α
  | .returned (.ok a) => .ok a
  | .returned (.error e) => .error (message e)
  | .panicked p => .error (panicked ++ ": " ++ p.message)

namespace Scene

variable {σ ρ : Type}

/-- The acts in the order in which they were done. -/
def history (sc : Scene σ ρ) : List Act :=
  sc.journal.reverse

/-- Notes an act. -/
def note (act : Act) (sc : Scene σ ρ) : Scene σ ρ :=
  { sc with journal := act :: sc.journal }

/-- Takes in what a call left. -/
def receive {α : Type} (reply : Reply σ α) (sc : Scene σ ρ) : Scene σ ρ :=
  { sc with
    surroundings := reply.state
    log := sc.log ++ reply.log
    control := sc.control.stopIf reply.stops }

/-- The warning about a report that failed or panicked. -/
def reportWarning (e : Event) : Ending (Except ReportError Unit) → Log
  | .returned (.ok _) => #[]
  | .returned (.error r) => #[⟨.warn, "event reporter failed", [("event", .text e.kind), ("error", .text r.message)]⟩]
  | .panicked p => #[⟨.warn, "event reporter panicked", [("event", .text e.kind), ("panic", .text p.message)]⟩]

/-- Reports an event. -/
def emit (r : Reporter ρ) (e : Event) (sc : Scene σ ρ) : Scene σ ρ :=
  let (ending, state, log) := r.report e sc.reporter
  { sc with
    reporter := state
    log := sc.log ++ log ++ reportWarning e ending
    control := sc.control.stopIf (r.stops e sc.reporter)
    journal := .reported e :: sc.journal }

@[simp] theorem surroundings_note (act : Act) (sc : Scene σ ρ) : (sc.note act).surroundings = sc.surroundings := rfl

@[simp] theorem reporter_note (act : Act) (sc : Scene σ ρ) : (sc.note act).reporter = sc.reporter := rfl

@[simp] theorem dumps_note (act : Act) (sc : Scene σ ρ) : (sc.note act).dumps = sc.dumps := rfl

@[simp] theorem control_note (act : Act) (sc : Scene σ ρ) : (sc.note act).control = sc.control := rfl

@[simp] theorem history_note (act : Act) (sc : Scene σ ρ) : (sc.note act).history = sc.history ++ [act] := by
  simp [history, note]

@[simp] theorem surroundings_receive {α : Type} (reply : Reply σ α) (sc : Scene σ ρ) :
    (sc.receive reply).surroundings = reply.state := rfl

@[simp] theorem reporter_receive {α : Type} (reply : Reply σ α) (sc : Scene σ ρ) :
    (sc.receive reply).reporter = sc.reporter := rfl

@[simp] theorem dumps_receive {α : Type} (reply : Reply σ α) (sc : Scene σ ρ) : (sc.receive reply).dumps = sc.dumps := rfl

@[simp] theorem control_receive {α : Type} (reply : Reply σ α) (sc : Scene σ ρ) :
    (sc.receive reply).control = sc.control.stopIf reply.stops := rfl

@[simp] theorem history_receive {α : Type} (reply : Reply σ α) (sc : Scene σ ρ) :
    (sc.receive reply).history = sc.history := rfl

@[simp] theorem surroundings_emit (r : Reporter ρ) (e : Event) (sc : Scene σ ρ) :
    (sc.emit r e).surroundings = sc.surroundings := rfl

@[simp] theorem reporter_emit (r : Reporter ρ) (e : Event) (sc : Scene σ ρ) :
    (sc.emit r e).reporter = r.take sc.reporter e := rfl

@[simp] theorem dumps_emit (r : Reporter ρ) (e : Event) (sc : Scene σ ρ) : (sc.emit r e).dumps = sc.dumps := rfl

@[simp] theorem control_emit (r : Reporter ρ) (e : Event) (sc : Scene σ ρ) :
    (sc.emit r e).control = sc.control.stopIf (r.stops e sc.reporter) := rfl

/-- Neither a call nor a report starts or ends a watchdog that was started. -/
theorem state_receive {α : Type} (reply : Reply σ α) {sc : Scene σ ρ} (h : sc.control.state ≠ .idle) :
    (sc.receive reply).control.state = sc.control.state :=
  Control.state_stopIf _ h

theorem state_emit (r : Reporter ρ) (e : Event) {sc : Scene σ ρ} (h : sc.control.state ≠ .idle) :
    (sc.emit r e).control.state = sc.control.state :=
  Control.state_stopIf _ h

@[simp] theorem history_emit (r : Reporter ρ) (e : Event) (sc : Scene σ ρ) :
    (sc.emit r e).history = sc.history ++ [.reported e] := by
  simp [history, emit]

end Scene

end MemoryWatchdog
