import MemoryWatchdog.HeapReport.Writing
import MemoryWatchdog.Hooks
import MemoryWatchdog.Watchdog.Run
import MemoryWatchdog.Worker

/-!
# The life of a supervised worker

A slot holds the watchdog of a worker. The hook at the worker's start puts one there, unless the one that is there is still needed;
the hook at its stop asks the one in the slot to stop and writes a heap report if one was requested. Whoever joins takes the watchdog
out of the slot, whether or not its run has ended. All watchdogs that were ever started are kept, with their controls and runs, so
that it can be said what becomes of each; `Lifecycle.advance` takes their runs through virtual time.
-/

namespace MemoryWatchdog

/-- A watchdog that was started: its control, its run once that has begun, and its journal. -/
structure Supervisor (π : Type) where
  watchdog : Watchdog (Host π) Unit
  control : Control := {}
  run : Option Run := none
  journal : List Act := []

/-- The outcome of a supervisor's run, if that has ended. -/
def Supervisor.outcome? {π : Type} (s : Supervisor π) : Option Outcome :=
  s.run.bind Run.outcome?

/-- A worker and the watchdogs that were started for it. -/
structure Lifecycle (π : Type) where
  host : Host π
  dumps : DumpQueue := {}
  log : Log := #[]
  started : List (Supervisor π) := []
  /-- The position of the watchdog in the slot among those that were started. -/
  slot : Option Nat := none
  /-- The time since the beginning, in milliseconds. -/
  now : Nat := 0
  /-- The time of day, which reports are dated with. -/
  clock : Moment := ⟨0, 0⟩
  /-- Whether there is a runtime that can run watchdogs. -/
  hasRuntime : Bool := true

namespace Lifecycle

variable {π : Type}

/-- The supervisor in the slot. -/
def current? (l : Lifecycle π) : Option (Supervisor π) :=
  l.slot.bind (l.started[·]?)

/-- Adds a line to the log. -/
def write (l : Lifecycle π) (line : Log.Entry) : Lifecycle π :=
  { l with log := l.log.push line }

/-- Takes in what a call left. -/
def receive {α : Type} (l : Lifecycle π) (reply : Reply (Host π) α) : Lifecycle π :=
  { l with host := reply.state, log := l.log ++ reply.log }

/-- Starts the watchdog of a role and puts it into the slot. A watchdog that is there and is not stopping stays; invalid settings and
a missing runtime leave the slot as it is. -/
def startWatchdog (settings : Settings) (role : Role) (probe : Probe (Host π)) (l : Lifecycle π) : Ending Unit × Lifecycle π :=
  let roleField := ("role", Log.Field.text role.name)
  let make (l : Lifecycle π) : Ending Unit × Lifecycle π :=
    let reply := settings.watchdog role probe l.host
    let l := l.receive reply
    match reply.ending with
    | .panicked p => (.panicked p, l)
    | .returned (.error e) =>
      (.returned (),
        l.write ⟨.error, "invalid memory watchdog configuration, not starting", [roleField, ("error", .text e.message)]⟩)
    | .returned (.ok watchdog) =>
      if l.hasRuntime then
        let names := "[" ++ ", ".intercalate (watchdog.monitors.names.map Text.quoted) ++ "]"
        let l := l.write ⟨.info, "starting memory watchdog", [roleField, ("monitors", .text names)]⟩
        (.returned (), { l with started := l.started ++ [{ watchdog }], slot := some l.started.length })
      else
        (.returned (), l.write ⟨.error, "no tokio runtime on worker start, memory watchdog not started", [roleField]⟩)
  match l.current? with
  | none => make l
  | some s =>
    if s.control.isStopping then make (l.write ⟨.debug, "replacing stopped memory watchdog", [roleField]⟩)
    else (.returned (), l.write ⟨.warn, "memory watchdog already running for this worker", [roleField]⟩)

/-- Asks a supervisor to stop. -/
def stopAt (l : Lifecycle π) (i : Nat) : Lifecycle π :=
  { l with started := l.started.modify i fun s => { s with control := s.control.stop } }

/-- Asks the supervisor in the slot to stop. -/
def stopSlot (l : Lifecycle π) : Lifecycle π :=
  match l.slot with
  | none => l
  | some i => l.stopAt i

/-- Writes a heap report if one was requested; that it cannot be written is only logged. -/
def writeReport (settings : Settings) (role : Role) (probe : Probe (Host π)) (l : Lifecycle π) : Ending Unit × Lifecycle π :=
  let (reply, dumps) := HeapReport.writePending probe settings.reportsDirectory role.name l.clock l.dumps l.host
  let l := { l with dumps }.receive reply
  match reply.ending with
  | .returned (.ok _) => (.returned (), l)
  | .returned (.error e) => (.returned (), l.write ⟨.error, "failed to write heap report", [("error", .text e.message)]⟩)
  | .panicked p => (.panicked p, l)

/-- What the worker's stop does. -/
def stopWatchdog (settings : Settings) (role : Role) (probe : Probe (Host π)) (l : Lifecycle π) : Ending Unit × Lifecycle π :=
  let l := l.stopSlot
  if settings.dumpHeap then l.writeReport settings role probe else (.returned (), l)

/-- Registers the two hooks. -/
def install (hooks : Hooks (Lifecycle π)) (settings : Settings) (role : Role) (probe : Probe (Host π)) : Hooks (Lifecycle π) :=
  (hooks.onStart (startWatchdog settings role probe)).onStop (stopWatchdog settings role probe)

/-- Takes the supervisor out of the slot and answers with its position. -/
def join (l : Lifecycle π) : Option Nat × Lifecycle π :=
  (l.slot, { l with slot := none })

/-- What a supervisor can change. -/
def sceneOf (l : Lifecycle π) (s : Supervisor π) : Scene (Host π) Unit :=
  { surroundings := l.host, reporter := (), dumps := l.dumps, control := s.control, log := l.log, journal := s.journal }

/-- Takes in a step that a supervisor made. -/
def absorb (l : Lifecycle π) (i : Nat) (run : Run) (sc : Scene (Host π) Unit) : Lifecycle π :=
  { l with
    host := sc.surroundings
    dumps := sc.dumps
    log := sc.log
    started := l.started.modify i fun s => { s with control := sc.control, run := some run, journal := sc.journal } }

/-- Lets a supervisor make a step: it begins its run, or it wakes up. -/
def step (l : Lifecycle π) (i : Nat) : Lifecycle π :=
  match l.started[i]? with
  | none => l
  | some s =>
    match s.run with
    | none =>
      let (run, sc) := Run.start s.watchdog l.now (l.sceneOf s)
      l.absorb i run sc
    | some (.sleeping strikes _) =>
      let (run, sc) := Run.wake s.watchdog l.now strikes (l.sceneOf s)
      l.absorb i run sc
    | some (.ended _) => l

/-- When a supervisor makes its next step, if it makes one: at once if its run has not begun or is to stop. -/
def Supervisor.stepsAt (now : Nat) (s : Supervisor π) : Option Nat :=
  match s.run with
  | none => some now
  | some (.sleeping _ wakesAt) => some (if s.control.stopRequested then now else wakesAt)
  | some (.ended _) => none

/-- The first of the supervisors with the earliest next step, and when that is. -/
def earliest (now : Nat) : Nat → List (Supervisor π) → Option (Nat × Nat)
  | _, [] => none
  | i, s :: rest =>
    match Supervisor.stepsAt now s, earliest now (i + 1) rest with
    | none, found => found
    | some moment, none => some (i, moment)
    | some moment, some (j, other) => if moment ≤ other then some (i, moment) else some (j, other)

/-- Lets supervisors make their steps up to a moment, at most the given number of them. -/
def stepUntil (moment : Nat) : Nat → Lifecycle π → Lifecycle π
  | 0, l => { l with now := max l.now moment }
  | steps + 1, l =>
    match earliest l.now 0 l.started with
    | none => { l with now := max l.now moment }
    | some (i, due) =>
      if due ≤ moment then stepUntil moment steps ({ l with now := max l.now due }.step i)
      else { l with now := max l.now moment }

/-- Takes all runs on to a moment. A supervisor begins once, ends once and wakes up at most once in a millisecond, which bounds the
number of steps. -/
def advance (l : Lifecycle π) (moment : Nat) : Lifecycle π :=
  stepUntil moment (l.started.length * (moment + 3)) l

/-- Lets the supervisors make the steps that are due. -/
def settle (l : Lifecycle π) : Lifecycle π :=
  l.advance l.now

end Lifecycle

end MemoryWatchdog
