import MemoryWatchdog.FileTree

/-!
# The host of a worker

What the watchdog's handlers act on: a shutdown request that the host waits for, and the signals that its process receives. A
shutdown can be requested only while somebody listens; once it is, it stays so. Signals of one kind that arrive before the host
looks count once.
-/

namespace MemoryWatchdog

/-- A shutdown request: whether it was made, and how many listeners are left. -/
structure Shutdown where
  requested : Bool := false
  listeners : Nat := 1
  deriving DecidableEq, Repr

namespace Shutdown

/-- Makes the request, unless nobody listens. -/
def request (s : Shutdown) : Option Shutdown :=
  if s.listeners = 0 then none else some { s with requested := true }

/-- A further listener, if there is one to copy. -/
def addListener (s : Shutdown) : Shutdown :=
  if s.listeners = 0 then s else { s with listeners := s.listeners + 1 }

/-- One listener less. -/
def dropListener (s : Shutdown) : Shutdown :=
  { s with listeners := s.listeners - 1 }

/-- A request is refused if and only if nobody waits for it. -/
theorem request_eq_none_iff {s : Shutdown} : s.request = none ↔ s.listeners = 0 := by
  simp [request]

/-- A request that is not refused is noted. -/
theorem requested_of_request {s t : Shutdown} (h : s.request = some t) : t.requested = true := by
  simp only [request, Option.ite_none_left_eq_some, Option.some.injEq] at h
  rw [← h.2]

end Shutdown

/-- A signal that asks the worker to stop. -/
inductive Signal
  | interrupt
  | terminate
  deriving DecidableEq, Repr

def Signal.name : Signal → String
  | .interrupt => "SIGINT"
  | .terminate => "SIGTERM"

/-- The signals that arrived and were not looked at yet. -/
structure Signals where
  interrupt : Bool := false
  terminate : Bool := false
  deriving DecidableEq, Repr

namespace Signals

/-- A signal arrives. -/
def raise (s : Signals) : Signal → Signals
  | .interrupt => { s with interrupt := true }
  | .terminate => { s with terminate := true }

/-- The kinds of signals that arrived. -/
def arrived (s : Signals) : List Signal :=
  (if s.interrupt then [.interrupt] else []) ++ (if s.terminate then [.terminate] else [])

end Signals

/-- The host: its files, what else measurements are taken from, the shutdown request, the signals, and the number of the process. -/
structure Host (π : Type) where
  files : FileTree := {}
  memory : π
  shutdown : Shutdown := {}
  signals : Signals := {}
  pid : Int

end MemoryWatchdog
