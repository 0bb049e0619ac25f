import MemoryWatchdog.Host
import MemoryWatchdog.Monitor

/-!
# Handlers

A handler is the corrective action of a watchdog, run once a monitor has used up its strikes. One only logs, one asks the host to
shut down, and one sends a termination signal to a process. A handler may fail or panic like a monitor.
-/

namespace MemoryWatchdog

/-- Why a handler fails. -/
inductive HandlerError
  | signalRefused (pid : Int) (reason : String)
  | noListener
  deriving DecidableEq, Repr

/-- The text of an error. -/
def HandlerError.message : HandlerError → String
  | .signalRefused pid reason => "failed to send SIGTERM to pid " ++ toString pid ++ ": " ++ reason
  | .noListener => "shutdown requested but the host runtime is no longer listening"

/-- The text of what caused an error, if something else did. -/
def HandlerError.cause : HandlerError → Option String
  | .signalRefused _ reason => some reason
  | .noListener => none

/-- A corrective action. -/
structure Handler (σ : Type) where
  name : String
  call : σ → Reply σ (Except HandlerError Unit)

namespace Handler

/-- Only logs that it was called. -/
def null {σ : Type} : Handler σ where
  name := "null"
  call s :=
    { ending := .returned (.ok ())
      state := s
      log := #[{ level := .warn, message := "memory watchdog handler invoked, but no corrective action is configured" }] }

/-- Asks the host to shut down, which fails when nobody listens. -/
def gracefulShutdown {π : Type} : Handler (Host π) where
  name := "graceful_shutdown"
  call h :=
    let log : Log := #[{ level := .warn, message := "requesting graceful worker shutdown" }]
    match h.shutdown.request with
    | some shutdown => { ending := .returned (.ok ()), state := { h with shutdown }, log }
    | none => { ending := .returned (.error .noListener), state := h, log }

/-- Sends a termination signal to a process. The host's own process receives it; there is no other. -/
def terminate {π : Type} (pid : Int) : Handler (Host π) where
  name := "term_process"
  call h :=
    let log : Log := #[⟨.warn, "sending SIGTERM", [("pid", .number pid)]⟩]
    if pid = h.pid then
      { ending := .returned (.ok ()), state := { h with signals := h.signals.raise .terminate }, log }
    else { ending := .returned (.error (.signalRefused pid "ESRCH: No such process")), state := h, log }

end Handler

end MemoryWatchdog
