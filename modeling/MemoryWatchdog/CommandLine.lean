import MemoryWatchdog.CommandLine.Texts
import MemoryWatchdog.Lifecycle
import MemoryWatchdog.Settings.File

/-!
# The program

What the program does apart from input and output. From its arguments, the environment and the files it finds a plan: to end at once
with some output, or to supervise a worker. Supervision starts with the worker's start hook, goes on until a signal arrives or the
watchdog asks for a shutdown, and ends with the stop hook and the outcome of the watchdog.
-/

namespace MemoryWatchdog

namespace CommandLine

/-- How diagnostics show a truth value. -/
def truthText (b : Bool) : String :=
  if b then "true" else "false"

/-- How diagnostics show a role. -/
def roleText : Role → String
  | .web => "Web"
  | .job => "Job"

/-- How diagnostics show options. -/
def Options.debugText (o : Options) : String :=
  "Cli \x7b role: " ++ roleText o.role ++ ", config: " ++ Text.quoted o.config ++ ", dry_run: " ++ truthText o.dryRun
    ++ ", verbose: " ++ truthText o.verbose ++ ", json: " ++ truthText o.json ++ " \x7d"

/-- The lowest level that is logged. -/
def Options.logLevel (o : Options) : Log.Level :=
  if o.verbose then .debug else .info

/-- The end of the program: its exit code and what it prints. -/
structure Exit where
  code : Nat
  output : String := ""
  errors : String := ""
  deriving DecidableEq, Repr

/-- What the program does. -/
inductive Plan where
  | finish (exit : Exit)
  | supervise (options : Options) (settings : Settings)

variable {π : Type}

/-- Describes the watchdog of a role, or says why there is none. -/
def dryRun (role : Role) (settings : Settings) (probe : Probe (Host π)) (h : Host π) : Exit × Log :=
  let made := settings.watchdog role probe h
  let exit : Exit := match made.ending with
    | .returned (.ok w) => { code := 0, output := "role: " ++ role.name ++ "\n" ++ w.describe }
    | .returned (.error e) => { code := 1, errors := "invalid configuration: " ++ e.message ++ "\n" }
    | .panicked p => { code := 101, errors := p.message ++ "\n" }
  (exit, made.log)

/-- What the program does for options. -/
def planRun (options : Options) (lookup : String → Option String) (probe : Probe (Host π)) (h : Host π) : Plan × Log :=
  let read : Log := #[⟨.debug, "parsed CLI arguments", [("cli", .text options.debugText)]⟩]
  match Settings.load options.config h.files lookup with
  | (.error e, log) =>
    (.finish { code := 1 }, (read ++ log).push ⟨.error, "failed to load settings", [("error", .text e.message)]⟩)
  | (.ok settings, log) =>
    if options.dryRun then
      let (exit, made) := dryRun options.role settings probe h
      (.finish exit, read ++ log ++ made)
    else (.supervise options settings, read ++ log)

/-- What the program does for arguments. -/
def plan (arguments : List String) (lookup : String → Option String) (probe : Probe (Host π)) (h : Host π) : Plan × Log :=
  match Request.ofArguments arguments with
  | .error e => (.finish { code := 2, errors := e.message }, #[])
  | .ok (.help full) => (.finish { code := 0, output := helpText full }, #[])
  | .ok .version => (.finish { code := 0, output := versionText }, #[])
  | .ok (.run options) => planRun options lookup probe h

/-- Why supervision ends. -/
inductive Cause where
  | signal (s : Signal)
  | shutdown
  deriving DecidableEq, Repr

/-- The line that says why supervision ends. -/
def Cause.line : Cause → Log.Entry
  | .signal s => ⟨.info, "shutdown signal received", [("signal", .text s.name)]⟩
  | .shutdown => { level := .info, message := "graceful shutdown requested by memory watchdog" }

/-- Why supervision has to end now, if it has. -/
def cause? (h : Host π) : Option Cause :=
  match h.signals.arrived with
  | s :: _ => some (.signal s)
  | [] => if h.shutdown.requested then some .shutdown else none

/-- Starts supervision. -/
def begin (role : Role) (hooks : Hooks (Lifecycle π)) (l : Lifecycle π) : Ending Unit × Lifecycle π :=
  hooks.start (l.write ⟨.info, "memwatch worker starting", [("role", .text role.name), ("pid", .number l.host.pid)]⟩)

/-- Stops supervision. -/
def stop (cause : Cause) (hooks : Hooks (Lifecycle π)) (l : Lifecycle π) : Ending Unit × Lifecycle π :=
  hooks.stop (l.write cause.line)

/-- Joins the watchdog and tells its outcome. -/
def conclude (l : Lifecycle π) : Lifecycle π :=
  match l.settle.join with
  | (none, l) => l.write { level := .debug, message := "no memory watchdog was running" }
  | (some i, l) =>
    match (l.started[i]?).bind Supervisor.outcome? with
    | none => l
    | some outcome => l.write ⟨.info, "memory watchdog finished", [("outcome", .text outcome.debugText)]⟩

end CommandLine

end MemoryWatchdog
