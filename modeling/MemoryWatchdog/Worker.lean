import MemoryWatchdog.Monitor.Limits
import MemoryWatchdog.Role
import MemoryWatchdog.Settings
import MemoryWatchdog.Watchdog

/-!
# The watchdogs of workers

What each role is supervised by. A web worker has a limit on its resident memory without any allowance or, if worker killing is
disabled, limits on the shape of its heap that allow some strikes; it is asked to shut down gracefully. A job worker has a soft limit
that allows strikes for its grace time and a hard limit that allows none, each only if it is set; it is sent a termination signal.
-/

namespace MemoryWatchdog

/-- The name of a job worker's soft limit. -/
def softLimitName : String := "rss_memory_soft_limit"

/-- The name of a job worker's hard limit. -/
def hardLimitName : String := "rss_memory_hard_limit"

namespace Settings

variable {π : Type}

/-- The monitors of a web worker. The baseline of its growth is sampled here, which may log and may panic. -/
def webMonitors (s : Settings) (probe : Probe (Host π)) (h : Host π) : Reply (Host π) (Stack (Host π)) :=
  if s.workerKillerDisabled then
    let sample := Monitor.sampleBaseline probe h
    { ending := match sample.ending with
        | .panicked p => .panicked p
        | .returned baseline =>
          .returned [(Monitor.fragmentationLimit probe s.maxFragmentation).entry s.maxStrikes,
            (Monitor.growthLimit probe s.maxGrowth baseline).entry s.maxStrikes]
      state := sample.state
      log := sample.log }
  else { ending := .returned [(Monitor.residentLimit probe s.webMaxBytes).entry 0], state := h }

/-- The monitors of a job worker. -/
def jobMonitors (s : Settings) (probe : Probe (Host π)) : Stack (Host π) :=
  (if s.jobSoftKilobytes ≠ 0 then
    [⟨softLimitName, s.jobSoftMaxStrikes, Monitor.residentLimit probe s.jobSoftBytes⟩] else [])
  ++ if s.jobHardKilobytes ≠ 0 then [⟨hardLimitName, 0, Monitor.residentLimit probe s.jobHardBytes⟩] else []

/-- The configuration of a role with given monitors. -/
def configurationWith (s : Settings) (role : Role) (pid : Int) (monitors : Stack (Host π)) : Configuration (Host π) Unit where
  handler := match role with
    | .web => .gracefulShutdown
    | .job => .terminate pid
  interval := .ofSeconds (match role with
    | .web => s.sleepSeconds.toNat
    | .job => s.jobInterval.toNat)
  monitors
  writeHeapDumps := s.dumpHeap
  reporter := .logging pid (some role.name)

/-- The monitors of a role. -/
def monitors (s : Settings) (role : Role) (probe : Probe (Host π)) (h : Host π) : Reply (Host π) (Stack (Host π)) :=
  match role with
  | .web => s.webMonitors probe h
  | .job => { ending := .returned (s.jobMonitors probe), state := h }

/-- The watchdog of a role, unless its configuration is refused. -/
def watchdog (s : Settings) (role : Role) (probe : Probe (Host π)) (h : Host π) :
    Reply (Host π) (Except ConfigurationError (Watchdog (Host π) Unit)) :=
  let made := s.monitors role probe h
  { ending := match made.ending with
      | .panicked p => .panicked p
      | .returned stack => .returned (Watchdog.ofConfiguration (s.configurationWith role h.pid stack))
    state := made.state
    log := made.log }

end Settings

end MemoryWatchdog
