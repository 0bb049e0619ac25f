import MemoryWatchdog.Binary64
import MemoryWatchdog.Saturating

/-!
# Settings

The twelve settings of a watchdog and what follows from them. Each setting is a `Field` with a name in the settings file, an
environment variable and a kind of value; `Settings.get` and `Settings.set` reach a setting through its field, so that the two
layers over the defaults can be written once for all fields. The statements say that setting a field changes that field alone.
-/

namespace MemoryWatchdog

/-- The settings of a watchdog. -/
structure Settings where
  /-- Whether a breach asks for a heap report, which is written when the worker stops. -/
  dumpHeap : Bool := false
  /-- The seconds between two ticks of a web worker's watchdog. -/
  sleepSeconds : UInt64 := 60
  /-- The strikes that a web worker's heap monitors allow. -/
  maxStrikes : UInt32 := 5
  /-- The highest heap fragmentation, as a ratio. -/
  maxFragmentation : Binary64 := .ofRat (1 / 2)
  /-- The highest growth of the unique memory, as a factor of the baseline. -/
  maxGrowth : Binary64 := .ofNat 3
  /-- The directory of heap reports. -/
  reportsDirectory : String := "tmp/diagnostic_reports"
  /-- Whether web workers are watched for the shape of their heap and not for their resident memory. -/
  workerKillerDisabled : Bool := false
  /-- The resident memory of a web worker, in units of 2^20 bytes. -/
  webMaxMegabytes : UInt64 := 1200
  /-- The seconds between two ticks of a job worker's watchdog, before the floor. -/
  jobCheckSeconds : UInt64 := 3
  /-- The resident memory that a job worker may exceed for a while, in units of 2^10 bytes. Zero is no limit. -/
  jobSoftKilobytes : UInt64 := 0
  /-- How long a job worker may exceed the soft limit. -/
  jobGraceSeconds : UInt64 := 300
  /-- The resident memory that a job worker may not exceed, in units of 2^10 bytes. Zero is no limit. -/
  jobHardKilobytes : UInt64 := 0
  deriving DecidableEq

namespace Settings

/-- A job worker's interval is never below two seconds. -/
def minJobInterval : UInt64 := 2

/-- The seconds between two ticks of a job worker's watchdog. -/
def jobInterval (s : Settings) : UInt64 :=
  max s.jobCheckSeconds minJobInterval

/-- The strikes that the soft limit allows: the intervals that fit whole into the grace time, or the greatest number. -/
def jobSoftMaxStrikes (s : Settings) : UInt32 :=
  .ofNat (min (s.jobGraceSeconds.toNat / s.jobInterval.toNat) (UInt32.size - 1))

/-- The limit of a web worker's resident memory, in bytes. -/
def webMaxBytes (s : Settings) : UInt64 :=
  saturatingMul s.webMaxMegabytes 0x100000

/-- The soft limit of a job worker's resident memory, in bytes. -/
def jobSoftBytes (s : Settings) : UInt64 :=
  saturatingMul s.jobSoftKilobytes 0x400

/-- The hard limit of a job worker's resident memory, in bytes. -/
def jobHardBytes (s : Settings) : UInt64 :=
  saturatingMul s.jobHardKilobytes 0x400

/-- What kind of value a setting has. -/
inductive Kind
  | flag
  | number
  | count
  | ratio
  | path
  deriving DecidableEq, Repr

/-- The values of a kind. -/
abbrev Kind.Carrier : Kind → Type
  | .flag => Bool
  | .number => UInt64
  | .count => UInt32
  | .ratio => Binary64
  | .path => String

/-- The settings by name. -/
inductive Field
  | dumpHeap
  | sleepSeconds
  | maxStrikes
  | maxFragmentation
  | maxGrowth
  | reportsDirectory
  | workerKillerDisabled
  | webMaxMegabytes
  | jobCheckSeconds
  | jobSoftKilobytes
  | jobGraceSeconds
  | jobHardKilobytes
  deriving DecidableEq, Repr

namespace Field

/-- All fields, in the order in which the environment is consulted. -/
def all : List Field :=
  [.dumpHeap, .sleepSeconds, .maxStrikes, .maxFragmentation, .maxGrowth, .reportsDirectory, .workerKillerDisabled,
    .webMaxMegabytes, .jobCheckSeconds, .jobSoftKilobytes, .jobGraceSeconds, .jobHardKilobytes]

def kind : Field → Kind
  | .dumpHeap | .workerKillerDisabled => .flag
  | .maxStrikes => .count
  | .maxFragmentation | .maxGrowth => .ratio
  | .reportsDirectory => .path
  | .sleepSeconds | .webMaxMegabytes | .jobCheckSeconds | .jobSoftKilobytes | .jobGraceSeconds | .jobHardKilobytes => .number

/-- The key in the settings file. -/
def key : Field → String
  | .dumpHeap => "dump_heap"
  | .sleepSeconds => "sleep_time_secs"
  | .maxStrikes => "max_strikes"
  | .maxFragmentation => "max_heap_fragmentation"
  | .maxGrowth => "max_memory_growth"
  | .reportsDirectory => "reports_dir"
  | .workerKillerDisabled => "disable_worker_killer"
  | .webMaxMegabytes => "web_worker_max_memory_mb"
  | .jobCheckSeconds => "job_check_interval_secs"
  | .jobSoftKilobytes => "job_max_rss_kb"
  | .jobGraceSeconds => "job_grace_time_secs"
  | .jobHardKilobytes => "job_hard_limit_rss_kb"

/-- The environment variable. -/
def environmentName : Field → String
  | .dumpHeap => "MEMWD_DUMP_HEAP"
  | .sleepSeconds => "MEMWD_SLEEP_TIME_SEC"
  | .maxStrikes => "MEMWD_MAX_STRIKES"
  | .maxFragmentation => "MEMWD_MAX_HEAP_FRAG"
  | .maxGrowth => "MEMWD_MAX_MEM_GROWTH"
  | .reportsDirectory => "MEMWD_REPORTS_DIR"
  | .workerKillerDisabled => "DISABLE_WEB_WORKER_KILLER"
  | .webMaxMegabytes => "WEB_WORKER_MAX_MEMORY"
  | .jobCheckSeconds => "JOB_MEMORY_KILLER_CHECK_INTERVAL"
  | .jobSoftKilobytes => "JOB_MEMORY_KILLER_MAX_RSS"
  | .jobGraceSeconds => "JOB_MEMORY_KILLER_GRACE_TIME"
  | .jobHardKilobytes => "JOB_MEMORY_KILLER_HARD_LIMIT_RSS"

/-- The field with a key in the settings file. -/
def ofKey? (key : String) : Option Field :=
  all.find? (·.key == key)

/-- There are no other fields. -/
theorem mem_all (f : Field) : f ∈ all := by
  cases f <;> decide

/-- Different fields have different keys. -/
theorem key_injective {f g : Field} (h : f.key = g.key) : f = g := by
  revert h
  cases f <;> cases g <;> decide

/-- They have different variables too. -/
theorem environmentName_injective {f g : Field} (h : f.environmentName = g.environmentName) : f = g := by
  revert h
  cases f <;> cases g <;> decide

end Field

/-- The value of a setting. -/
def get (s : Settings) : (f : Field) → f.kind.Carrier
  | .dumpHeap => s.dumpHeap
  | .sleepSeconds => s.sleepSeconds
  | .maxStrikes => s.maxStrikes
  | .maxFragmentation => s.maxFragmentation
  | .maxGrowth => s.maxGrowth
  | .reportsDirectory => s.reportsDirectory
  | .workerKillerDisabled => s.workerKillerDisabled
  | .webMaxMegabytes => s.webMaxMegabytes
  | .jobCheckSeconds => s.jobCheckSeconds
  | .jobSoftKilobytes => s.jobSoftKilobytes
  | .jobGraceSeconds => s.jobGraceSeconds
  | .jobHardKilobytes => s.jobHardKilobytes

/-- The settings with another value of one setting. -/
def set (s : Settings) : (f : Field) → f.kind.Carrier → Settings
  | .dumpHeap, v => { s with dumpHeap := v }
  | .sleepSeconds, v => { s with sleepSeconds := v }
  | .maxStrikes, v => { s with maxStrikes := v }
  | .maxFragmentation, v => { s with maxFragmentation := v }
  | .maxGrowth, v => { s with maxGrowth := v }
  | .reportsDirectory, v => { s with reportsDirectory := v }
  | .workerKillerDisabled, v => { s with workerKillerDisabled := v }
  | .webMaxMegabytes, v => { s with webMaxMegabytes := v }
  | .jobCheckSeconds, v => { s with jobCheckSeconds := v }
  | .jobSoftKilobytes, v => { s with jobSoftKilobytes := v }
  | .jobGraceSeconds, v => { s with jobGraceSeconds := v }
  | .jobHardKilobytes, v => { s with jobHardKilobytes := v }

@[simp] theorem get_set_self (s : Settings) (f : Field) (v : f.kind.Carrier) : (s.set f v).get f = v := by
  cases f <;> rfl

/-- Setting a field leaves the others. -/
theorem get_set_of_ne (s : Settings) {f g : Field} (v : f.kind.Carrier) (h : f ≠ g) : (s.set f v).get g = s.get g := by
  cases f <;> cases g <;> simp at h <;> rfl

/-- Settings that agree on every field are equal. -/
theorem eq_of_get {s t : Settings} (h : ∀ f, s.get f = t.get f) : s = t := by
  have h1 := h .dumpHeap
  have h2 := h .sleepSeconds
  have h3 := h .maxStrikes
  have h4 := h .maxFragmentation
  have h5 := h .maxGrowth
  have h6 := h .reportsDirectory
  have h7 := h .workerKillerDisabled
  have h8 := h .webMaxMegabytes
  have h9 := h .jobCheckSeconds
  have h10 := h .jobSoftKilobytes
  have h11 := h .jobGraceSeconds
  have h12 := h .jobHardKilobytes
  cases s
  cases t
  simp only [get] at h1 h2 h3 h4 h5 h6 h7 h8 h9 h10 h11 h12
  subst h1 h2 h3 h4 h5 h6 h7 h8 h9 h10 h11 h12
  rfl

end Settings

end MemoryWatchdog
