import MemoryWatchdog.Monitor

/-!
# Limits on memory

Three monitors over a probe: resident memory above a number of bytes, heap fragmentation above a ratio, and growth of the process's
own memory above a multiple of a baseline. An amount equal to its limit is no violation, and a limit that is no number never is
exceeded. The baseline is sampled once, when the monitor is made; without one the monitor fails whenever it is called.
-/

namespace MemoryWatchdog

namespace Monitor

/-- A verdict whose payload says, if there is a violation, which one. -/
def verdict (violated : Bool) (fields : Payload) (message : String) : Verdict :=
  ⟨violated, if violated then fields ++ [("message", .string message)] else fields⟩

/-- Judges what was measured; a failure or a panic of the measurement is one of the monitor. -/
def judging {σ α : Type} (measured : Reading α × σ) (judge : α → Verdict) : Reply σ (Except MonitorError Verdict) :=
  { ending := match measured.1 with
      | .returned (.ok a) => .returned (.ok (judge a))
      | .returned (.error e) => .returned (.error (.measurement e))
      | .panicked p => .panicked p
    state := measured.2 }

/-- Judges a number of resident bytes. -/
def judgeResident (limit resident : UInt64) : Verdict :=
  verdict (decide (limit < resident))
    [("memwd_max_rss_bytes", .integer limit.toNat), ("memwd_rss_bytes", .integer resident.toNat)]
    "rss memory limit exceeded"

/-- A limit on the resident memory. -/
def residentLimit {σ : Type} (probe : Probe σ) (limit : UInt64) : Monitor σ where
  name := "rss_memory_limit"
  check s := judging (probe.resident s) (judgeResident limit)

/-- Judges the heap by its fragmentation. -/
def judgeHeap (limit : Binary64) (heap : HeapStats) : Verdict :=
  verdict (limit.lt heap.fragmentation)
    [("memwd_cur_heap_frag", .ofBinary64 heap.fragmentation), ("memwd_max_heap_frag", .ofBinary64 limit)]
    "heap fragmentation limit exceeded"

/-- A limit on the fragmentation of the heap. -/
def fragmentationLimit {σ : Type} (probe : Probe σ) (limit : Binary64) : Monitor σ where
  name := "heap_fragmentation"
  check s := judging (probe.heap s) (judgeHeap limit)

/-- Judges a number of bytes by its growth over a reference. -/
def judgeGrowth (limit : Binary64) (reference current : UInt64) : Verdict :=
  let factor := growth current reference
  let violated := limit.lt factor
  verdict violated
    ([("memwd_cur_uss_bytes", .integer current.toNat), ("memwd_max_uss_growth", .ofBinary64 limit),
      ("memwd_ref_uss_bytes", .integer reference.toNat)]
      ++ if violated then [("memwd_uss_growth", .ofBinary64 factor)] else [])
    "memory limit exceeded"

/-- Samples the baseline of a limit on growth. A sample of zero is none. -/
def sampleBaseline {σ : Type} (probe : Probe σ) (s : σ) : Reply σ (Option UInt64) :=
  let (reading, s) := probe.unique s
  match reading with
  | .returned (.ok n) =>
    if n = 0 then
      { ending := .returned none, state := s, log := #[{ level := .warn, message := "unique memory baseline sampled as zero" }] }
    else { ending := .returned (some n), state := s }
  | .returned (.error e) =>
    { ending := .returned none, state := s,
      log := #[⟨.warn, "failed to sample unique memory baseline", [("error", .text e.message)]⟩] }
  | .panicked p => { ending := .panicked p, state := s }

/-- A limit on the growth of the process's own memory over a baseline. -/
def growthLimit {σ : Type} (probe : Probe σ) (limit : Binary64) (baseline : Option UInt64) : Monitor σ where
  name := "unique_memory_growth"
  check s :=
    match baseline with
    | none => { ending := .returned (.error (.missingBaseline "reference USS was not captured")), state := s }
    | some reference => judging (probe.unique s) (judgeGrowth limit reference)

end Monitor

end MemoryWatchdog
