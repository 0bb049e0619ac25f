import MemoryWatchdog.Proofs.Readings
import MemoryWatchdog.Worker

/-!
# When a job worker is terminated

A job worker is watched by a soft limit, which allows one strike for each interval that fits whole into the grace time, and by a hard
limit, which allows none. The settings are 64-bit numbers and the strikes 32-bit numbers, and products and quotients are cut to fit;
here it is said in numbers without bounds when each of the two is exhausted (`exhausted_jobWatchdog_iff`), when the run ends and which
limit it names (`job_ends_when_exhausted`).
-/

namespace MemoryWatchdog

variable {ρ π : Type}

namespace Settings

/-! ## The settings as numbers without bounds -/

/-- The seconds of a job worker's interval. -/
def jobSeconds (s : Settings) : Nat :=
  max s.jobCheckSeconds.toNat 2

/-- How many intervals fit whole into the grace time. -/
def graceTicks (s : Settings) : Nat :=
  s.jobGraceSeconds.toNat / s.jobSeconds

/-- The soft limit is exhausted with a tick: it is set, and the readings of this tick and of as many ticks right before it as intervals
fit into the grace time all exceed it. A grace time of more intervals than can be counted never ends. -/
def SoftExhausted (s : Settings) (soft : Nat → Reading UInt64) (t : Nat) : Prop :=
  s.jobSoftKilobytes ≠ 0 ∧ s.graceTicks < UInt32.size - 1 ∧ s.graceTicks ≤ t ∧
    ∀ m ≤ t, t ≤ m + s.graceTicks → (soft m).exceeds (s.jobSoftKilobytes.toNat * 1024) = true

/-- The hard limit is exhausted with a tick: it is set, and the reading of this tick exceeds it. -/
def HardExhausted (s : Settings) (hard : Nat → Reading UInt64) (t : Nat) : Prop :=
  s.jobHardKilobytes ≠ 0 ∧ (hard t).exceeds (s.jobHardKilobytes.toNat * 1024) = true

instance (s : Settings) (soft : Nat → Reading UInt64) (t : Nat) : Decidable (s.SoftExhausted soft t) :=
  inferInstanceAs (Decidable (_ ∧ _ ∧ _ ∧ _))

instance (s : Settings) (hard : Nat → Reading UInt64) (t : Nat) : Decidable (s.HardExhausted hard t) :=
  inferInstanceAs (Decidable (_ ∧ _))

/-- One of the limits is exhausted with a tick, and none was with an earlier one. -/
structure FirstExhausted (s : Settings) (soft hard : Nat → Reading UInt64) (t : Nat) : Prop where
  exhausted : s.SoftExhausted soft t ∨ s.HardExhausted hard t
  first : ∀ m < t, ¬ s.SoftExhausted soft m ∧ ¬ s.HardExhausted hard m

theorem toNat_jobInterval (s : Settings) : s.jobInterval.toNat = s.jobSeconds :=
  UInt64.toNat_max _ _

/-- A job worker sleeps between two ticks. -/
theorem jobSeconds_pos (s : Settings) : 0 < s.jobSeconds := by
  unfold jobSeconds
  omega

/-- The soft limit allows as many strikes as intervals fit into the grace time, or as many as can be counted. -/
theorem toNat_jobSoftMaxStrikes (s : Settings) : s.jobSoftMaxStrikes.toNat = min s.graceTicks (UInt32.size - 1) := by
  have hsize : min s.graceTicks (UInt32.size - 1) < UInt32.size :=
    Nat.lt_of_le_of_lt (Nat.min_le_right _ _) (by decide)
  rw [jobSoftMaxStrikes, toNat_jobInterval, ← graceTicks, UInt32.toNat_ofNat_of_lt' hsize]

/-- The grace time lies between the intervals that fit whole into it and one more. -/
theorem graceTicks_mul_le (s : Settings) :
    s.graceTicks * s.jobSeconds ≤ s.jobGraceSeconds.toNat ∧ s.jobGraceSeconds.toNat < (s.graceTicks + 1) * s.jobSeconds :=
  ⟨Nat.div_mul_le_self _ _, (Nat.div_lt_iff_lt_mul s.jobSeconds_pos).mp (Nat.lt_succ_self _)⟩

/-! ## The watchdog of a job worker -/

/-- The entry of the soft limit. -/
def softEntry (s : Settings) (probe : Probe (Host π)) : Monitor.Entry (Host π) :=
  ⟨softLimitName, s.jobSoftMaxStrikes, Monitor.residentLimit probe s.jobSoftBytes⟩

/-- The entry of the hard limit. -/
def hardEntry (s : Settings) (probe : Probe (Host π)) : Monitor.Entry (Host π) :=
  ⟨hardLimitName, 0, Monitor.residentLimit probe s.jobHardBytes⟩

/-- A job worker is watched by the limits that are set, and by nothing else. -/
theorem mem_jobMonitors_iff {s : Settings} {probe : Probe (Host π)} {e : Monitor.Entry (Host π)} :
    e ∈ s.jobMonitors probe ↔
      (s.jobSoftKilobytes ≠ 0 ∧ e = s.softEntry probe) ∨ (s.jobHardKilobytes ≠ 0 ∧ e = s.hardEntry probe) := by
  rw [jobMonitors, List.mem_append]
  refine or_congr ?_ ?_ <;> split <;> simp_all [softEntry, hardEntry]

/-- The soft limit comes before the hard one. -/
theorem names_jobMonitors (s : Settings) (probe : Probe (Host π)) :
    (s.jobMonitors probe).names =
      (if s.jobSoftKilobytes ≠ 0 then [softLimitName] else []) ++ if s.jobHardKilobytes ≠ 0 then [hardLimitName] else [] := by
  unfold jobMonitors
  split <;> split <;> rfl

theorem nodup_names_jobMonitors (s : Settings) (probe : Probe (Host π)) : (s.jobMonitors probe).names.Nodup := by
  have hne : softLimitName ≠ hardLimitName := by decide
  rw [names_jobMonitors]
  split <;> split <;> simp [hne]

/-- The watchdog of a job worker, whatever the settings. -/
def jobWatchdog (s : Settings) (probe : Probe (Host π)) (pid : Int) : Watchdog (Host π) Unit where
  toConfiguration := s.configurationWith .job pid (s.jobMonitors probe)
  interval_ne_zero := by
    have hpos := s.jobSeconds_pos
    simp only [configurationWith, Duration.ofSeconds, toNat_jobInterval]
    omega
  names_nodup := s.nodup_names_jobMonitors probe

/-- No settings of a job worker are refused. -/
theorem watchdog_job (s : Settings) (probe : Probe (Host π)) (h : Host π) :
    s.watchdog .job probe h = { ending := .returned (.ok (s.jobWatchdog probe h.pid)), state := h } := by
  have hmade := (s.jobWatchdog probe h.pid).ofConfiguration_toConfiguration
  simp only [watchdog, monitors]
  rw [← hmade]
  rfl

variable {s : Settings} {probe : Probe (Host π)} {pid : Int} {between : Nat → Interlude (Host π)}

/-- The watchdog of a job worker has the interval of the settings. -/
theorem interval_jobWatchdog : (s.jobWatchdog probe pid).interval = .ofSeconds s.jobSeconds := by
  rw [← toNat_jobInterval]
  rfl

/-- It watches the limits that are set, the soft one first. -/
theorem names_jobWatchdog :
    (s.jobWatchdog probe pid).monitors.names =
      (if s.jobSoftKilobytes ≠ 0 then [softLimitName] else []) ++ if s.jobHardKilobytes ≠ 0 then [hardLimitName] else [] :=
  s.names_jobMonitors probe

/-- Neither the limits nor the reporter of a job worker ask for a stop. -/
theorem unheard_jobWatchdog {start : Scene (Host π) Unit} (hstart : start.control = {}) (hbetween : ∀ n, (between n).stops = false) :
    (s.jobWatchdog probe pid).Unheard between start := by
  refine Watchdog.unheard_of_unasked (fun e he h => ?_) (fun _ _ => rfl) hbetween (by rw [hstart]) (by rw [hstart])
  obtain ⟨-, rfl⟩ | ⟨-, rfl⟩ := mem_jobMonitors_iff.mp he <;> rfl

/-- The soft limit stands at the position of its name, if it is set. -/
theorem getElem?_monitors_soft (hset : s.jobSoftKilobytes ≠ 0) :
    (s.jobWatchdog probe pid).monitors[(s.jobWatchdog probe pid).position softLimitName]? = some (s.softEntry probe) :=
  Watchdog.getElem?_monitors_iff.mpr ⟨mem_jobMonitors_iff.mpr (.inl ⟨hset, rfl⟩), rfl⟩

theorem getElem?_monitors_hard (hset : s.jobHardKilobytes ≠ 0) :
    (s.jobWatchdog probe pid).monitors[(s.jobWatchdog probe pid).position hardLimitName]? = some (s.hardEntry probe) :=
  Watchdog.getElem?_monitors_iff.mpr ⟨mem_jobMonitors_iff.mpr (.inr ⟨hset, rfl⟩), rfl⟩

/-- The soft limit's monitor is exhausted exactly if the readings at its calls exhaust the limit. -/
theorem exhausted_soft_iff (hset : s.jobSoftKilobytes ≠ 0) {h : Host π} {t : Nat} :
    (s.jobWatchdog probe pid).Exhausted between h ((s.jobWatchdog probe pid).position softLimitName) (t + 1) ↔
      s.SoftExhausted ((s.jobWatchdog probe pid).readingOf probe between h softLimitName) t := by
  have hcounted : min s.graceTicks (UInt32.size - 1) + 1 < UInt32.size ↔ s.graceTicks < UInt32.size - 1 := by
    omega
  rw [Watchdog.exhausted_with_tick_iff (getElem?_monitors_soft hset)]
  simp only [softEntry, jobSoftBytes, Monitor.violates_find_residentLimit, toNat_jobSoftMaxStrikes]
  rw [hcounted]
  constructor
  · rintro ⟨hgrace, hle, hall⟩
    rw [Nat.min_eq_left (Nat.le_of_lt hgrace)] at hle hall
    exact ⟨hset, hgrace, hle, hall⟩
  · rintro ⟨-, hgrace, hle, hall⟩
    rw [Nat.min_eq_left (Nat.le_of_lt hgrace)]
    exact ⟨hgrace, hle, hall⟩

/-- The hard limit's monitor is exhausted exactly if the reading at its call exhausts the limit. -/
theorem exhausted_hard_iff (hset : s.jobHardKilobytes ≠ 0) {h : Host π} {t : Nat} :
    (s.jobWatchdog probe pid).Exhausted between h ((s.jobWatchdog probe pid).position hardLimitName) (t + 1) ↔
      s.HardExhausted ((s.jobWatchdog probe pid).readingOf probe between h hardLimitName) t := by
  rw [Watchdog.exhausted_with_tick_iff (getElem?_monitors_hard hset)]
  simp only [hardEntry, jobHardBytes, Monitor.violates_find_residentLimit]
  constructor
  · rintro ⟨-, -, hall⟩
    exact ⟨hset, hall t (Nat.le_refl t) (Nat.le_add_right t _)⟩
  · rintro ⟨-, hexceeds⟩
    refine ⟨by decide, Nat.zero_le t, fun m hm hle => ?_⟩
    obtain rfl : m = t := Nat.le_antisymm hm hle
    exact hexceeds

/-- A monitor of a job worker's watchdog is exhausted with a tick exactly if it is the soft limit's or the hard limit's and the readings
at its own calls exhaust that limit. -/
theorem exhausted_jobWatchdog_iff {h : Host π} {i t : Nat} :
    (s.jobWatchdog probe pid).Exhausted between h i (t + 1) ↔
      (i = (s.jobWatchdog probe pid).position softLimitName ∧
        s.SoftExhausted ((s.jobWatchdog probe pid).readingOf probe between h softLimitName) t) ∨
      (i = (s.jobWatchdog probe pid).position hardLimitName ∧
        s.HardExhausted ((s.jobWatchdog probe pid).readingOf probe between h hardLimitName) t) := by
  constructor
  · intro hex
    obtain ⟨e, he, -⟩ := id hex
    obtain ⟨hmem, rfl⟩ := Watchdog.getElem?_monitors_iff.mp he
    obtain ⟨hset, rfl⟩ | ⟨hset, rfl⟩ := mem_jobMonitors_iff.mp hmem
    · exact .inl ⟨rfl, (exhausted_soft_iff hset).mp hex⟩
    · exact .inr ⟨rfl, (exhausted_hard_iff hset).mp hex⟩
  · rintro (⟨rfl, hsoft⟩ | ⟨rfl, hhard⟩)
    · exact (exhausted_soft_iff hsoft.1).mpr hsoft
    · exact (exhausted_hard_iff hhard.1).mpr hhard

/-- A tick that exhausts neither limit exhausts no monitor. -/
theorem not_exhausted_jobWatchdog {h : Host π} {t : Nat}
    (hnone : ¬ s.SoftExhausted ((s.jobWatchdog probe pid).readingOf probe between h softLimitName) t ∧
      ¬ s.HardExhausted ((s.jobWatchdog probe pid).readingOf probe between h hardLimitName) t) (i : Nat) :
    ¬ (s.jobWatchdog probe pid).Exhausted between h i (t + 1) := by
  intro hex
  obtain ⟨-, hsoft⟩ | ⟨-, hhard⟩ := exhausted_jobWatchdog_iff.mp hex
  · exact hnone.1 hsoft
  · exact hnone.2 hhard

/-- The soft limit comes first, if it is set. -/
theorem position_soft (hset : s.jobSoftKilobytes ≠ 0) : (s.jobWatchdog probe pid).position softLimitName = 0 := by
  rw [Watchdog.position, names_jobWatchdog, if_pos hset]
  rfl

/-- With the first tick that exhausts a limit the run ends, and it names the soft limit if this is exhausted and else the hard limit. -/
theorem endsWith_of_firstExhausted {start : Scene (Host π) Unit} (hstart : start.control = {})
    (hbetween : ∀ n, (between n).stops = false) {t : Nat}
    (h : s.FirstExhausted ((s.jobWatchdog probe pid).readingOf probe between start.surroundings softLimitName)
      ((s.jobWatchdog probe pid).readingOf probe between start.surroundings hardLimitName) t) :
    (s.jobWatchdog probe pid).EndsWith between start t
      (if s.SoftExhausted ((s.jobWatchdog probe pid).readingOf probe between start.surroundings softLimitName) t
        then softLimitName else hardLimitName) := by
  have hidle : start.control.state = .idle := by rw [hstart]
  have hunheard : (s.jobWatchdog probe pid).Unheard between start := unheard_jobWatchdog hstart hbetween
  have hticks : ∀ m < t, ∀ j, ¬ (s.jobWatchdog probe pid).Exhausted between start.surroundings j (m + 1) :=
    fun m hm => not_exhausted_jobWatchdog (h.first m hm)
  split
  case isTrue hsoft =>
    refine Watchdog.endsWith_of_exhausted hidle hunheard (getElem?_monitors_soft hsoft.1)
      ((exhausted_soft_iff hsoft.1).mpr hsoft) ?_ hticks
    intro j hj
    rw [position_soft hsoft.1] at hj
    exact absurd hj (Nat.not_lt_zero j)
  case isFalse hsoft =>
    have hhard := h.exhausted.resolve_left hsoft
    refine Watchdog.endsWith_of_exhausted hidle hunheard (getElem?_monitors_hard hhard.1)
      ((exhausted_hard_iff hhard.1).mpr hhard) ?_ hticks
    intro j hj hex
    obtain ⟨-, hsoft'⟩ | ⟨rfl, -⟩ := exhausted_jobWatchdog_iff.mp hex
    · exact hsoft hsoft'
    · exact Nat.lt_irrefl _ hj

/-- The readings that exhaust the soft limit for the first time began with one that came after none above the limit. -/
theorem streak_of_firstExhausted {soft hard : Nat → Reading UInt64} {t : Nat} (h : s.FirstExhausted soft hard t)
    (hsoft : s.SoftExhausted soft t) :
    ∃ first, first + s.graceTicks = t ∧
      (∀ m, first ≤ m → m ≤ t → (soft m).exceeds (s.jobSoftKilobytes.toNat * 1024) = true) ∧
      ∀ m, m + 1 = first → (soft m).exceeds (s.jobSoftKilobytes.toNat * 1024) = false := by
  obtain ⟨hset, hgrace, hle, hall⟩ := hsoft
  refine ⟨t - s.graceTicks, by omega, fun m hfirst hm => hall m hm (by omega), fun m hm => ?_⟩
  -- If the reading before were above the limit too, the limit would have been exhausted one tick earlier.
  by_contra hexceeds
  refine (h.first (t - 1) (by omega)).1 ⟨hset, hgrace, by omega, fun k hk hlast => ?_⟩
  obtain heq | hlt := Nat.eq_or_lt_of_le (show m ≤ k by omega)
  · rw [← heq]
    simpa using hexceeds
  · exact hall k (by omega) (by omega)

/-- A job worker's run, end to end. Whatever the settings and the probe, the watchdog is accepted, and its interval is the checking
interval, but at least two seconds. A run in which nobody asks for a stop ends with the first tick with which one of the limits is
exhausted by the readings of its own entry; it names the soft limit if that one is exhausted, and else the hard limit; and without such
a tick it never ends. When the soft limit is named, as many intervals have passed since the first reading of its streak as fit whole
into the grace time. -/
theorem job_ends_when_exhausted (s : Settings) (probe : Probe (Host π)) (h : Host π) :
    let w := s.jobWatchdog probe h.pid
    (s.watchdog .job probe h).ending = .returned (.ok w) ∧ w.interval = .ofSeconds s.jobSeconds ∧
    (∀ (between : Nat → Interlude (Host π)) (start : Scene (Host π) Unit), start.control = {} → (∀ n, (between n).stops = false) →
      let soft := w.readingOf probe between start.surroundings "rss_memory_soft_limit"
      let hard := w.readingOf probe between start.surroundings "rss_memory_hard_limit"
      (∀ t, s.FirstExhausted soft hard t →
        w.EndsWith between start t (if s.SoftExhausted soft t then "rss_memory_soft_limit" else "rss_memory_hard_limit")) ∧
      ((∀ t, ¬ s.SoftExhausted soft t ∧ ¬ s.HardExhausted hard t) → ∀ n, (w.course between start n).1.outcome? = none) ∧
      ∀ t, s.FirstExhausted soft hard t → s.SoftExhausted soft t →
        ∃ first, first ≤ t ∧
          (t - first) * w.interval.nanoseconds = (Duration.ofSeconds (s.graceTicks * s.jobSeconds)).nanoseconds ∧
          (∀ m, first ≤ m → m ≤ t → (soft m).exceeds (s.jobSoftKilobytes.toNat * 1024) = true) ∧
          ∀ m, m + 1 = first → (soft m).exceeds (s.jobSoftKilobytes.toNat * 1024) = false) ∧
    s.graceTicks * s.jobSeconds ≤ s.jobGraceSeconds.toNat ∧ s.jobGraceSeconds.toNat < (s.graceTicks + 1) * s.jobSeconds := by
  intro w
  refine ⟨by rw [watchdog_job], interval_jobWatchdog, fun between start hstart hbetween => ?_, s.graceTicks_mul_le⟩
  intro soft hard
  refine ⟨fun t ht => endsWith_of_firstExhausted hstart hbetween ht, fun hnever n => ?_, fun t ht hsoft => ?_⟩
  · exact Watchdog.asleep_of_never_exhausted (by rw [hstart]) (unheard_jobWatchdog hstart hbetween)
      (fun t => not_exhausted_jobWatchdog (hnever t)) n
  · obtain ⟨first, hfirst, hstreak, hbefore⟩ := streak_of_firstExhausted ht hsoft
    refine ⟨first, by omega, ?_, hstreak, hbefore⟩
    have hticks : t - first = s.graceTicks := by omega
    rw [hticks, show w.interval = .ofSeconds s.jobSeconds from interval_jobWatchdog]
    exact Nat.mul_left_comm _ _ _

end Settings

/-! ## Any readings -/

/-- A probe that yields the resident memory from a record, one reading after the other. -/
def Probe.recorded (readings : Nat → Reading UInt64) : Probe (Host Nat) where
  resident h := (readings h.memory, { h with memory := h.memory + 1 })
  unique h := (.returned (.error (.unsupported "unique memory")), h)
  heap h := (.returned (.error (.unsupported "heap statistics")), h)

/-- If each monitor of a stack takes one reading, the stack takes as many as it has monitors. -/
theorem Stack.memory_leave {stack : Stack (Host Nat)} (hone : ∀ e ∈ stack, ∀ h, (e.monitor.check h).state.memory = h.memory + 1)
    (h : Host Nat) : (stack.leave h).memory = h.memory + stack.length := by
  induction stack generalizing h with
  | nil => rfl
  | cons e rest ih =>
    have hrest := ih (fun e' he' => hone e' (List.mem_cons_of_mem e he')) (e.monitor.check h).state
    rw [hone e List.mem_cons_self] at hrest
    rw [List.length_cons, ← Nat.add_assoc, Nat.add_right_comm]
    exact hrest

/-- The monitors of a watchdog that take one reading each take them in turns, tick after tick. -/
theorem Watchdog.memory_calledIn {w : Watchdog (Host Nat) ρ}
    (hone : ∀ e ∈ w.monitors, ∀ h, (e.monitor.check h).state.memory = h.memory + 1) (h : Host Nat) {i : Nat}
    (hi : i ≤ w.monitors.length) (n : Nat) :
    (w.calledIn (fun _ => {}) h i n).memory = h.memory + n * w.monitors.length + i := by
  have htake : ∀ e ∈ w.monitors.take i, ∀ h, (e.monitor.check h).state.memory = h.memory + 1 :=
    fun e he => hone e (List.mem_of_mem_take he)
  have hticks : (w.surroundingsAt (fun _ => {}) h n).memory = h.memory + n * w.monitors.length := by
    induction n with
    | zero => simp [surroundingsAt]
    | succ n ih =>
      have hleave := Stack.memory_leave hone (w.surroundingsAt (fun _ => {}) h n)
      rw [ih, Nat.add_assoc, ← Nat.succ_mul] at hleave
      exact hleave
  rw [calledIn, Stack.memory_leave htake, hticks, List.length_take, Nat.min_eq_left hi]

namespace Settings

variable {s : Settings} {readings : Nat → Reading UInt64} {pid : Int}

/-- The readings of an entry are those of the record that come in its turns. -/
theorem readingOf_recorded {name : String} {h : Host Nat} {n : Nat}
    (hname : name ∈ (s.jobWatchdog (.recorded readings) pid).monitors.names) :
    (s.jobWatchdog (.recorded readings) pid).readingOf (.recorded readings) (fun _ => {}) h name n =
      readings (h.memory + n * (s.jobWatchdog (.recorded readings) pid).monitors.names.length +
        (s.jobWatchdog (.recorded readings) pid).position name) := by
  have hone : ∀ e ∈ (s.jobWatchdog (.recorded readings) pid).monitors, ∀ h, (e.monitor.check h).state.memory = h.memory + 1 := by
    intro e he h
    obtain ⟨-, rfl⟩ | ⟨-, rfl⟩ := mem_jobMonitors_iff.mp he <;> rfl
  have hlength : (s.jobWatchdog (.recorded readings) pid).monitors.names.length =
      (s.jobWatchdog (.recorded readings) pid).monitors.length := List.length_map _
  have hlt : (s.jobWatchdog (.recorded readings) pid).position name < (s.jobWatchdog (.recorded readings) pid).monitors.names.length :=
    List.idxOf_lt_length_of_mem hname
  have hcalled := Watchdog.memory_calledIn hone h (Nat.le_of_lt (hlength ▸ hlt)) n
  rw [← hlength] at hcalled
  exact congrArg readings hcalled

/-- Any two sequences are what the soft and the hard limit read with some probe. -/
theorem exists_probe_of_readings (s : Settings) (pid : Int) (soft hard : Nat → Reading UInt64) :
    ∃ probe : Probe (Host Nat), ∀ n,
      (s.jobSoftKilobytes ≠ 0 →
        (s.jobWatchdog probe pid).readingOf probe (fun _ => {}) { memory := 0, pid } softLimitName n = soft n) ∧
      (s.jobHardKilobytes ≠ 0 →
        (s.jobWatchdog probe pid).readingOf probe (fun _ => {}) { memory := 0, pid } hardLimitName n = hard n) := by
  have hne : softLimitName ≠ hardLimitName := by decide
  by_cases hsoft : s.jobSoftKilobytes = 0
  · refine ⟨.recorded hard, fun n => ⟨fun hset => absurd hsoft hset, fun hset => ?_⟩⟩
    rw [readingOf_recorded] <;> simp [Watchdog.position, names_jobWatchdog, hsoft, hset]
  by_cases hhard : s.jobHardKilobytes = 0
  · refine ⟨.recorded soft, fun n => ⟨fun hset => ?_, fun hset => absurd hhard hset⟩⟩
    rw [readingOf_recorded] <;> simp [Watchdog.position, names_jobWatchdog, hset, hhard]
  · -- Both limits read, so the record has the readings of the one at even and those of the other at odd places.
    refine ⟨.recorded fun k => if k % 2 = 0 then soft (k / 2) else hard (k / 2), fun n => ⟨fun _ => ?_, fun _ => ?_⟩⟩
    · rw [readingOf_recorded] <;> simp [Watchdog.position, names_jobWatchdog, hsoft, hhard]
    · have hodd : (n * 2 + 1) / 2 = n := by omega
      rw [readingOf_recorded] <;>
        simp [Watchdog.position, names_jobWatchdog, List.idxOf_cons_ne, hne, hsoft, hhard, hodd]

/-- Limits of one and of three units, and a grace time of two intervals and a half. -/
def strict : Settings where
  jobCheckSeconds := 0
  jobSoftKilobytes := 1
  jobGraceSeconds := 5
  jobHardKilobytes := 3

/-- What the two limits read in turns: always more than the first allows, but for a failure at the second tick, and never more than the
second allows before the fifth tick. -/
def strictReadings (n : Nat) : Reading UInt64 :=
  if n = 2 then .returned (.error (.unsupported "resident memory")) else .returned (.ok (if n = 9 then 3073 else 3072))

/-- The failure starts the streak anew, so the soft limit is exhausted with the fifth tick; the hard limit is too, but comes second. -/
theorem job_ends_after_grace :
    let w := strict.jobWatchdog (.recorded strictReadings) 1
    (strict.watchdog .job (.recorded strictReadings) { memory := 0, pid := 1 }).ending = .returned (.ok w) ∧
      (w.course (fun _ => {}) { surroundings := { memory := 0, pid := 1 }, reporter := () } 4).1.outcome? = none ∧
      (w.course (fun _ => {}) { surroundings := { memory := 0, pid := 1 }, reporter := () } 5).1.outcome? =
        some (.handlerInvoked "rss_memory_soft_limit") := by
  intro w
  obtain ⟨haccepted, -, hruns, -⟩ := job_ends_when_exhausted strict (.recorded strictReadings) { memory := 0, pid := 1 }
  obtain ⟨hends, -⟩ := hruns (fun _ => {}) { surroundings := { memory := 0, pid := 1 }, reporter := () } rfl fun _ => rfl
  have hsoft : strict.SoftExhausted (w.readingOf (.recorded strictReadings) (fun _ => {}) { memory := 0, pid := 1 }
      "rss_memory_soft_limit") 4 := by decide
  have hfirst : strict.FirstExhausted (w.readingOf (.recorded strictReadings) (fun _ => {}) { memory := 0, pid := 1 }
      "rss_memory_soft_limit") (w.readingOf (.recorded strictReadings) (fun _ => {}) { memory := 0, pid := 1 }
      "rss_memory_hard_limit") 4 :=
    ⟨.inl hsoft, by decide⟩
  have hend := hends 4 hfirst
  rw [if_pos hsoft] at hend
  exact ⟨haccepted, hend.asleep 4 (Nat.le_refl 4), hend.ended 5 (by decide)⟩

end Settings

end MemoryWatchdog
