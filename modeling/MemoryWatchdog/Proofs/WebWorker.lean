import Mathlib.Order.Bounds.Defs
import MemoryWatchdog.Proofs.JobWorker

/-!
# When a web worker is shut down

A web worker is watched in one of two ways. Either its resident memory has a limit without any allowance, or the shape of its heap is
watched: fragmentation and growth have limits that allow the same number of strikes. Here it is said, in numbers without bounds and for
readings that may succeed or fail, when a monitor of each way is exhausted (`exhausted_resident_iff`, `exhausted_shape_iff`); so
readings that belong to the other way count for nothing (`outcome?_of_readAlike`). The handler asks the host to shut down. Nobody
else does, so the request is there from the tick with which the run ends and not before, if the host still waits for it
(`shutdown_of_endsWith`). `web_ends_when_exhausted` puts this together.
-/

namespace MemoryWatchdog

variable {σ ρ π : Type}

/-! ## Limits on the shape of the heap -/

/-- A reading succeeded, and its value passes a test. -/
def Reading.passes {α : Type} (r : Reading α) (test : α → Bool) : Bool :=
  match r with
  | .returned (.ok a) => test a
  | _ => false

/-- A reading of the heap succeeded, and its fragmentation is above a limit. -/
def Reading.fragmented (r : Reading HeapStats) (limit : Binary64) : Bool :=
  r.passes fun heap => limit.lt heap.fragmentation

/-- A reading succeeded, and its growth over the baseline is above a limit. Without a baseline there is no growth. -/
def Reading.grown (r : Reading UInt64) (limit : Binary64) (baseline : Option UInt64) : Bool :=
  match baseline with
  | none => false
  | some reference => r.passes fun n => limit.lt (growth n reference)

/-- The baseline that a reading gives. A reading that failed or of zero gives none. -/
def Reading.baseline? (r : Reading UInt64) : Option UInt64 :=
  match r with
  | .returned (.ok n) => if n = 0 then none else some n
  | _ => none

/-- A monitor that judges what it measured is violated by a reading that succeeds and is judged so. -/
theorem Monitor.violates_finding_judging {α : Type} (measured : Reading α × σ) (judge : α → Verdict) :
    Finding.violates ((judging measured judge).ending.finding "monitor panicked" MonitorError.message) =
      measured.1.passes fun a => (judge a).violated := by
  obtain ⟨reading, s⟩ := measured
  cases reading with
  | panicked p => rfl
  | returned value => cases value <;> rfl

/-- A limit on the fragmentation is violated by a reading that succeeds and exceeds it. -/
theorem Monitor.violates_find_fragmentationLimit (probe : Probe σ) (limit : Binary64) (maxStrikes : UInt32) (s : σ) :
    (((fragmentationLimit probe limit).entry maxStrikes).find s).violates = (probe.heap s).1.fragmented limit :=
  violates_finding_judging (probe.heap s) (judgeHeap limit)

/-- A limit on the growth is violated by a reading that succeeds and exceeds it, if there is a baseline. -/
theorem Monitor.violates_find_growthLimit (probe : Probe σ) (limit : Binary64) (baseline : Option UInt64) (maxStrikes : UInt32) (s : σ) :
    (((growthLimit probe limit baseline).entry maxStrikes).find s).violates = (probe.unique s).1.grown limit baseline := by
  cases baseline with
  | none => rfl
  | some reference => exact violates_finding_judging (probe.unique s) (judgeGrowth limit reference)

/-- A baseline is sampled unless the measurement panics. -/
theorem Monitor.ending_sampleBaseline {probe : Probe σ} {s : σ} (h : ∀ p, (probe.unique s).1 ≠ .panicked p) :
    (sampleBaseline probe s).ending = .returned (probe.unique s).1.baseline? := by
  unfold sampleBaseline
  cases hread : probe.unique s with
  | mk reading s' =>
    cases reading with
    | panicked p => exact absurd (by rw [hread]) (h p)
    | returned value =>
      cases value with
      | error e => rfl
      | ok n =>
        by_cases hn : n = 0
        · simp [Reading.baseline?, hn]
        · simp [Reading.baseline?, hn]

/-- With a tick a limit is exhausted that allows a number of strikes: it is violated in this tick and was in as many ticks right
before it as it allows strikes. One that allows the greatest number never is. -/
def LimitExhausted (maxStrikes : UInt32) (violated : Nat → Bool) (t : Nat) : Prop :=
  maxStrikes.toNat + 1 < UInt32.size ∧ maxStrikes.toNat ≤ t ∧ ∀ m ≤ t, t ≤ m + maxStrikes.toNat → violated m = true

instance (maxStrikes : UInt32) (violated : Nat → Bool) (t : Nat) : Decidable (LimitExhausted maxStrikes violated t) :=
  inferInstanceAs (Decidable (_ ∧ _ ∧ _))

/-- A limit that allows no strikes is exhausted with each tick in which it is violated. -/
theorem limitExhausted_zero_iff {violated : Nat → Bool} {t : Nat} : LimitExhausted 0 violated t ↔ violated t = true := by
  constructor
  · rintro ⟨-, -, hall⟩
    exact hall t (Nat.le_refl t) (Nat.le_add_right t _)
  · intro h
    refine ⟨by decide, Nat.zero_le t, fun m hm hle => ?_⟩
    obtain rfl : m = t := Nat.le_antisymm hm hle
    exact h

/-- A monitor of a watchdog is exhausted with a tick exactly if its limit is, by what it finds at its own calls. -/
theorem Watchdog.exhausted_position_iff {w : Watchdog σ ρ} {between : Nat → Interlude σ} {s : σ} {t : Nat} {e : Monitor.Entry σ}
    {violated : Nat → Bool} (he : e ∈ w.monitors)
    (hreads : ∀ m, (e.find (w.calledIn between s (w.position e.name) m)).violates = violated m) :
    w.Exhausted between s (w.position e.name) (t + 1) ↔ LimitExhausted e.maxStrikes violated t := by
  rw [exhausted_with_tick_iff (getElem?_monitors_iff.mpr ⟨he, rfl⟩), LimitExhausted]
  simp only [hreads]

/-- What is exhausted is a monitor of the watchdog, at its own position. -/
theorem Watchdog.exhausted_iff_exists {w : Watchdog σ ρ} {between : Nat → Interlude σ} {s : σ} {i n : Nat} :
    w.Exhausted between s i n ↔ ∃ e ∈ w.monitors, i = w.position e.name ∧ w.Exhausted between s (w.position e.name) n := by
  constructor
  · intro hex
    obtain ⟨e, he, -⟩ := id hex
    obtain ⟨hmem, rfl⟩ := getElem?_monitors_iff.mp he
    exact ⟨e, hmem, rfl, hex⟩
  · rintro ⟨e, -, rfl, hex⟩
    exact hex

namespace Settings

/-! ## The watchdog of a web worker -/

/-- The monitors of a web worker over a baseline. -/
def webStack (s : Settings) (probe : Probe (Host π)) (baseline : Option UInt64) : Stack (Host π) :=
  if s.workerKillerDisabled then
    [(Monitor.fragmentationLimit probe s.maxFragmentation).entry s.maxStrikes,
      (Monitor.growthLimit probe s.maxGrowth baseline).entry s.maxStrikes]
  else [(Monitor.residentLimit probe s.webMaxBytes).entry 0]

/-- The monitors of a web worker are made over the baseline that is read when they are. -/
theorem ending_webMonitors (s : Settings) {probe : Probe (Host π)} {h : Host π} (hreturns : ∀ p, (probe.unique h).1 ≠ .panicked p) :
    (s.webMonitors probe h).ending = .returned (s.webStack probe (probe.unique h).1.baseline?) := by
  unfold webMonitors webStack
  split
  · simp only [Monitor.ending_sampleBaseline hreturns]
  · rfl

theorem names_webStack (s : Settings) (probe : Probe (Host π)) (baseline : Option UInt64) :
    (s.webStack probe baseline).names =
      if s.workerKillerDisabled then ["heap_fragmentation", "unique_memory_growth"] else ["rss_memory_limit"] := by
  unfold webStack
  split <;> rfl

/-- The configuration of a web worker over a baseline. -/
def webConfiguration (s : Settings) (probe : Probe (Host π)) (pid : Int) (baseline : Option UInt64) : Configuration (Host π) Unit :=
  s.configurationWith .web pid (s.webStack probe baseline)

/-- The watchdog of a web worker over a baseline, if it sleeps between two ticks. -/
def webWatchdog (s : Settings) (hsleep : 0 < s.sleepSeconds) (probe : Probe (Host π)) (pid : Int) (baseline : Option UInt64) :
    Watchdog (Host π) Unit where
  toConfiguration := s.webConfiguration probe pid baseline
  interval_ne_zero := by
    have hpos : 0 < s.sleepSeconds.toNat := UInt64.lt_iff_toNat_lt.mp hsleep
    simp only [webConfiguration, configurationWith, Duration.ofSeconds]
    omega
  names_nodup := by
    rw [show (s.webConfiguration probe pid baseline).monitors = s.webStack probe baseline from rfl, names_webStack]
    split <;> decide

/-- The settings of a web worker that sleeps between two ticks are accepted. -/
theorem ending_watchdog_web (s : Settings) (hsleep : 0 < s.sleepSeconds) {probe : Probe (Host π)} {h : Host π}
    (hreturns : ∀ p, (probe.unique h).1 ≠ .panicked p) :
    (s.watchdog .web probe h).ending = .returned (.ok (s.webWatchdog hsleep probe h.pid (probe.unique h).1.baseline?)) := by
  have hmade := (s.webWatchdog hsleep probe h.pid (probe.unique h).1.baseline?).ofConfiguration_toConfiguration
  simp only [watchdog, monitors, ending_webMonitors s hreturns]
  exact congrArg Ending.returned hmade

/-! ## When a monitor of a web worker is exhausted -/

/-- What the monitors of a web worker read in each tick, each at its own call. -/
@[ext] structure WebReadings where
  resident : Nat → Reading UInt64
  heap : Nat → Reading HeapStats
  unique : Nat → Reading UInt64

/-- The readings of the monitors of a watchdog. A monitor that the watchdog does not have would be called after those it has. -/
def webReadings (w : Watchdog (Host π) Unit) (probe : Probe (Host π)) (between : Nat → Interlude (Host π)) (h : Host π) : WebReadings where
  resident := w.readingOf probe between h "rss_memory_limit"
  heap n := (probe.heap (w.calledIn between h (w.position "heap_fragmentation") n)).1
  unique n := (probe.unique (w.calledIn between h (w.position "unique_memory_growth") n)).1

/-- The resident memory is above its limit in a tick. -/
def ResidentExceeded (s : Settings) (r : WebReadings) (t : Nat) : Prop :=
  (r.resident t).exceeds (s.webMaxMegabytes.toNat * 1048576) = true

/-- The limit on fragmentation is exhausted with a tick. -/
def FragmentationExhausted (s : Settings) (r : WebReadings) (t : Nat) : Prop :=
  LimitExhausted s.maxStrikes (fun m => (r.heap m).fragmented s.maxFragmentation) t

/-- The limit on growth over a baseline is exhausted with a tick. -/
def GrowthExhausted (s : Settings) (r : WebReadings) (baseline : Option UInt64) (t : Nat) : Prop :=
  LimitExhausted s.maxStrikes (fun m => (r.unique m).grown s.maxGrowth baseline) t

instance (s : Settings) (r : WebReadings) (t : Nat) : Decidable (s.FragmentationExhausted r t) :=
  inferInstanceAs (Decidable (LimitExhausted _ _ _))

instance (s : Settings) (r : WebReadings) (baseline : Option UInt64) (t : Nat) : Decidable (s.GrowthExhausted r baseline t) :=
  inferInstanceAs (Decidable (LimitExhausted _ _ _))

section

variable {s : Settings} {probe : Probe (Host π)} {pid : Int} {baseline : Option UInt64} {w : Watchdog (Host π) Unit}
  {between : Nat → Interlude (Host π)} {h : Host π} {t : Nat}

/-- In the one way, the only entry is the limit of the resident memory. -/
theorem mem_monitors_of_killer (hw : w.toConfiguration = s.webConfiguration probe pid baseline) (hkiller : s.workerKillerDisabled = false)
    {e : Monitor.Entry (Host π)} : e ∈ w.monitors ↔ e = (Monitor.residentLimit probe s.webMaxBytes).entry 0 := by
  rw [hw]
  simp [webConfiguration, configurationWith, webStack, hkiller]

/-- In the other way, the entries are the limits of fragmentation and growth. -/
theorem mem_monitors_of_disabled (hw : w.toConfiguration = s.webConfiguration probe pid baseline)
    (hdisabled : s.workerKillerDisabled = true) {e : Monitor.Entry (Host π)} :
    e ∈ w.monitors ↔
      e = (Monitor.fragmentationLimit probe s.maxFragmentation).entry s.maxStrikes ∨
        e = (Monitor.growthLimit probe s.maxGrowth baseline).entry s.maxStrikes := by
  rw [hw]
  simp [webConfiguration, configurationWith, webStack, hdisabled]

/-- With worker killing the only monitor is exhausted with the ticks in which the resident memory is above its limit. -/
theorem exhausted_resident_iff (hw : w.toConfiguration = s.webConfiguration probe pid baseline) (hkiller : s.workerKillerDisabled = false)
    {i : Nat} :
    w.Exhausted between h i (t + 1) ↔
      i = w.position "rss_memory_limit" ∧ s.ResidentExceeded (webReadings w probe between h) t := by
  have hown : w.Exhausted between h (w.position "rss_memory_limit") (t + 1) ↔ s.ResidentExceeded (webReadings w probe between h) t :=
    (Watchdog.exhausted_position_iff ((mem_monitors_of_killer hw hkiller).mpr rfl)
      fun m => Monitor.violates_find_residentLimit probe _ 0 _ _ _).trans limitExhausted_zero_iff
  rw [Watchdog.exhausted_iff_exists]
  simp only [mem_monitors_of_killer hw hkiller, exists_eq_left]
  exact and_congr_right fun _ => hown

/-- Without worker killing a monitor is exhausted with a tick exactly if it is that of the fragmentation or that of the growth and its
limit is exhausted. -/
theorem exhausted_shape_iff (hw : w.toConfiguration = s.webConfiguration probe pid baseline) (hdisabled : s.workerKillerDisabled = true)
    {i : Nat} :
    w.Exhausted between h i (t + 1) ↔
      (i = w.position "heap_fragmentation" ∧ s.FragmentationExhausted (webReadings w probe between h) t) ∨
        (i = w.position "unique_memory_growth" ∧ s.GrowthExhausted (webReadings w probe between h) baseline t) := by
  have hfragmentation : w.Exhausted between h (w.position "heap_fragmentation") (t + 1) ↔
      s.FragmentationExhausted (webReadings w probe between h) t :=
    Watchdog.exhausted_position_iff ((mem_monitors_of_disabled hw hdisabled).mpr (.inl rfl))
      fun m => Monitor.violates_find_fragmentationLimit probe _ _ _
  have hgrowth : w.Exhausted between h (w.position "unique_memory_growth") (t + 1) ↔
      s.GrowthExhausted (webReadings w probe between h) baseline t :=
    Watchdog.exhausted_position_iff ((mem_monitors_of_disabled hw hdisabled).mpr (.inr rfl))
      fun m => Monitor.violates_find_growthLimit probe _ _ _ _
  rw [Watchdog.exhausted_iff_exists]
  simp only [mem_monitors_of_disabled hw hdisabled, exists_eq_or_imp, exists_eq_left]
  exact or_congr (and_congr_right fun _ => hfragmentation) (and_congr_right fun _ => hgrowth)

theorem names_monitors_web (hw : w.toConfiguration = s.webConfiguration probe pid baseline) :
    w.monitors.names = if s.workerKillerDisabled then ["heap_fragmentation", "unique_memory_growth"] else ["rss_memory_limit"] := by
  rw [hw]
  exact s.names_webStack probe baseline

/-- The fragmentation comes first. -/
theorem position_fragmentation (hw : w.toConfiguration = s.webConfiguration probe pid baseline)
    (hdisabled : s.workerKillerDisabled = true) : w.position "heap_fragmentation" = 0 := by
  rw [Watchdog.position, names_monitors_web hw, if_pos hdisabled]
  rfl

/-! ## The tick that a web worker's run ends with -/

variable {start : Scene (Host π) Unit}

/-- Neither the monitors nor the reporter of a web worker ask for a stop. -/
theorem unheard_web (hw : w.toConfiguration = s.webConfiguration probe pid baseline) (hstart : start.control = {})
    (hbetween : ∀ n, (between n).stops = false) : w.Unheard between start := by
  have hmonitors : ∀ e ∈ w.monitors, ∀ h, (e.monitor.check h).stops = false := by
    intro e he h
    cases hmode : s.workerKillerDisabled with
    | false =>
      rw [(mem_monitors_of_killer hw hmode).mp he]
      rfl
    | true =>
      obtain rfl | rfl := (mem_monitors_of_disabled hw hmode).mp he
      · rfl
      · cases baseline <;> rfl
  exact Watchdog.unheard_of_unasked hmonitors (by rw [hw]; exact fun _ _ => rfl) hbetween (by rw [hstart]) (by rw [hstart])

/-- With worker killing the run ends with the first tick in which the resident memory is above its limit. -/
theorem endsWith_resident (hw : w.toConfiguration = s.webConfiguration probe pid baseline) (hkiller : s.workerKillerDisabled = false)
    (hstart : start.control = {}) (hbetween : ∀ n, (between n).stops = false)
    (hfirst : IsLeast {t | s.ResidentExceeded (webReadings w probe between start.surroundings) t} t) :
    w.EndsWith between start t "rss_memory_limit" := by
  have hentry := Watchdog.getElem?_monitors_iff.mpr ⟨(mem_monitors_of_killer hw hkiller).mpr rfl, rfl⟩
  refine Watchdog.endsWith_of_exhausted (by rw [hstart]) (unheard_web hw hstart hbetween) hentry
    ((exhausted_resident_iff hw hkiller).mpr ⟨rfl, hfirst.1⟩) (fun j hj hex => ?_) fun m hm j hex => ?_
  · exact absurd ((exhausted_resident_iff hw hkiller).mp hex).1 (Nat.ne_of_lt hj)
  · exact absurd (hfirst.2 ((exhausted_resident_iff hw hkiller).mp hex).2) (Nat.not_le_of_lt hm)

/-- Without worker killing the run ends with the first tick with which one of the limits on the shape of the heap is exhausted, and it
names the fragmentation if that one is. -/
theorem endsWith_shape (hw : w.toConfiguration = s.webConfiguration probe pid baseline) (hdisabled : s.workerKillerDisabled = true)
    (hstart : start.control = {}) (hbetween : ∀ n, (between n).stops = false)
    (hfirst : IsLeast {t | s.FragmentationExhausted (webReadings w probe between start.surroundings) t ∨
      s.GrowthExhausted (webReadings w probe between start.surroundings) baseline t} t) :
    w.EndsWith between start t
      (if s.FragmentationExhausted (webReadings w probe between start.surroundings) t then "heap_fragmentation"
        else "unique_memory_growth") := by
  have hidle : start.control.state = .idle := by rw [hstart]
  have hunheard := unheard_web hw hstart hbetween
  have hticks : ∀ m < t, ∀ j, ¬ w.Exhausted between start.surroundings j (m + 1) := by
    intro m hm j hex
    obtain ⟨-, hfragmentation⟩ | ⟨-, hgrowth⟩ := (exhausted_shape_iff hw hdisabled).mp hex
    · exact absurd (hfirst.2 (.inl hfragmentation)) (Nat.not_le_of_lt hm)
    · exact absurd (hfirst.2 (.inr hgrowth)) (Nat.not_le_of_lt hm)
  split
  case isTrue hfragmentation =>
    have hentry := Watchdog.getElem?_monitors_iff.mpr ⟨(mem_monitors_of_disabled hw hdisabled).mpr (.inl rfl), rfl⟩
    refine Watchdog.endsWith_of_exhausted hidle hunheard hentry
      ((exhausted_shape_iff hw hdisabled).mpr (.inl ⟨rfl, hfragmentation⟩)) (fun j hj => ?_) hticks
    exact absurd (hj.trans_eq (position_fragmentation hw hdisabled)) (Nat.not_lt_zero j)
  case isFalse hfragmentation =>
    have hgrowth := hfirst.1.resolve_left hfragmentation
    have hentry := Watchdog.getElem?_monitors_iff.mpr ⟨(mem_monitors_of_disabled hw hdisabled).mpr (.inr rfl), rfl⟩
    refine Watchdog.endsWith_of_exhausted hidle hunheard hentry
      ((exhausted_shape_iff hw hdisabled).mpr (.inr ⟨rfl, hgrowth⟩)) (fun j hj hex => ?_) hticks
    obtain ⟨-, hfragmentation'⟩ | ⟨rfl, -⟩ := (exhausted_shape_iff hw hdisabled).mp hex
    · exact hfragmentation hfragmentation'
    · exact Nat.lt_irrefl _ hj

/-- A web worker's monitors read the same: with worker killing the same resident memory, and without it the same heaps and, from the
same baseline, the same memory of the process alone. -/
def ReadAlike (s : Settings) (r r' : WebReadings) (baseline baseline' : Option UInt64) : Prop :=
  if s.workerKillerDisabled then r'.heap = r.heap ∧ r'.unique = r.unique ∧ baseline' = baseline else r'.resident = r.resident

/-- What the readings of one way of watching are has no influence on the outcome of a run that watches in the other way. -/
theorem outcome?_of_readAlike {π' : Type} {probe' : Probe (Host π')} {pid' : Int} {baseline' : Option UInt64}
    {w' : Watchdog (Host π') Unit} {between' : Nat → Interlude (Host π')} {start' : Scene (Host π') Unit}
    (hw : w.toConfiguration = s.webConfiguration probe pid baseline) (hw' : w'.toConfiguration = s.webConfiguration probe' pid' baseline')
    (hstart : start.control = {}) (hbetween : ∀ n, (between n).stops = false)
    (hstart' : start'.control = {}) (hbetween' : ∀ n, (between' n).stops = false)
    (halike : s.ReadAlike (webReadings w probe between start.surroundings) (webReadings w' probe' between' start'.surroundings)
      baseline baseline') (n : Nat) :
    (w'.course between' start' n).1.outcome? = (w.course between start n).1.outcome? := by
  have hnames : w'.monitors.names = w.monitors.names := by rw [names_monitors_web hw, names_monitors_web hw']
  refine Watchdog.outcome?_congr (by rw [hstart]) (unheard_web hw hstart hbetween) (by rw [hstart'])
    (unheard_web hw' hstart' hbetween') hnames (fun i t => ?_) n
  cases hmode : s.workerKillerDisabled with
  | false =>
    have hresident : (webReadings w' probe' between' start'.surroundings).resident =
        (webReadings w probe between start.surroundings).resident := by
      simpa [ReadAlike, hmode] using halike
    rw [exhausted_resident_iff hw hmode, exhausted_resident_iff hw' hmode, ResidentExceeded, ResidentExceeded, hresident,
      Watchdog.position, Watchdog.position, hnames]
  | true =>
    obtain ⟨hheap, hunique, hbaseline⟩ : (webReadings w' probe' between' start'.surroundings).heap =
        (webReadings w probe between start.surroundings).heap ∧
        (webReadings w' probe' between' start'.surroundings).unique =
          (webReadings w probe between start.surroundings).unique ∧ baseline' = baseline := by
      simpa [ReadAlike, hmode] using halike
    rw [exhausted_shape_iff hw hmode, exhausted_shape_iff hw' hmode, FragmentationExhausted, FragmentationExhausted, GrowthExhausted,
      GrowthExhausted, hheap, hunique, hbaseline, Watchdog.position, Watchdog.position, Watchdog.position, Watchdog.position, hnames]

end

end Settings

/-! ## The request for a shutdown -/

/-- What becomes of a shutdown request later: it may be made again, and listeners may come and go. -/
inductive Shutdown.Later (s : Shutdown) : Shutdown → Prop
  | now : Later s s
  | request {t u : Shutdown} (before : Later s t) (made : t.request = some u) : Later s u
  | addListener {t : Shutdown} (before : Later s t) : Later s t.addListener
  | dropListener {t : Shutdown} (before : Later s t) : Later s t.dropListener

/-- A shutdown that was requested stays so. -/
theorem Shutdown.Later.requested {s t : Shutdown} (h : s.Later t) (hs : s.requested = true) : t.requested = true := by
  induction h with
  | now => exact hs
  | request _ made => exact Shutdown.requested_of_request made
  | addListener _ ih =>
    unfold Shutdown.addListener
    split <;> exact ih
  | dropListener _ ih => exact ih

/-- The measurements of a probe leave the request for a shutdown alone. -/
structure Probe.SparesShutdown (probe : Probe (Host π)) : Prop where
  resident : ∀ h, (probe.resident h).2.shutdown = h.shutdown
  unique : ∀ h, (probe.unique h).2.shutdown = h.shutdown
  heap : ∀ h, (probe.heap h).2.shutdown = h.shutdown

namespace Settings

variable {s : Settings} {probe : Probe (Host π)} {pid : Int} {baseline : Option UInt64} {w : Watchdog (Host π) Unit}
  {between : Nat → Interlude (Host π)} {start : Scene (Host π) Unit} {t : Nat} {monitor : String}

/-- So do the monitors of a web worker. -/
theorem shutdown_check (hw : w.toConfiguration = s.webConfiguration probe pid baseline) (hprobe : probe.SparesShutdown)
    {e : Monitor.Entry (Host π)} (he : e ∈ w.monitors) (h : Host π) : (e.monitor.check h).state.shutdown = h.shutdown := by
  cases hmode : s.workerKillerDisabled with
  | false =>
    rw [(mem_monitors_of_killer hw hmode).mp he]
    exact hprobe.resident h
  | true =>
    obtain rfl | rfl := (mem_monitors_of_disabled hw hmode).mp he
    · exact hprobe.heap h
    · cases baseline with
      | none => rfl
      | some reference => exact hprobe.unique h

/-- While the run of a web worker's watchdog sleeps, nobody requests a shutdown. -/
theorem requested_of_asleep (hw : w.toConfiguration = s.webConfiguration probe pid baseline) (hprobe : probe.SparesShutdown)
    (hidle : start.control.state = .idle) (hbetween : ∀ n h, ((between n).change h).shutdown.requested = h.shutdown.requested)
    {n : Nat} (h : (w.course between start n).1.outcome? = none) :
    (w.course between start n).2.surroundings.shutdown.requested = start.surroundings.shutdown.requested :=
  Watchdog.view_course_of_asleep (fun h : Host π => h.shutdown.requested) hidle
    (fun e he h => by rw [shutdown_check hw hprobe he]) hbetween h

/-- When the run of a web worker's watchdog has ended, a shutdown is requested if the host waited for it at the last tick. -/
theorem shutdown_of_endsWith (hw : w.toConfiguration = s.webConfiguration probe pid baseline) (hprobe : probe.SparesShutdown)
    (hidle : start.control.state = .idle) (h : w.EndsWith between start t monitor) {n : Nat} (hn : t < n) :
    (w.course between start n).2.surroundings.shutdown =
      ((w.surroundingsAt between start.surroundings t).shutdown.request).getD (w.surroundingsAt between start.surroundings t).shutdown := by
  have hleave : (w.monitors.leave (w.surroundingsAt between start.surroundings t)).shutdown =
      (w.surroundingsAt between start.surroundings t).shutdown :=
    Stack.view_leave Host.shutdown (fun e he => shutdown_check hw hprobe he) _
  have hhandler : w.handler = .gracefulShutdown := by rw [hw]; rfl
  rw [h.surroundings hidle hn, hhandler, ← hleave]
  simp only [Handler.gracefulShutdown]
  cases (w.monitors.leave (w.surroundingsAt between start.surroundings t)).shutdown.request <;> rfl

/-- If nobody waits for the shutdown the handler fails, which the run reports. -/
theorem handlerFailed_of_endsWith (hw : w.toConfiguration = s.webConfiguration probe pid baseline) (hprobe : probe.SparesShutdown)
    (hidle : start.control.state = .idle) (h : w.EndsWith between start t monitor)
    (hnobody : (w.surroundingsAt between start.surroundings t).shutdown.listeners = 0) {n : Nat} (hn : t < n) :
    .reported (.handlerFailed monitor "graceful_shutdown" HandlerError.noListener.message) ∈ (w.course between start n).2.history := by
  have hleave : (w.monitors.leave (w.surroundingsAt between start.surroundings t)).shutdown =
      (w.surroundingsAt between start.surroundings t).shutdown :=
    Stack.view_leave Host.shutdown (fun e he => shutdown_check hw hprobe he) _
  have hrequest : (w.monitors.leave (w.surroundingsAt between start.surroundings t)).shutdown.request = none := by
    rw [hleave, Shutdown.request_eq_none_iff, hnobody]
  have hhandler : w.handler = .gracefulShutdown := by rw [hw]; rfl
  obtain ⟨b, rfl, hreported⟩ := h.reported hidle hn
  have hevent : w.handlerEventAt between start.surroundings t b =
      .handlerFailed b.monitor "graceful_shutdown" HandlerError.noListener.message := by
    simp only [Watchdog.handlerEventAt, Configuration.handlerEvent, hhandler, Handler.gracefulShutdown, hrequest]
    rfl
  rw [← hevent]
  exact hreported

/-- A web worker's run, end to end. If the settings let the loop sleep and the sample of the baseline does not panic, the watchdog is
accepted, and its interval is the sleep time. A run in which nobody asks for a stop is decided by the readings of one way of watching.
With worker killing it ends with the first tick whose reading of the resident memory succeeds and exceeds the limit. Without it the run
ends with the first tick with which the limit on fragmentation or the one on growth was violated once more in a row than it allows
strikes, and names the fragmentation if that is one of them. Without such a tick it never ends. Two runs whose readings of their one
way of watching are the same have the same outcome after every number of wake-ups, whatever else could be read. As long as the run
sleeps no shutdown is requested, if none was before and the rest of the process requests none; once the run has ended one is, for good,
if the host waited for it at the last tick, and otherwise the handler failed and none is requested. -/
theorem web_ends_when_exhausted (s : Settings) (hsleep : 0 < s.sleepSeconds) (probe : Probe (Host π)) (h : Host π)
    (hreturns : ∀ p, (probe.unique h).1 ≠ .panicked p) :
    let baseline := (probe.unique h).1.baseline?
    let w := s.webWatchdog hsleep probe h.pid baseline
    (s.watchdog .web probe h).ending = .returned (.ok w) ∧ w.interval = .ofSeconds s.sleepSeconds.toNat ∧
    ∀ (between : Nat → Interlude (Host π)) (start : Scene (Host π) Unit), start.control = {} → (∀ n, (between n).stops = false) →
      let r := webReadings w probe between start.surroundings
      (s.workerKillerDisabled = false →
        (∀ t, IsLeast {t | s.ResidentExceeded r t} t → w.EndsWith between start t "rss_memory_limit") ∧
        ((∀ t, ¬ s.ResidentExceeded r t) → ∀ n, (w.course between start n).1.outcome? = none)) ∧
      (s.workerKillerDisabled = true →
        (∀ t, IsLeast {t | s.FragmentationExhausted r t ∨ s.GrowthExhausted r baseline t} t →
          w.EndsWith between start t (if s.FragmentationExhausted r t then "heap_fragmentation" else "unique_memory_growth")) ∧
        ((∀ t, ¬ s.FragmentationExhausted r t ∧ ¬ s.GrowthExhausted r baseline t) →
          ∀ n, (w.course between start n).1.outcome? = none)) ∧
      (∀ (π' : Type) (probe' : Probe (Host π')) (h' : Host π') (between' : Nat → Interlude (Host π')) (start' : Scene (Host π') Unit),
        let baseline' := (probe'.unique h').1.baseline?
        let w' := s.webWatchdog hsleep probe' h'.pid baseline'
        start'.control = {} → (∀ n, (between' n).stops = false) →
          s.ReadAlike r (webReadings w' probe' between' start'.surroundings) baseline baseline' →
          ∀ n, (w'.course between' start' n).1.outcome? = (w.course between start n).1.outcome?) ∧
      (probe.SparesShutdown → (∀ n h, ((between n).change h).shutdown.requested = h.shutdown.requested) →
        start.surroundings.shutdown.requested = false →
        (∀ n, (w.course between start n).1.outcome? = none → (w.course between start n).2.surroundings.shutdown.requested = false) ∧
        ∀ t monitor, w.EndsWith between start t monitor → ∀ n, t < n →
          if (w.surroundingsAt between start.surroundings t).shutdown.listeners = 0 then
            (w.course between start n).2.surroundings.shutdown.requested = false ∧
              .reported (.handlerFailed monitor "graceful_shutdown" HandlerError.noListener.message) ∈
                (w.course between start n).2.history
          else ∀ later, (w.course between start n).2.surroundings.shutdown.Later later → later.requested = true) := by
  intro baseline w
  have hw : w.toConfiguration = s.webConfiguration probe h.pid baseline := rfl
  refine ⟨ending_watchdog_web s hsleep hreturns, rfl, fun between start hstart hbetween => ?_⟩
  intro r
  have hidle : start.control.state = .idle := by rw [hstart]
  have hunheard := unheard_web hw hstart hbetween
  refine ⟨fun hkiller => ⟨fun t ht => endsWith_resident hw hkiller hstart hbetween ht, fun hnever => ?_⟩,
    fun hdisabled => ⟨fun t ht => endsWith_shape hw hdisabled hstart hbetween ht, fun hnever => ?_⟩,
    fun π' probe' h' between' start' => ?_, fun hprobe hchange hfresh => ⟨fun n hasleep => ?_, fun t monitor hends n hn => ?_⟩⟩
  · exact Watchdog.asleep_of_never_exhausted hidle hunheard fun t j hex => hnever t ((exhausted_resident_iff hw hkiller).mp hex).2
  · refine Watchdog.asleep_of_never_exhausted hidle hunheard fun t j hex => ?_
    obtain ⟨-, hfragmentation⟩ | ⟨-, hgrowth⟩ := (exhausted_shape_iff hw hdisabled).mp hex
    · exact (hnever t).1 hfragmentation
    · exact (hnever t).2 hgrowth
  · intro baseline' w' hstart' hbetween' halike
    exact outcome?_of_readAlike hw (rfl : w'.toConfiguration = s.webConfiguration probe' h'.pid baseline') hstart hbetween hstart'
      hbetween' halike
  · rw [requested_of_asleep hw hprobe hidle hchange hasleep, hfresh]
  · have hshutdown := shutdown_of_endsWith hw hprobe hidle hends hn
    have hrequested : (w.surroundingsAt between start.surroundings t).shutdown.requested = false := by
      have hkept := Watchdog.view_surroundingsAt (fun h : Host π => h.shutdown.requested)
        (fun e he h => by rw [shutdown_check hw hprobe he]) hchange start.surroundings t
      rw [← hfresh, ← hkept]
    split
    · next hnobody =>
      rw [Shutdown.request_eq_none_iff.mpr hnobody, Option.getD_none] at hshutdown
      rw [hshutdown]
      exact ⟨hrequested, handlerFailed_of_endsWith hw hprobe hidle hends hnobody hn⟩
    · next hheld =>
      intro later hlater
      cases hrequest : (w.surroundingsAt between start.surroundings t).shutdown.request with
      | none => exact absurd (Shutdown.request_eq_none_iff.mp hrequest) hheld
      | some made =>
        rw [hrequest, Option.getD_some] at hshutdown
        exact hlater.requested (by rw [hshutdown]; exact Shutdown.requested_of_request hrequest)

end Settings

/-! ## Any readings -/

/-- A probe that reads what a timetable says: the first sample of the memory of the process alone, and what the monitors read in each
tick. It looks up in the memory of the host which tick it is. -/
def Probe.timetable (first : Reading UInt64) (r : Settings.WebReadings) : Probe (Host (Option Nat)) where
  resident h := (r.resident (h.memory.getD 0), h)
  unique h := (h.memory.elim first r.unique, h)
  heap h := (r.heap (h.memory.getD 0), h)

/-- The tick with a number comes. -/
def Interlude.tick (n : Nat) : Interlude (Host (Option Nat)) where
  change h := { h with memory := some n }

/-- Reading off a timetable requests no shutdown. -/
theorem Probe.sparesShutdown_timetable (first : Reading UInt64) (r : Settings.WebReadings) : (timetable first r).SparesShutdown :=
  ⟨fun _ => rfl, fun _ => rfl, fun _ => rfl⟩

namespace Settings

/-- Any sequences of readings are what the monitors of a web worker read with some probe, after any first sample. -/
theorem webReadings_timetable {s : Settings} {first : Reading UInt64} {r : WebReadings} {pid : Int} {baseline : Option UInt64}
    {w : Watchdog (Host (Option Nat)) Unit} (hw : w.toConfiguration = s.webConfiguration (.timetable first r) pid baseline)
    (h : Host (Option Nat)) : webReadings w (.timetable first r) .tick h = r := by
  have hmonitors : ∀ e ∈ w.monitors, ∀ h, (e.monitor.check h).state.memory = h.memory := by
    intro e he h
    cases hmode : s.workerKillerDisabled with
    | false =>
      rw [(mem_monitors_of_killer hw hmode).mp he]
      rfl
    | true =>
      obtain rfl | rfl := (mem_monitors_of_disabled hw hmode).mp he
      · rfl
      · cases baseline <;> rfl
  have hticks : ∀ n, (w.surroundingsAt .tick h n).memory = some n := by
    intro n
    cases n <;> rfl
  have hcalled : ∀ i n, (w.calledIn .tick h i n).memory = some n := by
    intro i n
    rw [Watchdog.calledIn, Stack.view_leave Host.memory (fun e he => hmonitors e (List.mem_of_mem_take he)), hticks]
  refine WebReadings.ext (funext fun n => ?_) (funext fun n => ?_) (funext fun n => ?_)
  · show r.resident ((w.calledIn .tick h _ n).memory.getD 0) = r.resident n
    rw [hcalled, Option.getD_some]
  · show r.heap ((w.calledIn .tick h _ n).memory.getD 0) = r.heap n
    rw [hcalled, Option.getD_some]
  · show (w.calledIn .tick h _ n).memory.elim first r.unique = r.unique n
    rw [hcalled, Option.elim_some]

/-- Worker killing is disabled, and one strike is allowed. -/
def lenient : Settings where
  sleepSeconds := 1
  maxStrikes := 1
  workerKillerDisabled := true

/-- In the first tick nothing can be read; after it three quarters of the heap are unused, and the process has grown to 400 bytes. -/
def lenientReadings : WebReadings where
  resident _ := .returned (.ok 0)
  heap n := .returned (if n = 0 then .error (.unsupported "heap statistics") else .ok ⟨1, 4⟩)
  unique n := .returned (if n = 0 then .error (.unsupported "unique memory") else .ok 400)

/-- From a baseline of 100 bytes both limits are exhausted with the third tick; the run names the fragmentation, and from then on a
shutdown is requested. -/
theorem web_ends_after_strikes :
    let probe := Probe.timetable (.returned (.ok 100)) lenientReadings
    let w := lenient.webWatchdog (by decide) probe 1 (some 100)
    let start : Scene (Host (Option Nat)) Unit := { surroundings := { memory := none, pid := 1 }, reporter := () }
    (lenient.watchdog .web probe start.surroundings).ending = .returned (.ok w) ∧
      (w.course .tick start 2).1.outcome? = none ∧ (w.course .tick start 2).2.surroundings.shutdown.requested = false ∧
      (w.course .tick start 3).1.outcome? = some (.handlerInvoked "heap_fragmentation") ∧
      (w.course .tick start 3).2.surroundings.shutdown.requested = true := by
  intro probe w start
  obtain ⟨haccepted, -, hruns⟩ := web_ends_when_exhausted lenient (by decide) probe start.surroundings (by simp [probe, start, Probe.timetable])
  obtain ⟨-, hshape, -, hshutdown⟩ := hruns .tick start rfl fun _ => rfl
  have hreads : webReadings w probe .tick start.surroundings = lenientReadings := webReadings_timetable rfl start.surroundings
  have hfragmentation : lenient.FragmentationExhausted lenientReadings 2 := by decide +kernel
  have hearlier : ∀ t < 2, ¬ (lenient.FragmentationExhausted lenientReadings t ∨ lenient.GrowthExhausted lenientReadings (some 100) t) := by
    decide +kernel
  have hfirst : IsLeast {t | lenient.FragmentationExhausted lenientReadings t ∨
      lenient.GrowthExhausted lenientReadings (some 100) t} 2 :=
    ⟨.inl hfragmentation, fun t ht => Nat.le_of_not_lt fun hlt => hearlier t hlt ht⟩
  have hend : IsLeast {t | lenient.FragmentationExhausted (webReadings w probe .tick start.surroundings) t ∨
      lenient.GrowthExhausted (webReadings w probe .tick start.surroundings) (some 100) t} 2 →
      w.EndsWith .tick start 2 (if lenient.FragmentationExhausted (webReadings w probe .tick start.surroundings) 2
        then "heap_fragmentation" else "unique_memory_growth") := (hshape rfl).1 2
  rw [hreads, if_pos hfragmentation] at hend
  replace hend := hend hfirst
  obtain ⟨hquiet, hafter⟩ := hshutdown (Probe.sparesShutdown_timetable _ _) (fun _ _ => rfl) rfl
  have hrequested := hafter 2 _ hend 3 (by decide)
  rw [if_neg (by decide)] at hrequested
  have hasleep := hend.asleep 2 (Nat.le_refl 2)
  exact ⟨haccepted, hasleep, hquiet 2 hasleep, hend.ended 3 (by decide), hrequested _ .now⟩

end Settings

end MemoryWatchdog
