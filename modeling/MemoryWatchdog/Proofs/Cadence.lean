import Mathlib.Data.List.Nodup
import MemoryWatchdog.Proofs.Clock
import MemoryWatchdog.Proofs.Escalation
import MemoryWatchdog.Proofs.Lifetime

/-!
# Cadence

A clock takes a run on from moment to moment, and at each moment the rest of the process may act (`reaching`, `passing`). A watchdog whose
timer fires at its deadlines ticks exactly at the multiples of its interval after its start, and a stop from outside ends it at the moment
of the stop, however long it would still have slept (`called_on_time_until_stopped`).

The induction is over the moments. Its invariant `OnTime` says that as many ticks are over as intervals, and that the run sleeps to the end
of the interval that has begun; the interludes of the course are what the rest of the process does in one interval each.
-/

namespace MemoryWatchdog

variable {σ ρ : Type}

/-! ## From moment to moment -/

/-- What the rest of the process does in a number of moments, one after the other, from a first one on. -/
def Interlude.during (outside : Nat → Interlude σ) (first : Nat) : Nat → Interlude σ
  | 0 => {}
  | count + 1 => (during outside first count).andThen (outside (first + count))

/-- What the rest of the process does in one of the intervals of a length. -/
def Interlude.perInterval (outside : Nat → Interlude σ) (d n : Nat) : Interlude σ :=
  during outside (n * d) d

/-- The rest of the process acts at a moment. A run that sleeps wakes up there if a stop is requested. -/
def Run.settle (w : Watchdog σ ρ) (moment : Nat) (i : Interlude σ) : Run × Scene σ ρ → Run × Scene σ ρ
  | (run, sc) => run.advance w moment (i.act sc)

/-- The monitors that were called, in the order of the calls. -/
def Scene.called (sc : Scene σ ρ) : List String :=
  sc.history.filterMap Act.evaluated?

namespace Watchdog

/-- The timer fires at its deadline: a sleep takes the interval. -/
def Punctual (w : Watchdog σ ρ) : Prop :=
  w.period = w.interval.inMilliseconds

/-- The run when the clock comes to a moment after the start. At each moment before, the rest of the process acted. -/
def reaching (w : Watchdog σ ρ) (outside : Nat → Interlude σ) (start : Scene σ ρ) (began : Nat) : Nat → Run × Scene σ ρ
  | 0 => Run.start w began start
  | m + 1 =>
    let (run, sc) := Run.settle w (began + m) (outside m) (w.reaching outside start began m)
    run.advance w (began + (m + 1)) sc

/-- The run when the rest of the process has acted at a moment after the start. -/
def passing (w : Watchdog σ ρ) (outside : Nat → Interlude σ) (start : Scene σ ρ) (began m : Nat) : Run × Scene σ ρ :=
  Run.settle w (began + m) (outside m) (w.reaching outside start began m)

/-- The calls of monitors up to a moment after the start, each with the moment at which it was made. -/
def callTimes (w : Watchdog σ ρ) (outside : Nat → Interlude σ) (start : Scene σ ρ) (began : Nat) : Nat → List (Nat × String)
  | 0 => ((w.passing outside start began 0).2.called.drop start.called.length).map ((0, ·))
  | m + 1 =>
    let before := (w.passing outside start began m).2.called
    let calls := (w.passing outside start began (m + 1)).2.called.drop before.length
    w.callTimes outside start began m ++ calls.map ((m + 1, ·))

/-- The calls of a number of ticks, in each of them all entries in the order of the stack. -/
def rounds (w : Watchdog σ ρ) (n : Nat) : List String :=
  (List.range n).flatMap fun _ => w.monitors.names

variable {w : Watchdog σ ρ} {outside : Nat → Interlude σ} {start : Scene σ ρ} {began d m t : Nat} {strikes : Strikes} {sc : Scene σ ρ}

theorem reaching_succ : w.reaching outside start began (m + 1) =
    (w.passing outside start began m).1.advance w (began + (m + 1)) (w.passing outside start began m).2 := rfl

/-- Intervals that clocks can count are slept through. -/
theorem punctual_of_lt (h : w.interval.nanoseconds / 1000000000 < Int64.size / 2) : w.Punctual :=
  if_neg (Nat.not_le.mpr h)

/-- With such a timer a sleep takes the milliseconds of the interval. -/
theorem period_eq (hpunctual : w.Punctual) (hinterval : w.interval.nanoseconds = 1000000 * d) : w.period = d := by
  rw [hpunctual, Duration.inMilliseconds, hinterval]
  omega

theorem rounds_succ (w : Watchdog σ ρ) (n : Nat) : w.rounds (n + 1) = w.rounds n ++ w.monitors.names := by
  simp [rounds, List.range_succ]

/-! ## Sleeping and waking up -/

/-- A requested stop ends a sleeping run at once, whenever its sleep would be over. -/
theorem sleepUntil_of_requested {moment wakesAt : Nat} (h : sc.control.stopRequested = true) :
    Run.sleepUntil w moment strikes wakesAt sc = (.ended .stopped, (w.finish .stopped sc).2) := by
  rw [Run.sleepUntil, if_pos h, Run.wake, wake_of_stopRequested h]
  rfl

/-- A run that is not asked to stop sleeps on before its sleep is over. -/
theorem sleepUntil_of_early {moment wakesAt : Nat} (h : sc.control.stopRequested = false) (hearly : moment < wakesAt) :
    Run.sleepUntil w moment strikes wakesAt sc = (.sleeping strikes wakesAt, sc) := by
  rw [Run.sleepUntil, if_neg (by simp [h]), dif_neg (Nat.not_le.mpr hearly)]

/-- A run whose sleep is over makes its tick and sleeps on, if the tick has no breach. -/
theorem sleepUntil_of_quiet {moment wakesAt : Nat} (h : sc.control.stopRequested = false) (hdue : wakesAt ≤ moment)
    (hquiet : (w.monitors.sightings strikes sc.surroundings).findSome? Sighting.breach? = none) :
    Run.sleepUntil w moment strikes wakesAt sc =
      Run.sleepUntil w moment (w.evaluateAll strikes sc).strikes (wakesAt + w.period) (w.evaluateAll strikes sc).scene := by
  rw [Run.sleepUntil, if_neg (by simp [h]), dif_pos hdue, wake_of_quiet h hquiet]

/-- The end takes no request back either. -/
theorem stopRequested_finish {outcome : Outcome} (h : sc.control.stopRequested = true) :
    (w.finish outcome sc).2.control.stopRequested = true := by
  simp [finish, Control.finish, Control.stopIf_of_ne_idle, h]

/-- Time going on takes no request back. -/
theorem unrequested_of_advance {run : Run} {moment : Nat} (h : (run.advance w moment sc).2.control.stopRequested = false) :
    sc.control.stopRequested = false := by
  by_contra hreq
  rw [Bool.not_eq_false] at hreq
  cases run with
  | sleeping strikes wakesAt =>
    rw [Run.advance, sleepUntil_of_requested hreq, stopRequested_finish hreq] at h
    cases h
  | ended outcome => exact absurd (hreq.symm.trans h) (by decide)

/-! ## A run on time -/

/-- When the clock comes to a moment, the run has made a tick for each interval that is over and sleeps to the end of the one that has
begun. -/
structure OnTime (w : Watchdog σ ρ) (outside : Nat → Interlude σ) (start : Scene σ ρ) (began d m : Nat) (strikes : Strikes)
    (sc : Scene σ ρ) : Prop where
  at_tick : w.course (Interlude.perInterval outside d) start (m / d) = (.sleeping strikes, sc)
  inStep : InStep w (Interlude.perInterval outside d) start (m / d) strikes sc
  at_moment : w.reaching outside start began m =
    (.sleeping strikes (began + (m / d + 1) * d), (Interlude.during outside (m / d * d) (m % d)).act sc)

/-- A moment is the last of its interval, or the next one is in the same interval. -/
theorem next_moment (hpos : 0 < d) (m : Nat) :
    m % d + 1 < d ∧ (m + 1) / d = m / d ∧ (m + 1) % d = m % d + 1 ∨ m % d + 1 = d ∧ (m + 1) / d = m / d + 1 ∧ (m + 1) % d = 0 := by
  have hlt := Nat.mod_lt m hpos
  have hm := Nat.div_add_mod m d
  rcases Nat.lt_or_ge (m % d + 1) d with h | h
  · exact .inl ⟨h, (Nat.div_mod_unique hpos).mpr ⟨by omega, h⟩⟩
  · have hlast : m % d + 1 = d := by omega
    exact .inr ⟨hlast, (Nat.div_mod_unique hpos).mpr ⟨by rw [Nat.mul_succ]; omega, hpos⟩⟩

/-- The interval that has begun at a moment is not over. -/
theorem lt_end_of_interval (hpos : 0 < d) (began m : Nat) : began + m < began + (m / d + 1) * d :=
  Nat.add_lt_add_left (Nat.lt_mul_of_div_lt (Nat.lt_succ_self _) hpos) _

/-- A run is on time from its start. -/
theorem onTime_zero (hperiod : w.period = d) (hidle : start.control.state = .idle) :
    ∃ strikes sc, OnTime w outside start began d 0 strikes sc := by
  obtain ⟨sc, at_zero, inStep⟩ := inStep_zero w (Interlude.perInterval outside d) hidle
  refine ⟨{}, sc, by rwa [Nat.zero_div], by rwa [Nat.zero_div], ?_⟩
  rw [course] at at_zero
  rw [reaching, Run.start, at_zero, Nat.zero_div, Nat.zero_mul, Nat.zero_mod, Interlude.during, Interlude.act_nothing]
  simp [Run.after, hperiod]

/-- What the rest of the process does at a moment is the last that it did in the interval. -/
theorem OnTime.act_outside (h : OnTime w outside start began d m strikes sc) :
    (outside m).act (w.reaching outside start began m).2 = (Interlude.during outside (m / d * d) (m % d + 1)).act sc := by
  rw [h.at_moment, Interlude.during, Interlude.act_andThen, Nat.div_add_mod']

/-- A run on time sleeps to the end of its interval. -/
theorem OnTime.sleeping (h : OnTime w outside start began d m strikes sc) :
    (w.reaching outside start began m).1 = .sleeping strikes (began + (m / d + 1) * d) := by
  rw [h.at_moment]

/-- A stop that is requested at a moment ends the run there. -/
theorem OnTime.passing_of_requested (h : OnTime w outside start began d m strikes sc)
    (hrequested : ((outside m).act (w.reaching outside start began m).2).control.stopRequested = true) :
    w.passing outside start began m =
      (.ended .stopped, (w.finish .stopped ((outside m).act (w.reaching outside start began m).2)).2) := by
  rw [passing, Run.settle, h.sleeping, Run.advance, sleepUntil_of_requested hrequested]

/-- Without a request to stop it sleeps on through what the rest of the process does. -/
theorem OnTime.passing_of_unrequested (h : OnTime w outside start began d m strikes sc) (hpos : 0 < d)
    (hunrequested : ((outside m).act (w.reaching outside start began m).2).control.stopRequested = false) :
    w.passing outside start began m =
      (.sleeping strikes (began + (m / d + 1) * d), (outside m).act (w.reaching outside start began m).2) := by
  rw [passing, Run.settle, h.sleeping, Run.advance, sleepUntil_of_early hunrequested (lt_end_of_interval hpos _ _)]

/-- Within an interval the run sleeps on. -/
theorem OnTime.reaching_within (h : OnTime w outside start began d m strikes sc) (hpos : 0 < d) (hwithin : m % d + 1 < d)
    (hunrequested : ((outside m).act (w.reaching outside start began m).2).control.stopRequested = false) :
    w.reaching outside start began (m + 1) =
      (.sleeping strikes (began + (m / d + 1) * d), (outside m).act (w.reaching outside start began m).2) := by
  obtain ⟨-, hdiv, -⟩ := (next_moment hpos m).resolve_right fun hlast => absurd hlast.1 hwithin.ne
  have hearly := lt_end_of_interval hpos began (m + 1)
  rw [hdiv] at hearly
  rw [reaching_succ, h.passing_of_unrequested hpos hunrequested, Run.advance, sleepUntil_of_early hunrequested hearly]

/-- At the end of an interval the run makes its tick, if that has no breach. -/
theorem OnTime.reaching_end (h : OnTime w outside start began d m strikes sc) (hpos : 0 < d) (hperiod : w.period = d)
    (hlast : m % d + 1 = d) (hunrequested : ((outside m).act (w.reaching outside start began m).2).control.stopRequested = false)
    (hquiet : ∀ i, ¬ w.Exhausted (Interlude.perInterval outside d) start.surroundings i ((m + 1) / d)) :
    ∃ strikes' sc', w.course (Interlude.perInterval outside d) start ((m + 1) / d) = (.sleeping strikes', sc')
      ∧ InStep w (Interlude.perInterval outside d) start ((m + 1) / d) strikes' sc'
      ∧ sc' = (w.evaluateAll strikes ((outside m).act (w.reaching outside start began m).2)).scene
      ∧ w.reaching outside start began (m + 1) =
        Run.sleepUntil w (began + (m + 1)) strikes' (began + ((m + 1) / d + 1) * d) sc' := by
  obtain ⟨-, hdiv, -⟩ := (next_moment hpos m).resolve_left fun hwithin => absurd hlast hwithin.1.ne
  have hinterlude : (outside m).act (w.reaching outside start began m).2 = (Interlude.perInterval outside d (m / d)).act sc := by
    rw [h.act_outside, hlast, Interlude.perInterval]
  have hbreach := findSome?_breach?_eq_none_iff.mpr (hdiv ▸ hquiet)
  have hdue : began + (m / d + 1) * d ≤ began + (m + 1) := Nat.add_le_add_left (hdiv ▸ Nat.div_mul_le_self (m + 1) d) _
  have hpassing := h.passing_of_unrequested hpos hunrequested
  rw [hinterlude] at hpassing hunrequested ⊢
  refine ⟨_, _, hdiv ▸ h.inStep.course_of_quiet h.at_tick hunrequested hbreach, hdiv ▸ h.inStep.evaluateAll, rfl, ?_⟩
  rw [reaching_succ, hpassing, Run.advance, sleepUntil_of_quiet hunrequested hdue (by rw [h.inStep.sightings]; exact hbreach), hperiod,
    hdiv, Nat.add_assoc began, Nat.succ_mul (m / d + 1)]

/-- A run on time is so at the next moment, if no stop is requested until then and a tick that is made there has no breach. -/
theorem OnTime.next (h : OnTime w outside start began d m strikes sc) (hpos : 0 < d) (hperiod : w.period = d)
    (hunrequested : ((outside m).act (w.reaching outside start began m).2).control.stopRequested = false)
    (hnext : (w.reaching outside start began (m + 1)).2.control.stopRequested = false)
    (hquiet : ∀ i, ¬ w.Exhausted (Interlude.perInterval outside d) start.surroundings i ((m + 1) / d)) :
    ∃ strikes' sc', OnTime w outside start began d (m + 1) strikes' sc' := by
  rcases next_moment hpos m with ⟨hwithin, hdiv, hmod⟩ | ⟨hlast, -, hmod⟩
  · refine ⟨strikes, sc, by rw [hdiv]; exact h.at_tick, by rw [hdiv]; exact h.inStep, ?_⟩
    rw [h.reaching_within hpos hwithin hunrequested, h.act_outside, hdiv, hmod]
  · obtain ⟨strikes', sc', at_tick, inStep, -, hreaching⟩ := h.reaching_end hpos hperiod hlast hunrequested hquiet
    rw [hreaching, ← Run.advance] at hnext
    have hunrequested' := unrequested_of_advance hnext
    refine ⟨strikes', sc', at_tick, inStep, ?_⟩
    rw [hreaching, sleepUntil_of_early hunrequested' (lt_end_of_interval hpos _ _), hmod, Interlude.during, Interlude.act_nothing]

/-- As long as nobody asked for a stop and no tick had a breach, the run is on time. -/
theorem onTime_of_unasked (hpos : 0 < d) (hperiod : w.period = d) (hidle : start.control.state = .idle)
    (hunasked : ∀ m ≤ t, (w.reaching outside start began m).2.control.stopRequested = false)
    (hquiet : ∀ n ≤ t / d, ∀ i, ¬ w.Exhausted (Interlude.perInterval outside d) start.surroundings i n) (hm : m ≤ t) :
    ∃ strikes sc, OnTime w outside start began d m strikes sc := by
  induction m with
  | zero => exact onTime_zero hperiod hidle
  | succ m ih =>
    obtain ⟨strikes, sc, h⟩ := ih (by omega)
    have hnext := hunasked (m + 1) hm
    rw [reaching_succ] at hnext
    exact h.next hpos hperiod (unrequested_of_advance (unrequested_of_advance hnext)) (hunasked (m + 1) hm)
      (hquiet _ (Nat.div_le_div_right hm))

/-- If neither the monitors nor the reporter ever ask for a stop and the rest of the process does not before a moment, then none is
requested when the clock comes to that moment. -/
theorem unasked_of_silent (hpos : 0 < d) (hperiod : w.period = d) (hidle : start.control.state = .idle)
    (hmonitors : ∀ e ∈ w.monitors, ∀ s, (e.monitor.check s).stops = false)
    (hreporter : ∀ event state, w.reporter.stops event state = false) (hstart : start.control.stopRequested = false)
    (houtside : ∀ m < t, (outside m).stops = false)
    (hquiet : ∀ n ≤ t / d, ∀ i, ¬ w.Exhausted (Interlude.perInterval outside d) start.surroundings i n) (hm : m ≤ t) :
    (w.reaching outside start began m).2.control.stopRequested = false := by
  suffices h : (w.reaching outside start began m).2.control.stopRequested = false
      ∧ ∃ strikes sc, OnTime w outside start began d m strikes sc from h.1
  induction m with
  | zero =>
    refine ⟨?_, onTime_zero hperiod hidle⟩
    rw [reaching, Run.start, start_of_idle hidle]
    simp [hreporter, hstart]
  | succ m ih =>
    obtain ⟨hcurrent, strikes, sc, h⟩ := ih (by omega)
    have hunrequested : ((outside m).act (w.reaching outside start began m).2).control.stopRequested = false := by
      rw [Interlude.control_act, houtside m (by omega), Control.stopIf_false, hcurrent]
    have hquiet' := hquiet _ (Nat.div_le_div_right hm)
    have hnext : (w.reaching outside start began (m + 1)).2.control.stopRequested = false := by
      rcases next_moment hpos m with ⟨hwithin, -, -⟩ | ⟨hlast, -, -⟩
      · rw [h.reaching_within hpos hwithin hunrequested]
        exact hunrequested
      · obtain ⟨strikes', sc', -, -, rfl, hreaching⟩ := h.reaching_end hpos hperiod hlast hunrequested hquiet'
        have hticked : (w.evaluateAll strikes ((outside m).act (w.reaching outside start began m).2)).scene.control.stopRequested
            = false := by
          rw [Configuration.evaluateAll, control_foldl_visit hmonitors hreporter]
          exact hunrequested
        rw [hreaching, sleepUntil_of_early hticked (lt_end_of_interval hpos _ _)]
        exact hticked
    exact ⟨hnext, h.next hpos hperiod hunrequested hnext hquiet'⟩

/-! ## What is called -/

theorem called_act (i : Interlude σ) (sc : Scene σ ρ) : (i.act sc).called = sc.called := rfl

/-- Each sighting is one call, to the monitor of its entry. -/
theorem evaluated_flatMap_acts (sightings : List (Sighting σ)) :
    (sightings.flatMap Sighting.acts).filterMap Act.evaluated? = sightings.map (·.entry.name) := by
  induction sightings with
  | nil => rfl
  | cons x rest ih =>
    rw [List.flatMap_cons, List.filterMap_append, ih]
    rfl

/-- The sightings of a tick are those of all entries, in the order of the stack. -/
theorem names_sightingsAt (w : Watchdog σ ρ) (between : Nat → Interlude σ) (s : σ) (n : Nat) :
    (w.sightingsAt between s n).map (·.entry.name) = w.monitors.names := by
  rw [Stack.names, ← map_entry_sightingsAt w between s n, List.map_map]
  rfl

/-- The calls of a number of ticks are as many rounds. -/
theorem evaluated_acts (w : Watchdog σ ρ) (between : Nat → Interlude σ) (s : σ) (n : Nat) :
    (w.acts between s n).filterMap Act.evaluated? = w.rounds n := by
  induction n with
  | zero => rfl
  | succ n ih => rw [acts_succ, List.filterMap_append, ih, evaluated_flatMap_acts, names_sightingsAt, rounds_succ]

/-- A run on time has called all monitors once for each interval that is over. -/
theorem OnTime.called (h : OnTime w outside start began d m strikes sc) :
    (w.reaching outside start began m).2.called = start.called ++ w.rounds (m / d) := by
  have hhistory := h.inStep.did.history
  rw [h.at_moment, called_act, Scene.called, hhistory, List.filterMap_append, ← evaluated_acts]
  rfl

/-! ## A stop from outside -/

/-- The stop ends the run at its moment, and the only act of the run there is the report of its end. -/
theorem OnTime.stopped (h : OnTime w outside start began d t strikes sc) (hstop : (outside t).stops = true) :
    (w.passing outside start began t).1 = .ended .stopped ∧
      (w.passing outside start began t).2.history =
        (w.reaching outside start began t).2.history ++ [.reported (.stopped Outcome.stopped.reason)] := by
  have hrequested : ((outside t).act (w.reaching outside start began t).2).control.stopRequested = true := by
    rw [Interlude.control_act, hstop]
    exact Control.stopRequested_stop _
  rw [h.passing_of_requested hrequested]
  exact ⟨rfl, (did_finish w .stopped _).history⟩

/-- A run that has ended does nothing more, whatever the rest of the process does. -/
theorem passing_of_ended {outcome : Outcome} (h : (w.passing outside start began t).1 = .ended outcome) (hm : t ≤ m) :
    (w.passing outside start began m).1 = .ended outcome ∧
      (w.passing outside start began m).2.history = (w.passing outside start began t).2.history := by
  induction m, hm using Nat.le_induction with
  | base => exact ⟨h, rfl⟩
  | succ m _ ih =>
    have hreaching : w.reaching outside start began (m + 1) = (.ended outcome, (w.passing outside start began m).2) := by
      rw [reaching_succ, ih.1]
      rfl
    rw [passing, hreaching]
    exact ⟨rfl, ih.2⟩

/-- What is called of a run that is on time until it is stopped. -/
theorem called_passing (hpos : 0 < d) (hunasked : ∀ m ≤ t, (w.reaching outside start began m).2.control.stopRequested = false)
    (honTime : ∀ m ≤ t, ∃ strikes sc, OnTime w outside start began d m strikes sc) (hstop : (outside t).stops = true) (m : Nat) :
    (w.passing outside start began m).2.called = start.called ++ w.rounds (min m t / d) := by
  rcases Nat.lt_or_ge m t with hm | hm
  · obtain ⟨strikes, sc, h⟩ := honTime m hm.le
    have hnext := hunasked (m + 1) hm
    rw [reaching_succ] at hnext
    rw [h.passing_of_unrequested hpos (unrequested_of_advance (unrequested_of_advance hnext)), called_act, h.called, min_eq_left hm.le]
  · obtain ⟨strikes, sc, h⟩ := honTime t le_rfl
    obtain ⟨hended, hhistory⟩ := h.stopped hstop
    rw [Scene.called, (passing_of_ended hended hm).2, hhistory, List.filterMap_append, min_eq_right hm, ← h.called]
    exact List.append_nil _

/-- If the calls are whole rounds, one for each interval up to a moment, then each round was called at the end of its interval. -/
theorem callTimes_eq (hpos : 0 < d)
    (hcalled : ∀ m, (w.passing outside start began m).2.called = start.called ++ w.rounds (min m t / d)) (m : Nat) :
    w.callTimes outside start began m =
      (List.range (min m t / d)).flatMap fun j => w.monitors.names.map (((j + 1) * d, ·)) := by
  induction m with
  | zero =>
    rw [callTimes, hcalled, List.drop_left, Nat.zero_min, Nat.zero_div]
    rfl
  | succ m ih =>
    rw [callTimes, hcalled, hcalled, ih]
    rcases Nat.lt_or_ge m t with hm | hm
    · rw [min_eq_left hm.le, min_eq_left (Nat.succ_le_of_lt hm)]
      rcases next_moment hpos m with ⟨-, hdiv, -⟩ | ⟨hlast, hdiv, hmod⟩
      · simp [hdiv]
      · have hend : (m / d + 1) * d = m + 1 := by
          have := Nat.div_add_mod' (m + 1) d
          rw [hdiv, hmod] at this
          omega
        rw [hdiv, rounds_succ, ← List.append_assoc, List.drop_left, List.range_succ, List.flatMap_append, List.flatMap_singleton, hend]
    · simp [min_eq_right hm, min_eq_right (Nat.le_succ_of_le hm)]

/-- In rounds of distinct names each name has one call in each round. -/
theorem times_of_name {names : List String} (hnodup : names.Nodup) {name : String} (hname : name ∈ names) (moment : Nat → Nat) (k : Nat) :
    (((List.range k).flatMap fun j => names.map ((moment j, ·))).filter fun call => call.2 = name).map (·.1) =
      (List.range k).map moment := by
  have hone : names.filter (· = name) = [name] := by
    rw [List.filter_eq, List.count_eq_one_of_mem hnodup hname]
    rfl
  induction k with
  | zero => rfl
  | succ k ih =>
    rw [List.range_succ, List.flatMap_append, List.filter_append, List.map_append, ih, List.map_append]
    simp [List.filter_map, Function.comp_def, hone]

/-- A watchdog whose timer fires at its deadlines, and which is asked to stop from outside after `k` of its intervals and before the next
one is over; until then nobody asked for a stop and no tick had a breach. Its run lasts until that moment and ends there, with the report
of its end as its only act. By then each tick called all entries of the stack in their order and at one moment, the `j`-th tick at `j`
intervals after the start, so that each monitor was called `k` times. Nothing else is ever called. -/
theorem called_on_time_until_stopped (w : Watchdog σ ρ) (outside : Nat → Interlude σ) (start : Scene σ ρ) (began d k t : Nat)
    (hidle : start.control.state = .idle) (hinterval : w.interval.nanoseconds = 1000000 * d) (hpunctual : w.Punctual)
    (hafter : k * d ≤ t) (hbefore : t < (k + 1) * d) (hstop : (outside t).stops = true)
    (hunasked : ∀ m ≤ t, (w.reaching outside start began m).2.control.stopRequested = false)
    (hquiet : ∀ n ≤ k, ∀ i, ¬ w.Exhausted (Interlude.perInterval outside d) start.surroundings i n) :
    (∀ m ≤ t, (w.reaching outside start began m).1.outcome? = none) ∧
      (w.passing outside start began t).2.history =
        (w.reaching outside start began t).2.history ++ [.reported (.stopped "stop requested")] ∧
      ∀ m, t ≤ m →
        (w.passing outside start began m).1.outcome? = some .stopped ∧
        (w.passing outside start began m).2.history = (w.passing outside start began t).2.history ∧
        (w.passing outside start began m).2.called = start.called ++ (w.callTimes outside start began m).map (·.2) ∧
        w.callTimes outside start began m = ((List.range k).flatMap fun j => w.monitors.names.map (((j + 1) * d, ·))) ∧
        ∀ name ∈ w.monitors.names,
          (((w.callTimes outside start began m).filter fun call => call.2 = name).map (·.1)) =
            (List.range k).map fun j => (j + 1) * d := by
  have hpos : 0 < d := by
    rcases Nat.eq_zero_or_pos d with rfl | hpos
    · exact absurd hinterval w.interval_ne_zero
    · exact hpos
  have hperiod := period_eq hpunctual hinterval
  obtain rfl : k = t / d := (Nat.div_eq_of_lt_le hafter hbefore).symm
  have honTime : ∀ m ≤ t, ∃ strikes sc, OnTime w outside start began d m strikes sc := fun m hm =>
    onTime_of_unasked hpos hperiod hidle hunasked hquiet hm
  have hcalled := called_passing hpos hunasked honTime hstop
  obtain ⟨strikes, sc, h⟩ := honTime t le_rfl
  obtain ⟨hended, hhistory⟩ := h.stopped hstop
  refine ⟨fun m hm => ?_, hhistory, fun m hm => ?_⟩
  · obtain ⟨strikes, sc, h⟩ := honTime m hm
    rw [h.sleeping]
    rfl
  · obtain ⟨hended', hsame⟩ := passing_of_ended hended hm
    have htimes := callTimes_eq hpos hcalled m
    rw [min_eq_right hm] at htimes
    refine ⟨by rw [hended']; rfl, hsame, ?_, htimes, fun name hname => ?_⟩
    · rw [hcalled, htimes, min_eq_right hm, List.map_flatMap]
      simp [rounds, Function.comp_def]
    · rw [htimes]
      exact times_of_name w.names_nodup hname _ _

/-- The pair, with a tick every two milliseconds. -/
def quickPair : Watchdog Nat Unit :=
  { pair fun _ => false with interval := ⟨2000000⟩, interval_ne_zero := by decide }

/-- A stop in the third millisecond comes between the first tick and the second, at which the first monitor would use up its strikes. -/
theorem quickPair_stopped_between_ticks :
    let outside : Nat → Interlude Nat := fun m => { stops := m == 3 }
    quickPair.Punctual ∧ (quickPair.reaching outside .beginning 10 3).1.outcome? = none ∧
      (quickPair.passing outside .beginning 10 3).1.outcome? = some .stopped ∧
      quickPair.callTimes outside .beginning 10 3 = [(2, "steady"), (2, "late")] := by
  intro outside
  have hpunctual : quickPair.Punctual := punctual_of_lt (by decide)
  have hquiet : ∀ n ≤ 1, ∀ i, ¬ quickPair.Exhausted (Interlude.perInterval outside 2) 0 i n := by
    intro n hn i
    match n, hn with
    | 0, _ => exact not_exhausted_zero i
    | 1, _ => exact findSome?_breach?_eq_none_iff.mp rfl i
  have hunasked : ∀ m ≤ 3, (quickPair.reaching outside .beginning 10 m).2.control.stopRequested = false := fun m hm =>
    unasked_of_silent (d := 2) (by decide) (period_eq hpunctual rfl) rfl (by simp [quickPair, pair, Monitor.scripted, Monitor.entry])
      (fun _ _ => rfl) rfl (fun m hm => beq_eq_false_iff_ne.mpr hm.ne) hquiet hm
  obtain ⟨hasleep, -, hended⟩ := called_on_time_until_stopped quickPair outside .beginning 10 2 1 3 rfl rfl hpunctual (by decide)
    (by decide) rfl hunasked hquiet
  obtain ⟨houtcome, -, -, htimes, -⟩ := hended 3 le_rfl
  exact ⟨hpunctual, hasleep 3 le_rfl, houtcome, htimes⟩

end Watchdog

end MemoryWatchdog
