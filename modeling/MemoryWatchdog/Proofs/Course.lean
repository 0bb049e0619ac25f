import Mathlib.Data.List.Basic
import MemoryWatchdog.Proofs.Tick
import MemoryWatchdog.Watchdog.Run

/-!
# The course of a run

`Watchdog.course` is a run after a number of wake-ups. While it sleeps, the rest of the process may change the surroundings, take the
request for a heap report, log, and ask for a stop: an `Interlude` says what it does, and the statements hold for all of them.

Beside the course stands what the monitors would find if they were consulted for ever (`surroundingsAt`, `findingsAt`), which depends
neither on strikes nor on stops, and what a tick makes of it if each monitor counts on its own (`sightingsAt`). As long as the run
sleeps, its ledger holds these counts and its journal these sightings (`InStep`). A run is asleep, or a stop was found when it woke
up, or the sightings of a tick had a breach (`course_stage`).
-/

namespace MemoryWatchdog

variable {σ ρ : Type}

/-- What the rest of the process does while a run sleeps. -/
structure Interlude (σ : Type) where
  change : σ → σ := id
  takesDump : Bool := false
  log : Log := #[]
  stops : Bool := false

/-- The scene after an interlude. -/
def Interlude.act (i : Interlude σ) (sc : Scene σ ρ) : Scene σ ρ :=
  { sc with
    surroundings := i.change sc.surroundings
    dumps := if i.takesDump then sc.dumps.take.2 else sc.dumps
    log := sc.log ++ i.log
    control := sc.control.stopIf i.stops }

/-- The outcome of a run that has ended. -/
def Progress.outcome? : Progress → Option Outcome
  | .sleeping _ => none
  | .ended outcome => some outcome

/-- A run that has an outcome has ended with it. -/
theorem Progress.outcome?_eq_some_iff {progress : Progress} {outcome : Outcome} :
    progress.outcome? = some outcome ↔ progress = .ended outcome := by
  cases progress <;> simp [Progress.outcome?]

theorem Progress.outcome?_eq_none_iff {progress : Progress} :
    progress.outcome? = none ↔ ∃ strikes, progress = .sleeping strikes := by
  cases progress <;> simp [Progress.outcome?]

/-- An interlude is no act of the run and tells the reporter nothing. -/
theorem Interlude.did_act (i : Interlude σ) (r : Reporter ρ) (sc : Scene σ ρ) : Scene.Did r [] sc (i.act sc) :=
  ⟨by simp [Scene.history, act], rfl⟩

@[simp] theorem Interlude.control_act (i : Interlude σ) (sc : Scene σ ρ) :
    (i.act sc).control = sc.control.stopIf i.stops := rfl

/-- An interlude leaves the state of a watchdog that was started. -/
theorem Interlude.state_act (i : Interlude σ) {sc : Scene σ ρ} (h : sc.control.state ≠ .idle) :
    (i.act sc).control.state = sc.control.state :=
  Control.state_stopIf _ h

namespace Watchdog

/-- A run after one more interlude and wake-up, if it has not ended. -/
def resume (w : Watchdog σ ρ) (i : Interlude σ) : Progress × Scene σ ρ → Progress × Scene σ ρ
  | (.sleeping strikes, sc) => w.wake strikes (i.act sc)
  | (.ended outcome, sc) => (.ended outcome, sc)

/-- A run after a number of wake-ups. -/
def course (w : Watchdog σ ρ) (between : Nat → Interlude σ) (sc : Scene σ ρ) : Nat → Progress × Scene σ ρ
  | 0 => w.start sc
  | n + 1 => w.resume (between n) (w.course between sc n)

/-- The surroundings that the monitors are called in when they are consulted once more after a number of times. -/
def surroundingsAt (w : Watchdog σ ρ) (between : Nat → Interlude σ) (s : σ) : Nat → σ
  | 0 => (between 0).change s
  | n + 1 => (between (n + 1)).change (w.monitors.leave (w.surroundingsAt between s n))

/-- What the monitors find when they are consulted once more after a number of times. -/
def findingsAt (w : Watchdog σ ρ) (between : Nat → Interlude σ) (s : σ) (n : Nat) : List Finding :=
  w.monitors.survey (w.surroundingsAt between s n)

/-- What the monitor at a position found each time, if it was consulted the given number of times. -/
def outcomes (w : Watchdog σ ρ) (between : Nat → Interlude σ) (s : σ) (i n : Nat) : List Finding :=
  (List.range n).filterMap fun m => (w.findingsAt between s m)[i]?

/-- The sightings of a tick that comes after a number of ticks, if each monitor counts on its own. -/
def sightingsAt (w : Watchdog σ ρ) (between : Nat → Interlude σ) (s : σ) (n : Nat) : List (Sighting σ) :=
  (w.monitors.zip (w.findingsAt between s n)).mapIdx fun i (e, f) => ⟨e, f, tally (w.outcomes between s i (n + 1))⟩

/-- The acts of a number of ticks: for each entry in each tick the evaluation and then its report. -/
def acts (w : Watchdog σ ρ) (between : Nat → Interlude σ) (s : σ) (n : Nat) : List Act :=
  (List.range n).flatMap fun m => (w.sightingsAt between s m).flatMap Sighting.acts

variable {w : Watchdog σ ρ} {between : Nat → Interlude σ} {s : σ}

/-! ## What the monitors find -/

theorem length_findingsAt (w : Watchdog σ ρ) (between : Nat → Interlude σ) (s : σ) (n : Nat) :
    (w.findingsAt between s n).length = w.monitors.length :=
  Stack.length_survey _ _

/-- Each entry of the stack is evaluated each time. -/
theorem exists_finding (between : Nat → Interlude σ) (s : σ) {i : Nat} {e : Monitor.Entry σ} (h : w.monitors[i]? = some e)
    (n : Nat) :
    ∃ f, (w.findingsAt between s n)[i]? = some f := by
  have hlt := (List.getElem?_eq_some_iff.mp h).1
  rw [← length_findingsAt w between s n] at hlt
  exact ⟨_, List.getElem?_eq_getElem hlt⟩

/-- Each time, what an entry's monitor found is added to its outcomes. -/
theorem outcomes_succ {i n : Nat} {f : Finding} (h : (w.findingsAt between s n)[i]? = some f) :
    w.outcomes between s i (n + 1) = w.outcomes between s i n ++ [f] := by
  simp [outcomes, List.range_succ, List.filterMap_append, h]

/-- An entry has one outcome for each time. -/
theorem length_outcomes (between : Nat → Interlude σ) (s : σ) {i : Nat} {e : Monitor.Entry σ} (h : w.monitors[i]? = some e)
    (n : Nat) :
    (w.outcomes between s i n).length = n := by
  induction n with
  | zero => rfl
  | succ n ih =>
    obtain ⟨f, hf⟩ := exists_finding between s h n
    rw [outcomes_succ hf, List.length_append, ih, List.length_singleton]

/-- An outcome of an entry is what its monitor found at that time. -/
theorem getElem?_outcomes {i : Nat} {e : Monitor.Entry σ} (h : w.monitors[i]? = some e) {m n : Nat} (hm : m < n) :
    (w.outcomes between s i n)[m]? = (w.findingsAt between s m)[i]? := by
  induction n with
  | zero => omega
  | succ n ih =>
    obtain ⟨f, hf⟩ := exists_finding between s h n
    have hlen := length_outcomes between s h n
    rw [outcomes_succ hf]
    by_cases hlt : m < n
    · rw [List.getElem?_append_left (by omega), ih hlt]
    · obtain rfl : m = n := by omega
      rw [List.getElem?_append_right (by omega), hlen, Nat.sub_self, List.getElem?_cons_zero, hf]

/-- A sighting of a tick is that of an entry with what its monitor found and the tally of all its outcomes so far. -/
theorem getElem?_sightingsAt {i n : Nat} {x : Sighting σ} :
    (w.sightingsAt between s n)[i]? = some x ↔
      ∃ e f, w.monitors[i]? = some e ∧ (w.findingsAt between s n)[i]? = some f ∧
        x = ⟨e, f, tally (w.outcomes between s i (n + 1))⟩ := by
  simp only [sightingsAt, List.getElem?_mapIdx, Option.map_eq_some_iff, List.getElem?_zip_eq_some, Prod.exists]
  constructor
  · rintro ⟨e, f, ⟨he, hf⟩, rfl⟩
    exact ⟨e, f, he, hf, rfl⟩
  · rintro ⟨e, f, he, hf, rfl⟩
    exact ⟨e, f, ⟨he, hf⟩, rfl⟩

/-- In a tick each entry of the stack is sighted once, in the order of the stack. -/
theorem map_entry_sightingsAt (w : Watchdog σ ρ) (between : Nat → Interlude σ) (s : σ) (n : Nat) :
    (w.sightingsAt between s n).map Sighting.entry = w.monitors := by
  refine List.ext_getElem? fun i => Option.ext fun e => ?_
  rw [List.getElem?_map, Option.map_eq_some_iff]
  constructor
  · rintro ⟨x, hx, rfl⟩
    obtain ⟨e, f, he, -, rfl⟩ := getElem?_sightingsAt.mp hx
    exact he
  · intro he
    obtain ⟨f, hf⟩ := exists_finding between s he n
    exact ⟨_, getElem?_sightingsAt.mpr ⟨e, f, he, hf, rfl⟩, rfl⟩

/-- If the ledger has the count of each monitor on its own before a tick, the tick makes the same sightings. -/
theorem sightings_eq_sightingsAt {strikes : Strikes} {n : Nat}
    (h : ∀ i e, w.monitors[i]? = some e → strikes.count e.name = tally (w.outcomes between s i n)) :
    w.monitors.sightings strikes (w.surroundingsAt between s n) = w.sightingsAt between s n := by
  refine List.ext_getElem? fun i => Option.ext fun x => ?_
  rw [Stack.sightings, List.getElem?_zipWith_eq_some, getElem?_sightingsAt]
  have hcount : ∀ e f, w.monitors[i]? = some e → (w.findingsAt between s n)[i]? = some f →
      nextCount (strikes.count e.name) f = tally (w.outcomes between s i (n + 1)) := by
    intro e f he hf
    rw [h i e he, outcomes_succ hf, tally_concat]
  constructor
  · rintro ⟨e, f, he, hf, rfl⟩
    exact ⟨e, f, he, hf, by rw [hcount e f he hf]⟩
  · rintro ⟨e, f, he, hf, rfl⟩
    exact ⟨e, f, he, hf, by rw [hcount e f he hf]⟩

/-- Each tick adds the acts of its sightings. -/
theorem acts_succ (w : Watchdog σ ρ) (between : Nat → Interlude σ) (s : σ) (n : Nat) :
    w.acts between s (n + 1) = w.acts between s n ++ (w.sightingsAt between s n).flatMap Sighting.acts := by
  simp [acts, List.range_succ]

/-! ## What a start and a wake-up do -/

/-- An idle watchdog that is started runs, reports its start and sleeps without strikes. -/
theorem start_of_idle {sc : Scene σ ρ} (h : sc.control.state = .idle) :
    w.start sc =
      (.sleeping {}, { sc with control := { sc.control with state := .running } }.emit w.reporter w.startedEvent) := by
  simp [start, Control.start?, h]

/-- The first act of a run is the report of its start. -/
theorem did_start {sc : Scene σ ρ} (h : sc.control.state = .idle) :
    Scene.Did w.reporter [.reported w.startedEvent] sc (w.start sc).2 := by
  rw [start_of_idle h]
  exact ⟨Scene.history_emit _ _ _, rfl⟩

/-- A wake-up that finds a request to stop ends the run. -/
theorem wake_of_stopRequested {strikes : Strikes} {sc : Scene σ ρ} (h : sc.control.stopRequested = true) :
    w.wake strikes sc = w.finish .stopped sc := by
  rw [wake, if_pos h]

/-- All evaluations of a tick of the watchdog are those of its stack, whose names are distinct. -/
theorem visited_evaluateAll (w : Watchdog σ ρ) (strikes : Strikes) (sc : Scene σ ρ) :
    Configuration.Visited w.toConfiguration w.monitors { scene := sc, strikes } (w.evaluateAll strikes sc) :=
  Configuration.visited_foldl w.toConfiguration w.names_nodup _

/-- The breach of a tick is the first of its sightings that is one. -/
theorem breach_evaluateAll (w : Watchdog σ ρ) (strikes : Strikes) (sc : Scene σ ρ) :
    (w.evaluateAll strikes sc).breach = (w.monitors.sightings strikes sc.surroundings).findSome? Sighting.breach? :=
  (visited_evaluateAll w strikes sc).breach

/-- A wake-up that finds no stop and has no breach evaluates all monitors and sleeps again. -/
theorem wake_of_quiet {strikes : Strikes} {sc : Scene σ ρ} (h : sc.control.stopRequested = false)
    (hb : (w.monitors.sightings strikes sc.surroundings).findSome? Sighting.breach? = none) :
    w.wake strikes sc = (.sleeping (w.evaluateAll strikes sc).strikes, (w.evaluateAll strikes sc).scene) := by
  rw [← breach_evaluateAll] at hb
  simp [wake, h, Configuration.tick, hb]

/-- One that has a breach evaluates all monitors, escalates the breach and ends the run. -/
theorem wake_of_breach {strikes : Strikes} {sc : Scene σ ρ} {b : Breach} (h : sc.control.stopRequested = false)
    (hb : (w.monitors.sightings strikes sc.surroundings).findSome? Sighting.breach? = some b) :
    w.wake strikes sc = w.finish (.handlerInvoked b.monitor) (w.escalate b (w.evaluateAll strikes sc).scene) := by
  rw [← breach_evaluateAll] at hb
  simp [wake, h, Configuration.tick, hb]

/-- The last act of a run is the report of its end. -/
theorem did_finish (w : Watchdog σ ρ) (outcome : Outcome) (sc : Scene σ ρ) :
    Scene.Did w.reporter [.reported (.stopped outcome.reason)] sc (w.finish outcome sc).2 :=
  ⟨by simp [finish, Scene.history, Scene.emit], rfl⟩

theorem outcome?_finish (w : Watchdog σ ρ) (outcome : Outcome) (sc : Scene σ ρ) :
    (w.finish outcome sc).1.outcome? = some outcome := rfl

/-! ## A run that sleeps -/

/-- What a sleeping run has done after a number of ticks: its journal has the sightings of these ticks, its ledger the count of each
monitor on its own, and it meets the next tick in the surroundings that the monitors alone would have left. -/
structure InStep (w : Watchdog σ ρ) (between : Nat → Interlude σ) (start : Scene σ ρ) (n : Nat) (strikes : Strikes)
    (sc : Scene σ ρ) : Prop where
  state : sc.control.state = .running
  surroundings : (between n).change sc.surroundings = w.surroundingsAt between start.surroundings n
  counts : ∀ i e, w.monitors[i]? = some e → strikes.count e.name = tally (w.outcomes between start.surroundings i n)
  did : Scene.Did w.reporter (.reported w.startedEvent :: w.acts between start.surroundings n) start sc

variable {start : Scene σ ρ}

/-- The next tick of a run that is in step makes the sightings in which each monitor counts on its own. -/
theorem InStep.sightings {n : Nat} {strikes : Strikes} {sc : Scene σ ρ} (h : InStep w between start n strikes sc) :
    w.monitors.sightings strikes ((between n).act sc).surroundings = w.sightingsAt between start.surroundings n := by
  rw [← sightings_eq_sightingsAt h.counts, ← h.surroundings]
  rfl

/-- A run that was started is in step before its first tick. -/
theorem inStep_zero (w : Watchdog σ ρ) (between : Nat → Interlude σ) (hidle : start.control.state = .idle) :
    ∃ sc, w.course between start 0 = (.sleeping {}, sc) ∧ InStep w between start 0 {} sc := by
  have hdid := did_start (w := w) hidle
  rw [start_of_idle hidle] at hdid
  exact ⟨_, start_of_idle hidle, Control.state_stopIf _ (by simp), rfl, fun i e _ => rfl, hdid⟩

/-- The evaluations of the next tick keep a run in step. -/
theorem InStep.evaluateAll {n : Nat} {strikes : Strikes} {sc : Scene σ ρ} (h : InStep w between start n strikes sc) :
    InStep w between start (n + 1) (w.evaluateAll strikes ((between n).act sc)).strikes
      (w.evaluateAll strikes ((between n).act sc)).scene := by
  have hv := visited_evaluateAll w strikes ((between n).act sc)
  have hrunning : ((between n).act sc).control.state = .running := by
    rw [Interlude.state_act _ (by rw [h.state]; simp), h.state]
  refine ⟨?_, ?_, fun i e he => ?_, ?_⟩
  · rw [hv.state (by rw [hrunning]; simp), hrunning]
  · rw [hv.surroundings, surroundingsAt, ← h.surroundings]
    rfl
  · obtain ⟨f, hf⟩ := exists_finding between start.surroundings he n
    have hmem := List.mem_of_getElem? (getElem?_sightingsAt.mpr ⟨e, f, he, hf, rfl⟩)
    rw [← h.sightings] at hmem
    exact hv.count_of_mem _ hmem
  · have hdid := (h.did.trans (Interlude.did_act (between n) w.reporter sc)).trans hv.did
    rw [List.append_nil, h.sightings] at hdid
    rw [acts_succ, ← List.cons_append]
    exact hdid

/-- If no stop is found and the sightings have no breach, the run sleeps again after a tick. -/
theorem InStep.course_of_quiet {n : Nat} {strikes : Strikes} {sc : Scene σ ρ} (h : InStep w between start n strikes sc)
    (at_n : w.course between start n = (.sleeping strikes, sc)) (hreq : ((between n).act sc).control.stopRequested = false)
    (hb : (w.sightingsAt between start.surroundings n).findSome? Sighting.breach? = none) :
    w.course between start (n + 1) = (.sleeping (w.evaluateAll strikes ((between n).act sc)).strikes,
      (w.evaluateAll strikes ((between n).act sc)).scene) := by
  rw [course, at_n, resume, wake_of_quiet hreq (by rw [h.sightings]; exact hb)]

/-- If no stop is found and the sightings have a breach, the run ends with its escalation. -/
theorem InStep.course_of_breach {n : Nat} {strikes : Strikes} {sc : Scene σ ρ} {b : Breach}
    (h : InStep w between start n strikes sc) (at_n : w.course between start n = (.sleeping strikes, sc))
    (hreq : ((between n).act sc).control.stopRequested = false)
    (hb : (w.sightingsAt between start.surroundings n).findSome? Sighting.breach? = some b) :
    w.course between start (n + 1) =
      w.finish (.handlerInvoked b.monitor) (w.escalate b (w.evaluateAll strikes ((between n).act sc)).scene) := by
  rw [course, at_n, resume, wake_of_breach hreq (by rw [h.sightings]; exact hb)]

/-- A run that is stopped did nothing after its last tick but report its end. -/
theorem InStep.did_stopped {n : Nat} {strikes : Strikes} {sc : Scene σ ρ} (h : InStep w between start n strikes sc) :
    Scene.Did w.reporter
      (.reported w.startedEvent :: (w.acts between start.surroundings n ++ [.reported (.stopped Outcome.stopped.reason)]))
      start (w.finish .stopped ((between n).act sc)).2 := by
  have hdid := (h.did.trans (Interlude.did_act (between n) w.reporter sc)).trans (did_finish w .stopped ((between n).act sc))
  simpa using hdid

/-- What is reported of the call to the handler after a breach in a tick that comes after a number of ticks. -/
def handlerEventAt (w : Watchdog σ ρ) (between : Nat → Interlude σ) (s : σ) (n : Nat) (b : Breach) : Event :=
  w.handlerEvent b (w.handler.call (w.monitors.leave (w.surroundingsAt between s n))).ending

/-- The evaluations of a tick leave the surroundings that the monitors alone would have left. -/
theorem InStep.surroundings_evaluateAll {n : Nat} {strikes : Strikes} {sc : Scene σ ρ} (h : InStep w between start n strikes sc) :
    (w.evaluateAll strikes ((between n).act sc)).scene.surroundings = w.monitors.leave (w.surroundingsAt between start.surroundings n) := by
  rw [(visited_evaluateAll w strikes _).surroundings, ← h.surroundings]
  rfl

/-- A run with a breach leaves the surroundings that its one call to the handler leaves. -/
theorem InStep.surroundings_breached {n : Nat} {strikes : Strikes} {sc : Scene σ ρ} (h : InStep w between start n strikes sc)
    (b : Breach) :
    (w.finish (.handlerInvoked b.monitor) (w.escalate b (w.evaluateAll strikes ((between n).act sc)).scene)).2.surroundings =
      (w.handler.call (w.monitors.leave (w.surroundingsAt between start.surroundings n))).state := by
  rw [← h.surroundings_evaluateAll]
  exact Configuration.surroundings_escalate w.toConfiguration b _

/-- A run with a breach did the whole tick first, then the escalation, and at last reported its end. -/
theorem InStep.did_breached {n : Nat} {strikes : Strikes} {sc : Scene σ ρ} (h : InStep w between start n strikes sc) (b : Breach) :
    Scene.Did w.reporter
      (.reported w.startedEvent ::
        (w.acts between start.surroundings (n + 1) ++
          w.escalation b (w.handlerEventAt between start.surroundings n b) ++
          [.reported (.stopped (Outcome.handlerInvoked b.monitor).reason)]))
      start (w.finish (.handlerInvoked b.monitor) (w.escalate b (w.evaluateAll strikes ((between n).act sc)).scene)).2 := by
  have hescalate := Configuration.did_escalate w.toConfiguration b (w.evaluateAll strikes ((between n).act sc)).scene
  rw [h.surroundings_evaluateAll] at hescalate
  have hdid := (h.evaluateAll.did.trans hescalate).trans (did_finish w (.handlerInvoked b.monitor) _)
  simpa [handlerEventAt] using hdid

/-! ## The stages of a run -/

/-- Once a run has ended, it stays as it is. -/
theorem course_of_ended {n m : Nat} {outcome : Outcome} (h : (w.course between start n).1 = .ended outcome) (hm : n ≤ m) :
    w.course between start m = w.course between start n := by
  induction m, hm using Nat.le_induction with
  | base => rfl
  | succ m _ ih =>
    rw [course, ih]
    cases hc : w.course between start n with
    | mk progress sc =>
      rw [hc] at h
      obtain rfl : progress = .ended outcome := h
      rfl

/-- Where a run that was started is after a number of wake-ups: it sleeps, in step; or it ended at an earlier sleep's end because a
stop was requested; or it ended there because the sightings of the tick had a breach. -/
inductive Stage (w : Watchdog σ ρ) (between : Nat → Interlude σ) (start : Scene σ ρ) (n : Nat) : Prop
  | asleep (strikes : Strikes) (sc : Scene σ ρ) (at_n : w.course between start n = (.sleeping strikes, sc))
      (inStep : InStep w between start n strikes sc)
  | stopped (m : Nat) (strikes : Strikes) (sc : Scene σ ρ) (before : m < n)
      (at_m : w.course between start m = (.sleeping strikes, sc)) (inStep : InStep w between start m strikes sc)
      (requested : ((between m).act sc).control.stopRequested = true)
      (at_n : w.course between start n = w.finish .stopped ((between m).act sc))
  | breached (m : Nat) (strikes : Strikes) (sc : Scene σ ρ) (b : Breach) (before : m < n)
      (at_m : w.course between start m = (.sleeping strikes, sc)) (inStep : InStep w between start m strikes sc)
      (unrequested : ((between m).act sc).control.stopRequested = false)
      (breach : (w.sightingsAt between start.surroundings m).findSome? Sighting.breach? = some b)
      (at_n : w.course between start n =
        w.finish (.handlerInvoked b.monitor) (w.escalate b (w.evaluateAll strikes ((between m).act sc)).scene))

/-- One wake-up of a run that sleeps in step. -/
theorem InStep.stage {n : Nat} {strikes : Strikes} {sc : Scene σ ρ} (h : InStep w between start n strikes sc)
    (at_n : w.course between start n = (.sleeping strikes, sc)) : Stage w between start (n + 1) := by
  cases hreq : ((between n).act sc).control.stopRequested with
  | true =>
    have hend : w.course between start (n + 1) = w.finish .stopped ((between n).act sc) := by
      rw [course, at_n, resume, wake_of_stopRequested hreq]
    exact .stopped n strikes sc (Nat.lt_succ_self n) at_n h hreq hend
  | false =>
    cases hb : (w.sightingsAt between start.surroundings n).findSome? Sighting.breach? with
    | none => exact .asleep _ _ (h.course_of_quiet at_n hreq hb) h.evaluateAll
    | some b => exact .breached n strikes sc b (Nat.lt_succ_self n) at_n h hreq hb (h.course_of_breach at_n hreq hb)

/-- After any number of wake-ups a run that was started is in one of the three stages. -/
theorem course_stage (w : Watchdog σ ρ) (between : Nat → Interlude σ) (hidle : start.control.state = .idle) (n : Nat) :
    Stage w between start n := by
  induction n with
  | zero =>
    obtain ⟨sc, at_0, inStep⟩ := inStep_zero w between hidle
    exact .asleep {} sc at_0 inStep
  | succ n ih =>
    cases ih with
    | asleep strikes sc at_n inStep => exact inStep.stage at_n
    | stopped m strikes sc before at_m inStep requested at_n =>
      have hended : (w.course between start n).1 = .ended .stopped := by rw [at_n]; rfl
      exact .stopped m strikes sc (Nat.lt_succ_of_lt before) at_m inStep requested
        (by rw [course_of_ended hended (Nat.le_succ n), at_n])
    | breached m strikes sc b before at_m inStep unrequested breach at_n =>
      have hended : (w.course between start n).1 = .ended (.handlerInvoked b.monitor) := by rw [at_n]; rfl
      exact .breached m strikes sc b (Nat.lt_succ_of_lt before) at_m inStep unrequested breach
        (by rw [course_of_ended hended (Nat.le_succ n), at_n])

/-- A run that was started and still sleeps is in step. -/
theorem inStep_of_asleep (hidle : start.control.state = .idle) {n : Nat} {strikes : Strikes} {sc : Scene σ ρ}
    (h : w.course between start n = (.sleeping strikes, sc)) : InStep w between start n strikes sc := by
  cases course_stage w between hidle n with
  | asleep strikes' sc' at_n inStep =>
    obtain ⟨hstrikes, rfl⟩ := Prod.mk.inj (at_n.symm.trans h)
    obtain rfl := Progress.sleeping.inj hstrikes
    exact inStep
  | stopped m strikes' sc' before at_m inStep requested at_n => cases at_n.symm.trans h
  | breached m strikes' sc' b before at_m inStep unrequested breach at_n => cases at_n.symm.trans h

/-- A run that sleeps slept before its last wake-up too, which found no stop and whose tick had no breach. -/
theorem asleep_of_asleep_succ {n : Nat} {strikes' : Strikes} {sc' : Scene σ ρ}
    (h : w.course between start (n + 1) = (.sleeping strikes', sc')) :
    ∃ strikes sc, w.course between start n = (.sleeping strikes, sc) ∧ ((between n).act sc).control.stopRequested = false ∧
      (w.evaluateAll strikes ((between n).act sc)).breach = none ∧ sc' = (w.evaluateAll strikes ((between n).act sc)).scene := by
  cases hc : w.course between start n with
  | mk progress sc =>
    rw [course, hc] at h
    cases progress with
    | ended outcome => simp [resume] at h
    | sleeping strikes =>
      rw [resume] at h
      cases hreq : ((between n).act sc).control.stopRequested with
      | true => simp [wake_of_stopRequested hreq, finish] at h
      | false =>
        cases hb : (w.evaluateAll strikes ((between n).act sc)).breach with
        | some b =>
          rw [breach_evaluateAll] at hb
          simp [wake_of_breach hreq hb, finish] at h
        | none =>
          have hquiet := hb
          rw [breach_evaluateAll] at hquiet
          rw [wake_of_quiet hreq hquiet, Prod.mk.injEq] at h
          exact ⟨strikes, sc, rfl, hreq, hb, h.2.symm⟩

end Watchdog

/-! ## A watchdog to try the statements on -/

/-- A monitor that at each moment says what a script says, and asks for a stop when another says so. -/
def Monitor.scripted (name : String) (violated stops : Nat → Bool) : Monitor Nat where
  name
  check moment := { ending := .returned (.ok ⟨violated moment, []⟩), state := moment, stops := stops moment }

/-- Between two wake-ups a moment passes. -/
def Interlude.moment : Interlude Nat where
  change moment := moment + 1

/-- Two monitors: one violates its limit at each moment and is allowed one strike, one does at the second moment and is allowed none.
The second may ask for a stop. -/
def Watchdog.pair (stops : Nat → Bool) : Watchdog Nat Unit where
  handler := .null
  interval := .ofSeconds 1
  monitors := [(Monitor.scripted "steady" (fun _ => true) fun _ => false).entry 1, (Monitor.scripted "late" (· == 2) stops).entry 0]
  writeHeapDumps := true
  reporter := .logging 1 none
  interval_ne_zero := by decide
  names_nodup := by simp [Stack.names, Monitor.entry, Monitor.scripted]

/-- Before the first moment. -/
def Scene.beginning : Scene Nat Unit where
  surroundings := 0
  reporter := ()

end MemoryWatchdog
