import Mathlib.Data.List.Forall2
import MemoryWatchdog.Proofs.WebWorker

/-!
# The baseline of a limit on growth

The baseline is sampled once, before the first call, and no call changes it. Without one each call fails, so a run evaluates the
monitor in each tick, reports the failure and does nothing else about it (`only_fails`). With one each call takes one reading, and what
it says follows from the baseline, the limit and that reading (`judged_growthLimit`). Both hold whatever the process does between two
calls (`baseline_fixed_at_start`).
-/

namespace MemoryWatchdog

variable {σ ρ : Type}

/-! ## What is done about one monitor -/

/-- The monitor that an event is about. -/
def Event.monitor? : Event → Option String
  | .started .. => none
  | .monitorOk monitor _ => some monitor
  | .monitorError monitor _ => some monitor
  | .strikeRecorded monitor .. => some monitor
  | .thresholdExceeded monitor .. => some monitor
  | .heapDumpRequested monitor => some monitor
  | .handlerInvoked monitor _ => some monitor
  | .handlerFailed monitor .. => some monitor
  | .stopped _ => none

/-- The monitor that an act is about. -/
def Act.monitor? : Act → Option String
  | .evaluated monitor _ => some monitor
  | .reported event => event.monitor?
  | .dumpRequested monitor => some monitor
  | .handlerCalled monitor => some monitor

/-- The acts about one monitor. -/
def actsAbout (name : String) (acts : List Act) : List Act :=
  acts.filter fun act => act.monitor? = some name

theorem actsAbout_append (name : String) (acts more : List Act) :
    actsAbout name (acts ++ more) = actsAbout name acts ++ actsAbout name more :=
  List.filter_append ..

theorem actsAbout_eq_nil {name : String} {acts : List Act} (h : ∀ act ∈ acts, act.monitor? ≠ some name) :
    actsAbout name acts = [] := by
  simpa [actsAbout, List.filter_eq_nil_iff] using h

/-- What is done about a sighting is about its entry. -/
theorem Sighting.monitor?_of_mem_acts {x : Sighting σ} {act : Act} (h : act ∈ x.acts) : act.monitor? = some x.entry.name := by
  obtain ⟨e, finding, n⟩ := x
  simp only [acts, List.mem_cons, List.not_mem_nil, or_false] at h
  rcases h with rfl | rfl
  · rfl
  · cases finding with
    | error text => rfl
    | ok v => cases hv : v.violated <;> simp [Act.monitor?, Event.monitor?, event, hv]

/-- All that is done about a sighting is about its entry's name. -/
theorem Sighting.actsAbout_acts (x : Sighting σ) : actsAbout x.entry.name x.acts = x.acts := by
  rw [actsAbout, List.filter_eq_self]
  intro act hact
  simp [monitor?_of_mem_acts hact]

/-- None of it is about another name. -/
theorem Sighting.actsAbout_acts_of_ne {x : Sighting σ} {name : String} (h : name ≠ x.entry.name) : actsAbout name x.acts = [] := by
  refine actsAbout_eq_nil fun act hact => ?_
  rw [monitor?_of_mem_acts hact]
  simpa using h.symm

/-- A tick does nothing about a name that is not in the stack. -/
theorem Stack.actsAbout_sightings_of_not_mem {name : String} {stack : Stack σ} (h : name ∉ stack.names) (strikes : Strikes)
    (s : σ) :
    actsAbout name ((stack.sightings strikes s).flatMap Sighting.acts) = [] := by
  induction stack generalizing s with
  | nil => rfl
  | cons e rest ih =>
    rw [names, List.map_cons, List.mem_cons, not_or] at h
    rw [sightings_cons, List.flatMap_cons, actsAbout_append, ih h.2, Sighting.actsAbout_acts_of_ne h.1, List.nil_append]

/-- Of a tick, what is about an entry is its own sighting, in the surroundings that it was called in. -/
theorem Stack.exists_sight {stack : Stack σ} (hnodup : stack.names.Nodup) {e : Monitor.Entry σ} (he : e ∈ stack)
    (strikes : Strikes) (s : σ) :
    ∃ called, e.sight strikes called ∈ stack.sightings strikes s ∧
      actsAbout e.name ((stack.sightings strikes s).flatMap Sighting.acts) = (e.sight strikes called).acts := by
  induction stack generalizing s with
  | nil => cases he
  | cons first rest ih =>
    rw [names, List.map_cons] at hnodup
    obtain ⟨hfirst, hrest⟩ := List.nodup_cons.mp hnodup
    rw [sightings_cons, List.flatMap_cons, actsAbout_append]
    rcases List.mem_cons.mp he with rfl | hmem
    · refine ⟨s, List.mem_cons_self, ?_⟩
      rw [actsAbout_sightings_of_not_mem hfirst, List.append_nil]
      exact Sighting.actsAbout_acts (e.sight strikes s)
    · have hne : e.name ≠ first.name := by
        intro h
        rw [← h] at hfirst
        exact hfirst (List.mem_map_of_mem hmem)
      obtain ⟨called, hcalled, habout⟩ := ih hrest hmem (first.monitor.check s).state
      exact ⟨called, List.mem_cons_of_mem _ hcalled, by rw [habout, Sighting.actsAbout_acts_of_ne hne, List.nil_append]⟩

namespace Configuration

/-- The event after a call to the handler is about the monitor of the breach. -/
theorem monitor?_handlerEvent (c : Configuration σ ρ) (b : Breach) (ending : Ending (Except HandlerError Unit)) :
    (c.handlerEvent b ending).monitor? = some b.monitor := by
  unfold handlerEvent
  split <;> rfl

/-- An escalation is about the monitor of the breach. -/
theorem monitor?_of_mem_escalation {c : Configuration σ ρ} {b : Breach} {event : Event} (hevent : event.monitor? = some b.monitor)
    {act : Act} (h : act ∈ c.escalation b event) : act.monitor? = some b.monitor := by
  unfold escalation at h
  cases hdumps : c.writeHeapDumps with
  | false =>
    simp only [hdumps, Bool.false_eq_true, if_false, List.nil_append, List.mem_cons, List.not_mem_nil, or_false] at h
    rcases h with rfl | rfl | rfl
    · rfl
    · rfl
    · exact hevent
  | true =>
    simp only [hdumps, if_true, List.cons_append, List.nil_append, List.mem_cons, List.not_mem_nil, or_false] at h
    rcases h with rfl | rfl | rfl | rfl | rfl
    · rfl
    · rfl
    · rfl
    · rfl
    · exact hevent

/-- An escalation does nothing about any other monitor. -/
theorem actsAbout_escalation_of_ne {c : Configuration σ ρ} {b : Breach} {name : String} (h : b.monitor ≠ name)
    (ending : Ending (Except HandlerError Unit)) : actsAbout name (c.escalation b (c.handlerEvent b ending)) = [] := by
  refine actsAbout_eq_nil fun act hact => ?_
  rw [monitor?_of_mem_escalation (c.monitor?_handlerEvent b ending) hact]
  simpa using h

end Configuration

/-! ## A monitor that always fails -/

namespace Watchdog

/-- A run ticks when it wakes up after a number of wake-ups: it sleeps, and no stop is requested. -/
def ticksAt (w : Watchdog σ ρ) (between : Nat → Interlude σ) (start : Scene σ ρ) (n : Nat) : Bool :=
  match w.course between start n with
  | (.sleeping _, sc) => !((between n).act sc).control.stopRequested
  | (.ended _, _) => false

/-- The ticks of a run among a number of wake-ups. -/
def ticks (w : Watchdog σ ρ) (between : Nat → Interlude σ) (start : Scene σ ρ) (n : Nat) : Nat :=
  (List.range n).countP (w.ticksAt between start)

/-- What a tick does about a monitor that fails. -/
def failing (name text : String) : List Act :=
  [.evaluated name (.error text), .reported (.monitorError name text)]

/-- A stretch of a run with a number of ticks in which a monitor failed with the same text in each: nothing else was done about it, it
has no strikes, and it is not what ended the run. -/
structure OnlyFails (name text : String) (ticks : Nat) (before : Scene σ ρ) (after : Progress × Scene σ ρ) : Prop where
  did : ∃ acts, after.2.history = before.history ++ acts ∧ actsAbout name acts = (List.replicate ticks (failing name text)).flatten
  strikes : ∀ strikes, after.1 = .sleeping strikes → strikes.count name = 0
  outcome : after.1 ≠ .ended (.handlerInvoked name)

variable {w : Watchdog σ ρ} {between : Nat → Interlude σ} {start : Scene σ ρ} {e : Monitor.Entry σ} {text : String}

theorem ticks_succ (w : Watchdog σ ρ) (between : Nat → Interlude σ) (start : Scene σ ρ) (n : Nat) :
    w.ticks between start (n + 1) = w.ticks between start n + if w.ticksAt between start n then 1 else 0 := by
  rw [ticks, List.range_succ, List.countP_append, List.countP_singleton]
  rfl

/-- A run that sleeps ticks when it next wakes up, unless a stop is requested by then. -/
theorem ticksAt_of_asleep {n : Nat} {strikes : Strikes} {sc : Scene σ ρ} (h : w.course between start n = (.sleeping strikes, sc)) :
    w.ticksAt between start n = !((between n).act sc).control.stopRequested := by
  rw [ticksAt, h]

/-- An entry whose monitor fails is sighted with the failure and without strikes. -/
theorem sight_of_fails (hfails : ∀ s, e.find s = .error text) (strikes : Strikes) (s : σ) :
    e.sight strikes s = ⟨e, .error text, 0⟩ := by
  rw [Monitor.Entry.sight, hfails]
  rfl

/-- What a tick does about a monitor that fails is to evaluate it and to report the failure, and the monitor has no strikes then. -/
theorem sighting_of_fails (he : e ∈ w.monitors) (hfails : ∀ s, e.find s = .error text) (strikes : Strikes) (s : σ) :
    ⟨e, .error text, 0⟩ ∈ w.monitors.sightings strikes s ∧
      actsAbout e.name ((w.monitors.sightings strikes s).flatMap Sighting.acts) = failing e.name text := by
  obtain ⟨called, hmem, habout⟩ := Stack.exists_sight w.names_nodup he strikes s
  rw [sight_of_fails hfails] at hmem habout
  exact ⟨hmem, habout⟩

/-- A breach is not that of a monitor that fails. -/
theorem breach_ne_of_fails (he : e ∈ w.monitors) (hfails : ∀ s, e.find s = .error text) {strikes : Strikes} {s : σ} {b : Breach}
    (h : (w.monitors.sightings strikes s).findSome? Sighting.breach? = some b) : b.monitor ≠ e.name := by
  intro hname
  obtain ⟨x, hmem, hx⟩ := List.exists_of_findSome?_eq_some h
  obtain ⟨-, -, -, hevent⟩ := Sighting.breach?_eq_some_iff.mp hx
  have hreported : Act.reported (.strikeRecorded b.monitor b.strikes b.maxStrikes b.payload) ∈
      actsAbout e.name ((w.monitors.sightings strikes s).flatMap Sighting.acts) := by
    rw [actsAbout, List.mem_filter]
    exact ⟨mem_flatMap_acts_iff.mpr ⟨x, hmem, hevent⟩, by simp [Act.monitor?, Event.monitor?, hname]⟩
  rw [(sighting_of_fails he hfails strikes s).2] at hreported
  simp [failing] at hreported

/-- A wake-up that finds no stop makes one tick. -/
theorem onlyFails_wake (he : e ∈ w.monitors) (hfails : ∀ s, e.find s = .error text) (strikes : Strikes) {sc : Scene σ ρ}
    (hreq : sc.control.stopRequested = false) : OnlyFails e.name text 1 sc (w.wake strikes sc) := by
  obtain ⟨hmem, habout⟩ := sighting_of_fails he hfails strikes sc.surroundings
  have hv := visited_evaluateAll w strikes sc
  cases hb : (w.monitors.sightings strikes sc.surroundings).findSome? Sighting.breach? with
  | none =>
    rw [wake_of_quiet hreq hb]
    refine ⟨⟨_, hv.did.history, by simpa using habout⟩, ?_, by simp⟩
    rintro after ⟨⟩
    exact hv.count_of_mem _ hmem
  | some b =>
    have hne := breach_ne_of_fails he hfails hb
    rw [wake_of_breach hreq hb]
    have hescalate := Configuration.did_escalate w.toConfiguration b (w.evaluateAll strikes sc).scene
    have hdid := (hv.did.trans hescalate).trans (did_finish w (.handlerInvoked b.monitor) _)
    refine ⟨⟨_, hdid.history, ?_⟩, ?_, ?_⟩
    · have hend : actsAbout e.name [.reported (.stopped (Outcome.handlerInvoked b.monitor).reason)] = [] :=
        actsAbout_eq_nil (by simp [Act.monitor?, Event.monitor?])
      rw [actsAbout_append, actsAbout_append, habout, Configuration.actsAbout_escalation_of_ne hne, hend]
      simp
    · rintro after ⟨⟩
    · rw [finish]
      simpa using hne

/-- Two such stretches, one after the other, are such a stretch with the ticks of both. -/
theorem OnlyFails.trans {name : String} {n m : Nat} {sc₁ sc₂ : Scene σ ρ} {strikes : Strikes} {after : Progress × Scene σ ρ}
    (h : OnlyFails name text n sc₁ (.sleeping strikes, sc₂)) (h' : OnlyFails name text m sc₂ after) :
    OnlyFails name text (n + m) sc₁ after := by
  obtain ⟨acts, hhistory, habout⟩ := h.did
  obtain ⟨more, hhistory', habout'⟩ := h'.did
  refine ⟨⟨acts ++ more, ?_, ?_⟩, h'.strikes, h'.outcome⟩
  · rw [hhistory', hhistory, List.append_assoc]
  · rw [actsAbout_append, habout, habout', List.replicate_add, List.flatten_append]

/-- Nothing is done about a monitor where there is no tick. -/
theorem onlyFails_zero {name : String} {before : Scene σ ρ} {after : Progress × Scene σ ρ} {acts : List Act}
    (hhistory : after.2.history = before.history ++ acts) (habout : ∀ act ∈ acts, act.monitor? ≠ some name)
    (hstrikes : ∀ strikes, after.1 = .sleeping strikes → strikes.count name = 0)
    (houtcome : after.1 ≠ .ended (.handlerInvoked name)) : OnlyFails name text 0 before after :=
  ⟨⟨acts, hhistory, actsAbout_eq_nil habout⟩, hstrikes, houtcome⟩

/-- A start makes no tick. -/
theorem onlyFails_start (w : Watchdog σ ρ) (name text : String) (sc : Scene σ ρ) : OnlyFails name text 0 sc (w.start sc) := by
  unfold Watchdog.start
  cases hstart : sc.control.start? with
  | none => exact onlyFails_zero (List.append_nil _).symm (by simp) (by rintro _ ⟨⟩) (by simp)
  | some control =>
    refine onlyFails_zero (Scene.history_emit _ _ _) (by simp [Act.monitor?, Event.monitor?, startedEvent]) ?_ (by simp)
    rintro strikes ⟨⟩
    rfl

theorem onlyFails_finish (w : Watchdog σ ρ) (name text : String) (sc : Scene σ ρ) :
    OnlyFails name text 0 sc (w.finish .stopped sc) :=
  onlyFails_zero (did_finish w .stopped sc).history (by simp [Act.monitor?, Event.monitor?]) (by rintro _ ⟨⟩) (by simp [finish])

/-- All that a run does about a monitor that always fails is to evaluate it and to report the failure, once in each tick. -/
theorem only_fails (he : e ∈ w.monitors) (hfails : ∀ s, e.find s = .error text) (between : Nat → Interlude σ)
    (start : Scene σ ρ) (n : Nat) : OnlyFails e.name text (w.ticks between start n) start (w.course between start n) := by
  induction n with
  | zero => exact onlyFails_start w e.name text start
  | succ n ih =>
    rw [ticks_succ, course]
    cases at_n : w.course between start n with
    | mk progress sc =>
      rw [at_n] at ih
      cases progress with
      | ended outcome =>
        rw [ticksAt, at_n]
        exact ih
      | sleeping strikes =>
        have hact : OnlyFails e.name text (w.ticks between start n) start (.sleeping strikes, (between n).act sc) :=
          ⟨ih.did, ih.strikes, ih.outcome⟩
        rw [ticksAt_of_asleep at_n, resume]
        cases hreq : ((between n).act sc).control.stopRequested with
        | true =>
          rw [wake_of_stopRequested hreq]
          exact hact.trans (onlyFails_finish w e.name text _)
        | false => exact hact.trans (onlyFails_wake he hfails strikes hreq)

end Watchdog

/-! ## Calls one after the other -/

/-- The replies of a monitor to calls one after the other, before each of which the surroundings change. -/
def Monitor.replies (m : Monitor σ) : List (σ → σ) → σ → List (Reply σ (Except MonitorError Verdict))
  | [], _ => []
  | change :: later, s =>
    let reply := m.check (change s)
    reply :: m.replies later reply.state

/-- The readings of the unique memory one after the other, before each of which the surroundings change. -/
def Probe.uniqueReadings (probe : Probe σ) : List (σ → σ) → σ → List (Reading UInt64 × σ)
  | [], _ => []
  | change :: later, s =>
    let sample := probe.unique (change s)
    sample :: probe.uniqueReadings later sample.2

namespace Monitor

/-- A call took a reading and nothing else: it failed exactly if the reading did, and otherwise judged it over the reference. -/
structure Judged (limit : Binary64) (reference : UInt64) (sample : Reading UInt64 × σ)
    (reply : Reply σ (Except MonitorError Verdict)) : Prop where
  state : reply.state = sample.2
  failed_iff : ∀ e, reply.ending = .returned (.error e) ↔ ∃ cause, sample.1 = .returned (.error cause) ∧ e = .measurement cause
  verdict_iff : ∀ v, reply.ending = .returned (.ok v) ↔ ∃ n, sample.1 = .returned (.ok n) ∧ v = judgeGrowth limit reference n

/-- What a limit on growth makes of a reading is to judge it, or to fail if the reading did. -/
theorem judged_judging (limit : Binary64) (reference : UInt64) (sample : Reading UInt64 × σ) :
    Judged limit reference sample (judging sample (judgeGrowth limit reference)) := by
  obtain ⟨reading, s⟩ := sample
  refine ⟨rfl, fun e => ?_, fun v => ?_⟩
  · rcases reading with (cause | n) | p <;> simp [judging, eq_comm]
  · rcases reading with (cause | n) | p <;> simp [judging, eq_comm]

/-- With a baseline, each call takes one reading and judges it. -/
theorem judged_growthLimit (probe : Probe σ) (limit : Binary64) (reference : UInt64) (changes : List (σ → σ)) (s : σ) :
    List.Forall₂ (Judged limit reference) (probe.uniqueReadings changes s)
      ((growthLimit probe limit (some reference)).replies changes s) := by
  induction changes generalizing s with
  | nil => exact .nil
  | cons change later ih => exact .cons (judged_judging limit reference _) (ih _)

/-- Why a limit on growth without a baseline fails. -/
def missingReference : MonitorError :=
  .missingBaseline "reference USS was not captured"

/-- Without a baseline, each call fails. -/
theorem missing_growthLimit (probe : Probe σ) (limit : Binary64) (changes : List (σ → σ)) (s : σ) :
    ∀ reply ∈ (growthLimit probe limit none).replies changes s, reply.ending = .returned (.error missingReference) := by
  induction changes generalizing s with
  | nil => simp [replies]
  | cons change later ih =>
    rw [replies, List.forall_mem_cons]
    exact ⟨rfl, ih _⟩

/-- Such a limit finds the missing baseline, wherever it is called. -/
theorem find_of_missing {probe : Probe σ} {limit : Binary64} {e : Entry σ} (h : e.monitor = growthLimit probe limit none) (s : σ) :
    e.find s = .error missingReference.message := by
  rw [Entry.find, h]
  rfl

/-- The baseline of a limit on growth is the reading that is taken when the limit is made, if it is a number above zero. If it is none,
each call fails, whatever is read later, and a run reports the failure in each tick and does nothing else about the monitor. If it is
one, each call judges a reading of its own over it. -/
theorem baseline_fixed_at_start (probe : Probe σ) (hreturns : ∀ s p, (probe.unique s).1 ≠ .panicked p) (limit : Binary64)
    (s₀ : σ) :
    ∃ baseline, (sampleBaseline probe s₀).ending = .returned baseline ∧
      ((∃ e, (probe.unique s₀).1 = .returned (.error e)) ∨ (probe.unique s₀).1 = .returned (.ok 0) →
        (∀ changes s, ∀ reply ∈ (growthLimit probe limit baseline).replies changes s,
          reply.ending = .returned (.error missingReference)) ∧
        ∀ (ρ : Type) (w : Watchdog σ ρ), ∀ e ∈ w.monitors, e.monitor = growthLimit probe limit baseline →
          ∀ between start n, Watchdog.OnlyFails e.name missingReference.message (w.ticks between start n) start
            (w.course between start n)) ∧
      ∀ reference, (probe.unique s₀).1 = .returned (.ok reference) → reference ≠ 0 →
        baseline = some reference ∧ ∀ changes s, List.Forall₂ (Judged limit reference) (probe.uniqueReadings changes s)
          ((growthLimit probe limit baseline).replies changes s) := by
  refine ⟨_, ending_sampleBaseline (hreturns s₀), fun hnone => ?_, fun reference hread hne => ?_⟩
  · have hmissing : (probe.unique s₀).1.baseline? = none := by
      rcases hnone with ⟨e, hread⟩ | hread
      · rw [hread]
        rfl
      · rw [hread]
        rfl
    rw [hmissing]
    refine ⟨missing_growthLimit probe limit, fun ρ w e he hmonitor between start n => ?_⟩
    exact Watchdog.only_fails he (find_of_missing hmonitor) between start n
  · have hbaseline : (probe.unique s₀).1.baseline? = some reference := by
      rw [hread]
      exact if_neg hne
    rw [hbaseline]
    exact ⟨rfl, judged_growthLimit probe limit reference⟩

/-- A process whose first measurements fail. -/
def lateProbe : Probe Nat where
  resident s := (.returned (.error (.unsupported "resident memory")), s)
  unique s := (if s = 0 then .returned (.error (.unsupported "unique memory")) else .returned (.ok 4096), s)
  heap s := (.returned (.error (.unsupported "heap statistics")), s)

/-- A watchdog that was made before the first measurement that succeeds. -/
def unbased : Watchdog Nat Unit :=
  { Watchdog.pair fun _ => false with
    monitors := [(growthLimit lateProbe (.ofNat 3) none).entry 0]
    names_nodup := by simp [Stack.names] }

/-- It measures in vain: the memory that can be measured at each wake-up is no baseline any more. -/
theorem unbased_only_fails :
    (∀ s p, (lateProbe.unique s).1 ≠ .panicked p) ∧ (lateProbe.unique 1).1 = .returned (.ok 4096) ∧
      Watchdog.OnlyFails "unique_memory_growth" missingReference.message 2 Scene.beginning
        (unbased.course (fun _ => .moment) .beginning 2) := by
  have hreturns : ∀ s p, (lateProbe.unique s).1 ≠ .panicked p := by
    intro s p
    by_cases h : s = 0 <;> simp [lateProbe, h]
  refine ⟨hreturns, rfl, ?_⟩
  obtain ⟨baseline, hsampled, hmissing, -⟩ := baseline_fixed_at_start lateProbe hreturns (.ofNat 3) 0
  obtain rfl : none = baseline := Ending.returned.inj hsampled
  exact (hmissing (.inl ⟨_, rfl⟩)).2 Unit unbased _ (List.mem_singleton.mpr rfl) rfl (fun _ => .moment) .beginning 2

end Monitor

end MemoryWatchdog
