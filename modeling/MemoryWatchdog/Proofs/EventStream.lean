import MemoryWatchdog.Proofs.Course

/-!
# What a run tells

A `Chronicle` is the form that the acts of every run have, whatever the monitors, the handler and the reporter do and whenever a stop
is requested: the start; a round for each tick, in which each monitor of the stack is called and one event about it is reported, in the
order of the stack; after a breach, which needs a complete last round, the escalation of a strike of that round; and the end with its
reason. A run does the acts of a chronicle, and the reporter receives the events among them (`chronicle_of_course`).
-/

namespace MemoryWatchdog

variable {σ ρ : Type}

/-- The event that is reported of what the monitor of an entry found. -/
inductive Monitor.Entry.Tells (e : Monitor.Entry σ) : Finding → Event → Prop
  | ok {v : Verdict} (within : v.violated = false) : Tells e (.ok v) (.monitorOk e.name v.payload)
  | strike {v : Verdict} (strikes : UInt32) (violated : v.violated = true) :
      Tells e (.ok v) (.strikeRecorded e.name strikes e.maxStrikes v.payload)
  | error (text : String) : Tells e (.error text) (.monitorError e.name text)

/-- The acts of a round: each monitor of the stack is called once and told of once, in the order of the stack. -/
inductive Stack.Round : Stack σ → List Act → Prop
  | nil : Round [] []
  | cons {e : Monitor.Entry σ} {rest : Stack σ} {acts : List Act} (finding : Finding) (event : Event)
      (tells : e.Tells finding event) (round : Round rest acts) :
      Round (e :: rest) (.evaluated e.name finding :: .reported event :: acts)

/-- The acts of a number of rounds. -/
inductive Stack.Rounds (stack : Stack σ) : Nat → List Act → Prop
  | zero : Rounds stack 0 []
  | succ {n : Nat} {acts last : List Act} (rounds : Rounds stack n acts) (round : stack.Round last) :
      Rounds stack (n + 1) (acts ++ last)

/-- The event that is reported of a call to the handler about a monitor. -/
inductive Handler.Answers (h : Handler σ) (monitor : String) : Event → Prop
  | invoked : Answers h monitor (.handlerInvoked monitor h.name)
  | failed (text : String) : Answers h monitor (.handlerFailed monitor h.name text)

/-- The acts of a run after a number of ticks that sleeps, was stopped, or ended with a breach in its last tick. The first of them is
the report of the start, with the names of the stack in its order. -/
inductive Watchdog.Chronicle (w : Watchdog σ ρ) : Nat → Option Outcome → List Act → Prop
  | asleep {n : Nat} {acts : List Act} (rounds : w.monitors.Rounds n acts) :
      Chronicle w n none
        (.reported (.started (w.monitors.map (·.name)) w.handler.name w.interval.inSeconds w.writeHeapDumps) :: acts)
  | stopped {n : Nat} {acts : List Act} (rounds : w.monitors.Rounds n acts) :
      Chronicle w n (some .stopped)
        (.reported (.started (w.monitors.map (·.name)) w.handler.name w.interval.inSeconds w.writeHeapDumps) ::
          (acts ++ [.reported (.stopped "stop requested")]))
  | breached {n : Nat} {acts last : List Act} (b : Breach) (event : Event) (rounds : w.monitors.Rounds n acts)
      (round : w.monitors.Round last)
      (strike : .reported (.strikeRecorded b.monitor b.strikes b.maxStrikes b.payload) ∈ last)
      (answers : w.handler.Answers b.monitor event) :
      Chronicle w (n + 1) (some (.handlerInvoked b.monitor))
        (.reported (.started (w.monitors.map (·.name)) w.handler.name w.interval.inSeconds w.writeHeapDumps) ::
          (acts ++ last ++ w.escalation b event ++ [.reported (.stopped ("handler invoked by " ++ b.monitor))]))

/-! ## Rounds -/

/-- What is reported of a sighting tells of it. -/
theorem Sighting.tells (x : Sighting σ) : x.entry.Tells x.finding x.event := by
  obtain ⟨e, finding, n⟩ := x
  cases finding with
  | error text => exact .error text
  | ok v =>
    cases hv : v.violated with
    | true =>
      simp only [event, hv, if_true]
      exact .strike n hv
    | false =>
      simp only [event, hv, Bool.false_eq_true, if_false]
      exact .ok hv

/-- The acts of sightings are a round of their entries. -/
theorem round_flatMap_acts (sightings : List (Sighting σ)) :
    Stack.Round (sightings.map Sighting.entry) (sightings.flatMap Sighting.acts) := by
  induction sightings with
  | nil => exact .nil
  | cons x rest ih => exact .cons x.finding x.event x.tells ih

namespace Watchdog

variable {w : Watchdog σ ρ} {between : Nat → Interlude σ} {start : Scene σ ρ}

/-- The acts of a tick are one round of the stack, in its order. -/
theorem round_sightingsAt (w : Watchdog σ ρ) (between : Nat → Interlude σ) (s : σ) (n : Nat) :
    w.monitors.Round ((w.sightingsAt between s n).flatMap Sighting.acts) := by
  have hround := round_flatMap_acts (w.sightingsAt between s n)
  rwa [map_entry_sightingsAt] at hround

/-- The acts of a number of ticks are as many rounds. -/
theorem rounds_acts (w : Watchdog σ ρ) (between : Nat → Interlude σ) (s : σ) (n : Nat) :
    w.monitors.Rounds n (w.acts between s n) := by
  induction n with
  | zero => exact .zero
  | succ n ih =>
    rw [acts_succ]
    exact .succ ih (round_sightingsAt w between s n)

/-- The breach of a tick is one of its strikes. -/
theorem strikeRecorded_mem_of_breach {s : σ} {n : Nat} {b : Breach}
    (h : (w.sightingsAt between s n).findSome? Sighting.breach? = some b) :
    Act.reported (.strikeRecorded b.monitor b.strikes b.maxStrikes b.payload) ∈
      (w.sightingsAt between s n).flatMap Sighting.acts := by
  obtain ⟨x, hmem, hx⟩ := List.exists_of_findSome?_eq_some h
  obtain ⟨-, -, -, hevent⟩ := Sighting.breach?_eq_some_iff.mp hx
  exact mem_flatMap_acts_iff.mpr ⟨x, hmem, hevent⟩

/-! ## Escalations -/

/-- However the handler ends, one event answers for it. -/
theorem answers_handlerEvent (c : Configuration σ ρ) (b : Breach) (ending : Ending (Except HandlerError Unit)) :
    c.handler.Answers b.monitor (c.handlerEvent b ending) := by
  unfold Configuration.handlerEvent
  split
  · exact .invoked
  · next text _ => exact .failed text

/-- Unless the configuration says so, no wake-up touches the requests for heap reports. -/
theorem dumps_wake (h : w.writeHeapDumps = false) (strikes : Strikes) (sc : Scene σ ρ) : (w.wake strikes sc).2.dumps = sc.dumps := by
  have hv := visited_evaluateAll w strikes sc
  cases hreq : sc.control.stopRequested with
  | true => rw [wake_of_stopRequested hreq]; rfl
  | false =>
    cases hb : (w.monitors.sightings strikes sc.surroundings).findSome? Sighting.breach? with
    | none =>
      rw [wake_of_quiet hreq hb]
      exact hv.dumps
    | some b =>
      have hbefore : w.beforeHandler b (w.evaluateAll strikes sc).scene =
          (w.evaluateAll strikes sc).scene.emit w.reporter (.thresholdExceeded b.monitor b.strikes b.maxStrikes b.payload) := by
        simp [Configuration.beforeHandler, Configuration.requestDump, h]
      rw [wake_of_breach hreq hb, Configuration.escalate_eq, hbefore]
      exact hv.dumps

/-! ## The chronicle of a run -/

/-- After any number of wake-ups a run that was started has done the acts of a chronicle. As long as it sleeps it ticked with each
wake-up. -/
theorem exists_chronicle (w : Watchdog σ ρ) (between : Nat → Interlude σ) (hidle : start.control.state = .idle) (n : Nat) :
    ∃ ticks acts, Scene.Did w.reporter acts start (w.course between start n).2 ∧
      w.Chronicle ticks (w.course between start n).1.outcome? acts ∧
      ticks ≤ n ∧ ((w.course between start n).1.outcome? = none → ticks = n) := by
  cases course_stage w between hidle n with
  | asleep strikes sc at_n inStep =>
    rw [at_n]
    exact ⟨n, _, inStep.did, .asleep (rounds_acts w between _ n), Nat.le_refl n, fun _ => rfl⟩
  | stopped m strikes sc before at_m inStep requested at_n =>
    rw [at_n]
    exact ⟨m, _, inStep.did_stopped, .stopped (rounds_acts w between _ m), Nat.le_of_lt before, fun h => nomatch h⟩
  | breached m strikes sc b before at_m inStep unrequested breach at_n =>
    have hdid := inStep.did_breached b
    rw [acts_succ] at hdid
    have hanswers : w.handler.Answers b.monitor (w.handlerEventAt between start.surroundings m b) :=
      answers_handlerEvent w.toConfiguration b _
    have hchronicle := Chronicle.breached b _ (rounds_acts w between start.surroundings m)
      (round_sightingsAt w between start.surroundings m) (strikeRecorded_mem_of_breach breach) hanswers
    rw [at_n]
    exact ⟨m + 1, _, hdid, hchronicle, before, fun h => nomatch h⟩

/-- The last steps of a run with a breach are to call the handler and to finish. When the handler is called, a heap report is already
requested if the configuration says so. -/
theorem exists_called (hidle : start.control.state = .idle) {n : Nat} {monitor : String}
    (h : (w.course between start n).1.outcome? = some (.handlerInvoked monitor)) :
    ∃ b called acts, b.monitor = monitor ∧ Scene.Did w.reporter acts start called ∧
      (w.writeHeapDumps = true → called.dumps.pending = true) ∧
      w.course between start n = w.finish (.handlerInvoked monitor) (w.callHandler b called) := by
  cases course_stage w between hidle n with
  | asleep strikes sc at_n inStep =>
    rw [at_n] at h
    cases h
  | stopped m strikes sc before at_m inStep requested at_n =>
    rw [at_n] at h
    cases h
  | breached m strikes sc b before at_m inStep unrequested breach at_n =>
    rw [at_n, outcome?_finish] at h
    obtain rfl : b.monitor = monitor := by simpa using h
    have hdid := inStep.evaluateAll.did.trans
      (Configuration.did_beforeHandler w.toConfiguration b (w.evaluateAll strikes ((between m).act sc)).scene)
    refine ⟨b, _, _, rfl, hdid, fun hwrite => ?_, by rw [at_n, Configuration.escalate_eq]⟩
    rw [Configuration.pending_beforeHandler, hwrite, Bool.true_or]

/-- What a run tells, whatever the monitors, the handler and the reporter do and whenever a stop is requested. After any number of
wake-ups it has done the acts of a chronicle, and the reporter received exactly the events among them; as long as it sleeps it ticked
with each wake-up. If it ended with a breach, its last steps were to call the handler, when a heap report was already requested if the
configuration says so, and to finish. If the configuration does not say so, no step of a run touches the requests. -/
theorem chronicle_of_course (w : Watchdog σ ρ) (between : Nat → Interlude σ) (start : Scene σ ρ)
    (hidle : start.control.state = .idle) (n : Nat) :
    (∃ ticks acts, Scene.Did w.reporter acts start (w.course between start n).2 ∧
      w.Chronicle ticks (w.course between start n).1.outcome? acts ∧
      ticks ≤ n ∧ ((w.course between start n).1.outcome? = none → ticks = n)) ∧
    (∀ monitor, (w.course between start n).1.outcome? = some (.handlerInvoked monitor) →
      ∃ b called acts, b.monitor = monitor ∧ Scene.Did w.reporter acts start called ∧
        (w.writeHeapDumps = true → called.dumps.pending = true) ∧
        w.course between start n = w.finish (.handlerInvoked monitor) (w.callHandler b called)) ∧
    (w.writeHeapDumps = false →
      (w.start start).2.dumps = start.dumps ∧ ∀ strikes sc, (w.wake strikes sc).2.dumps = sc.dumps) := by
  refine ⟨exists_chronicle w between hidle n, fun monitor h => exists_called hidle h, fun hwrite => ⟨?_, dumps_wake hwrite⟩⟩
  rw [start_of_idle hidle, Scene.dumps_emit]

/-- The run of the pair has a breach in its second tick: its chronicle has an escalation, and its heap report was requested before the
handler was called. -/
theorem pair_chronicle :
    (∃ ticks acts, Scene.Did (pair fun _ => false).reporter acts .beginning
        ((pair fun _ => false).course (fun _ => .moment) .beginning 2).2 ∧
      (pair fun _ => false).Chronicle ticks (some (.handlerInvoked "steady")) acts) ∧
    ∃ b called, b.monitor = "steady" ∧ called.dumps.pending = true ∧
      (pair fun _ => false).course (fun _ => .moment) .beginning 2 =
        (pair fun _ => false).finish (.handlerInvoked "steady") ((pair fun _ => false).callHandler b called) := by
  have h := chronicle_of_course (pair fun _ => false) (fun _ => .moment) .beginning rfl 2
  obtain ⟨ticks, acts, hdid, hchronicle, -⟩ := h.1
  obtain ⟨b, called, -, hmonitor, -, hpending, hcourse⟩ := h.2.1 "steady" rfl
  exact ⟨⟨ticks, acts, hdid, hchronicle⟩, b, called, hmonitor, hpending rfl, hcourse⟩

end Watchdog

end MemoryWatchdog
