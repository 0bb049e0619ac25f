import MemoryWatchdog.Proofs.Course

/-!
# What a request to stop does

`withoutStops` makes of monitors, handlers, reporters and interludes the ones that do the same but never ask for a stop, and of a scene
the one in which none was requested. As long as no wake-up finds a request, every step of a watchdog is the step of the watchdog
without stops (`withoutStops_wake`), so the two runs agree up to the first wake-up that finds one. A run that still sleeps then is
stopped and does nothing more; a run that has ended stays as it is (`stop_truncates_course`).
-/

namespace MemoryWatchdog

variable {σ ρ : Type}

/-! ## The same without stops -/

/-- The control if no stop was requested. -/
def Control.withoutStops (c : Control) : Control :=
  { c with stopRequested := false }

/-- The same reply, without asking for a stop. -/
def Reply.withoutStops {α : Type} (reply : Reply σ α) : Reply σ α :=
  { reply with stops := false }

/-- The same entry with a monitor that never asks for a stop. -/
def Monitor.Entry.withoutStops (e : Monitor.Entry σ) : Monitor.Entry σ :=
  { e with monitor := { e.monitor with check := fun s => (e.monitor.check s).withoutStops } }

/-- The same handler, but it never asks for a stop. -/
def Handler.withoutStops (h : Handler σ) : Handler σ :=
  { h with call := fun s => (h.call s).withoutStops }

/-- The same reporter, but it never asks for a stop. -/
def Reporter.withoutStops (r : Reporter ρ) : Reporter ρ :=
  { r with stops := fun _ _ => false }

/-- The same interlude, but nobody asks for a stop in it. -/
def Interlude.withoutStops (i : Interlude σ) : Interlude σ :=
  { i with stops := false }

/-- The same stack, but no monitor ever asks for a stop. -/
def Stack.withoutStops (stack : Stack σ) : Stack σ :=
  stack.map Monitor.Entry.withoutStops

theorem Stack.names_withoutStops (stack : Stack σ) : stack.withoutStops.names = stack.names :=
  List.map_map

/-- The same configuration, but nobody in it ever asks for a stop. -/
def Configuration.withoutStops (c : Configuration σ ρ) : Configuration σ ρ :=
  { c with
    handler := c.handler.withoutStops
    monitors := c.monitors.withoutStops
    reporter := c.reporter.withoutStops }

/-- The same watchdog, but nobody in it ever asks for a stop. -/
def Watchdog.withoutStops (w : Watchdog σ ρ) : Watchdog σ ρ :=
  { w.toConfiguration.withoutStops with
    interval_ne_zero := w.interval_ne_zero
    names_nodup := by rw [Configuration.withoutStops, Stack.names_withoutStops]; exact w.names_nodup }

/-- The scene if no stop was requested. -/
def Scene.withoutStops (sc : Scene σ ρ) : Scene σ ρ :=
  { sc with control := sc.control.withoutStops }

/-- The tick in a scene if no stop was requested. -/
def Tick.withoutStops (t : Tick σ ρ) : Tick σ ρ :=
  { t with scene := t.scene.withoutStops }

/-! ## Steps -/

/-- A request to a watchdog that was started leaves no other trace. -/
theorem Control.withoutStops_stopIf {c : Control} (asked : Bool) (h : c.state ≠ .idle) :
    (c.stopIf asked).withoutStops = c.withoutStops := by
  rw [stopIf_of_ne_idle asked h]
  rfl

namespace Scene

/-- A scene in which no stop was requested is the same. -/
theorem withoutStops_of_unrequested {sc : Scene σ ρ} (h : sc.control.stopRequested = false) : sc.withoutStops = sc := by
  obtain ⟨surroundings, reporter, dumps, ⟨state, stopRequested⟩, log, journal⟩ := sc
  obtain rfl : stopRequested = false := h
  rfl

theorem withoutStops_note (act : Act) (sc : Scene σ ρ) : (sc.note act).withoutStops = sc.withoutStops.note act := rfl

/-- A reply is taken in without its request to stop. -/
theorem withoutStops_receive {α : Type} (reply : Reply σ α) {sc : Scene σ ρ} (h : sc.control.state ≠ .idle) :
    (sc.receive reply).withoutStops = sc.withoutStops.receive reply.withoutStops := by
  have hcontrol := Control.withoutStops_stopIf reply.stops h
  simp only [receive, withoutStops, hcontrol]
  rfl

/-- A report leaves the same without a request to stop. -/
theorem withoutStops_emit (r : Reporter ρ) (e : Event) {sc : Scene σ ρ} (h : sc.control.state ≠ .idle) :
    (sc.emit r e).withoutStops = sc.withoutStops.emit r.withoutStops e := by
  have hcontrol := Control.withoutStops_stopIf (r.stops e sc.reporter) h
  simp only [emit, withoutStops, hcontrol]
  rfl

end Scene

/-- So does an interlude. -/
theorem Interlude.withoutStops_act (i : Interlude σ) {sc : Scene σ ρ} (h : sc.control.state ≠ .idle) :
    (i.act sc).withoutStops = i.withoutStops.act sc.withoutStops := by
  have hcontrol := Control.withoutStops_stopIf i.stops h
  simp only [act, Scene.withoutStops, hcontrol]
  rfl

/-- A monitor without stops finds the same, and the same is reported of it. -/
theorem Sighting.event_withoutStops (e : Monitor.Entry σ) (finding : Finding) (strikes : UInt32) :
    Sighting.event ⟨e.withoutStops, finding, strikes⟩ = Sighting.event ⟨e, finding, strikes⟩ := by
  cases finding <;> rfl

/-- It is also the same breach, or none. -/
theorem Sighting.breach?_withoutStops (e : Monitor.Entry σ) (finding : Finding) (strikes : UInt32) :
    Sighting.breach? ⟨e.withoutStops, finding, strikes⟩ = Sighting.breach? ⟨e, finding, strikes⟩ := by
  cases finding <;> rfl

namespace Configuration

/-- A visit to an entry does what it would do without stops. -/
theorem withoutStops_visit (c : Configuration σ ρ) (t : Tick σ ρ) (e : Monitor.Entry σ) (h : t.scene.control.state ≠ .idle) :
    (c.visit t e).withoutStops = c.withoutStops.visit t.withoutStops e.withoutStops := by
  obtain ⟨sc, strikes, breach⟩ := t
  have hreceive : ((sc.receive (e.monitor.check sc.surroundings)).note
      (.evaluated e.name (e.find sc.surroundings))).control.state ≠ .idle := by
    rw [Scene.control_note, Scene.state_receive _ h]
    exact h
  simp only [visit_eq, Tick.withoutStops, Tick.mk.injEq]
  refine ⟨?_, rfl, ?_⟩
  · rw [Scene.withoutStops_emit _ _ hreceive, Scene.withoutStops_note, Scene.withoutStops_receive _ h]
    exact congrArg (fun event => Scene.emit c.reporter.withoutStops event _) (Sighting.event_withoutStops e _ _).symm
  · exact congrArg (breach <|> ·) (Sighting.breach?_withoutStops e _ _).symm

/-- So do visits to the entries of a stack. -/
theorem withoutStops_foldl_visit (c : Configuration σ ρ) (stack : Stack σ) (t : Tick σ ρ) (h : t.scene.control.state ≠ .idle) :
    (stack.foldl c.visit t).withoutStops = stack.withoutStops.foldl c.withoutStops.visit t.withoutStops := by
  induction stack generalizing t with
  | nil => rfl
  | cons e rest ih =>
    have hstate : (c.visit t e).scene.control.state ≠ .idle := by
      rw [state_visit c t e h]
      exact h
    rw [List.foldl_cons, ih _ hstate, withoutStops_visit c t e h]
    rfl

/-- So do all evaluations of a tick. -/
theorem withoutStops_evaluateAll (c : Configuration σ ρ) (strikes : Strikes) {sc : Scene σ ρ} (h : sc.control.state ≠ .idle) :
    (c.evaluateAll strikes sc).withoutStops = c.withoutStops.evaluateAll strikes sc.withoutStops :=
  withoutStops_foldl_visit c c.monitors { scene := sc, strikes } h

/-- A request for a heap report leaves the state of a watchdog that was started. -/
theorem state_requestDump (c : Configuration σ ρ) (b : Breach) {sc : Scene σ ρ} (h : sc.control.state ≠ .idle) :
    (c.requestDump b sc).control.state = sc.control.state := by
  unfold requestDump
  split
  · exact Scene.state_emit _ _ h
  · rfl

/-- Such a request is what it would be without stops. -/
theorem withoutStops_requestDump (c : Configuration σ ρ) (b : Breach) {sc : Scene σ ρ} (h : sc.control.state ≠ .idle) :
    (c.requestDump b sc).withoutStops = c.withoutStops.requestDump b sc.withoutStops := by
  unfold requestDump
  by_cases hwrite : c.writeHeapDumps = true
  · rw [if_pos hwrite, if_pos (show c.withoutStops.writeHeapDumps = true from hwrite)]
    exact Scene.withoutStops_emit _ _ h
  · rw [if_neg hwrite, if_neg (show ¬ c.withoutStops.writeHeapDumps = true from hwrite)]

/-- So is the call to the handler. -/
theorem withoutStops_callHandler (c : Configuration σ ρ) (b : Breach) {sc : Scene σ ρ} (h : sc.control.state ≠ .idle) :
    (c.callHandler b sc).withoutStops = c.withoutStops.callHandler b sc.withoutStops := by
  have hcalled : ((sc.receive (c.handler.call sc.surroundings)).note (.handlerCalled b.monitor)).control.state ≠ .idle := by
    rw [Scene.control_note, Scene.state_receive _ h]
    exact h
  rw [callHandler, Scene.withoutStops_emit _ _ hcalled, Scene.withoutStops_note, Scene.withoutStops_receive _ h]
  rfl

/-- So is the whole escalation. -/
theorem withoutStops_escalate (c : Configuration σ ρ) (b : Breach) {sc : Scene σ ρ} (h : sc.control.state ≠ .idle) :
    (c.escalate b sc).withoutStops = c.withoutStops.escalate b sc.withoutStops := by
  have hreported := Scene.state_emit c.reporter (.thresholdExceeded b.monitor b.strikes b.maxStrikes b.payload) h
  rw [← hreported] at h
  rw [escalate_eq, beforeHandler, withoutStops_callHandler _ _ (by rw [state_requestDump _ _ h]; exact h),
    withoutStops_requestDump _ _ h, Scene.withoutStops_emit _ _ (by rw [← hreported]; exact h)]
  rfl

end Configuration

namespace Watchdog

variable {w : Watchdog σ ρ} {between : Nat → Interlude σ} {start : Scene σ ρ}

/-- So is the end. -/
theorem withoutStops_finish (w : Watchdog σ ρ) (outcome : Outcome) (sc : Scene σ ρ) :
    w.withoutStops.finish outcome sc.withoutStops = (.ended outcome, (w.finish outcome sc).2.withoutStops) := by
  have hfinished : ({ sc with control := sc.control.finish } : Scene σ ρ).control.state ≠ .idle := by simp [Control.finish]
  exact congrArg (Prod.mk _) (Scene.withoutStops_emit w.reporter (.stopped outcome.reason) hfinished).symm

/-- A wake-up that finds no request to stop does what it would do without stops. -/
theorem withoutStops_wake (w : Watchdog σ ρ) (strikes : Strikes) {sc : Scene σ ρ} (h : sc.control.state ≠ .idle)
    (hreq : sc.control.stopRequested = false) :
    w.withoutStops.wake strikes sc.withoutStops = ((w.wake strikes sc).1, (w.wake strikes sc).2.withoutStops) := by
  have hall := Configuration.withoutStops_evaluateAll w.toConfiguration strikes h
  have hbreach : (w.withoutStops.evaluateAll strikes sc.withoutStops).breach = (w.evaluateAll strikes sc).breach :=
    (congrArg Tick.breach hall).symm
  rw [breach_evaluateAll, breach_evaluateAll] at hbreach
  cases hb : (w.monitors.sightings strikes sc.surroundings).findSome? Sighting.breach? with
  | none =>
    rw [wake_of_quiet hreq hb, wake_of_quiet rfl (hbreach.trans hb)]
    exact congrArg (fun t => (Progress.sleeping t.strikes, t.scene)) hall.symm
  | some b =>
    have hstate : (w.evaluateAll strikes sc).scene.control.state ≠ .idle := by
      rw [(visited_evaluateAll w strikes sc).state h]
      exact h
    have hscene : (w.withoutStops.evaluateAll strikes sc.withoutStops).scene = (w.evaluateAll strikes sc).scene.withoutStops :=
      (congrArg Tick.scene hall).symm
    have hescalate : w.withoutStops.escalate b (w.evaluateAll strikes sc).scene.withoutStops =
        (w.escalate b (w.evaluateAll strikes sc).scene).withoutStops :=
      (Configuration.withoutStops_escalate w.toConfiguration b hstate).symm
    rw [wake_of_breach hreq hb, wake_of_breach rfl (hbreach.trans hb), hscene, hescalate, withoutStops_finish]
    rfl

/-! ## Runs -/

/-- Whether a stop is requested at the end of the sleep that comes after a number of ticks. -/
def requestedAt (w : Watchdog σ ρ) (between : Nat → Interlude σ) (start : Scene σ ρ) (n : Nat) : Bool :=
  ((between n).act (w.course between start n).2).control.stopRequested

/-- The run if nobody ever asked for a stop. -/
def courseWithoutStops (w : Watchdog σ ρ) (between : Nat → Interlude σ) (start : Scene σ ρ) (n : Nat) : Progress × Scene σ ρ :=
  w.withoutStops.course (fun m => (between m).withoutStops) start n

/-- So do an interlude and the wake-up after it, if the wake-up finds no request to stop. -/
theorem withoutStops_resume (w : Watchdog σ ρ) (i : Interlude σ) (progress : Progress) {sc : Scene σ ρ}
    (h : sc.control.state ≠ .idle) (hreq : (i.act sc).control.stopRequested = false) :
    w.withoutStops.resume i.withoutStops (progress, sc.withoutStops) =
      ((w.resume i (progress, sc)).1, (w.resume i (progress, sc)).2.withoutStops) := by
  cases progress with
  | ended outcome => rfl
  | sleeping strikes =>
    have hstate : (i.act sc).control.state ≠ .idle := by
      rw [Interlude.state_act i h]
      exact h
    rw [resume, resume, ← Interlude.withoutStops_act i h, withoutStops_wake w strikes hstate hreq]

/-- A watchdog that was started is not idle again. -/
theorem state_course_ne_idle (hidle : start.control.state = .idle) (n : Nat) :
    (w.course between start n).2.control.state ≠ .idle := by
  have hfinish : ∀ outcome sc, (w.finish outcome sc).2.control.state ≠ .idle := by
    intro outcome sc
    rw [finish, Scene.state_emit _ _ (by simp [Control.finish])]
    simp [Control.finish]
  cases course_stage w between hidle n with
  | asleep strikes sc at_n inStep =>
    rw [at_n, inStep.state]
    simp
  | stopped m strikes sc before at_m inStep requested at_n =>
    rw [at_n]
    exact hfinish _ _
  | breached m strikes sc b before at_m inStep unrequested breach at_n =>
    rw [at_n]
    exact hfinish _ _

/-- The same event is reported of the start. -/
theorem startedEvent_withoutStops (w : Watchdog σ ρ) : w.withoutStops.startedEvent = w.startedEvent :=
  congrArg (fun names => Event.started names w.handler.name w.interval.inSeconds w.writeHeapDumps)
    (Stack.names_withoutStops w.monitors)

/-- As long as no wake-up has found a request to stop, the run is the run without stops. -/
theorem courseWithoutStops_eq (hstart : start.control = {}) {n : Nat} (h : ∀ m < n, w.requestedAt between start m = false) :
    w.courseWithoutStops between start n = ((w.course between start n).1, (w.course between start n).2.withoutStops) := by
  have hidle : start.control.state = .idle := by rw [hstart]
  induction n with
  | zero =>
    have hrunning : ({ start with control := { start.control with state := .running } } : Scene σ ρ).control.state ≠ .idle := by
      simp
    have hunrequested := Scene.withoutStops_of_unrequested
      (show ({ start with control := { start.control with state := .running } } : Scene σ ρ).control.stopRequested = false by
        rw [hstart])
    rw [courseWithoutStops, course, course, start_of_idle hidle, start_of_idle hidle, Scene.withoutStops_emit _ _ hrunning,
      hunrequested, startedEvent_withoutStops]
    rfl
  | succ n ih =>
    have hstep := withoutStops_resume w (between n) (w.course between start n).1 (state_course_ne_idle hidle n)
      (h n (Nat.lt_succ_self n))
    have hprevious := ih fun m hm => h m (Nat.lt_succ_of_lt hm)
    rw [courseWithoutStops] at hprevious ⊢
    rw [course, hprevious, hstep]
    rfl

/-- A run that has ended before any wake-up found a request to stop ended with a breach. -/
theorem handlerInvoked_of_ended (hidle : start.control.state = .idle) {n : Nat} (h : ∀ m < n, w.requestedAt between start m = false)
    {outcome : Outcome} (hended : (w.course between start n).1 = .ended outcome) : ∃ monitor, outcome = .handlerInvoked monitor := by
  cases course_stage w between hidle n with
  | asleep strikes sc at_n inStep =>
    rw [at_n] at hended
    cases hended
  | stopped m strikes sc before at_m inStep requested at_n =>
    have hunheard := h m before
    rw [requestedAt, at_m, requested] at hunheard
    cases hunheard
  | breached m strikes sc b before at_m inStep unrequested breach at_n =>
    rw [at_n] at hended
    exact ⟨b.monitor, (Progress.ended.inj hended).symm⟩

/-- A run that sleeps when a stop is requested is stopped by its next wake-up, which does nothing but finish. -/
theorem course_of_requestedAt {k n : Nat} {strikes : Strikes} {sc : Scene σ ρ}
    (at_k : w.course between start k = (.sleeping strikes, sc)) (h : w.requestedAt between start k = true) (hn : k < n) :
    w.course between start n = w.finish .stopped ((between k).act sc) := by
  rw [requestedAt, at_k] at h
  have hnext : w.course between start (k + 1) = w.finish .stopped ((between k).act sc) := by
    rw [course, at_k, resume, wake_of_stopRequested h]
  have hended : (w.course between start (k + 1)).1 = .ended .stopped := by
    rw [hnext]
    rfl
  rw [course_of_ended hended hn, hnext]

/-- A request to stop only cuts a run off between two ticks. Let the wake-up after a number of ticks be the first that comes when a
stop is requested, whoever asked for it and from wherever. Up to the end of these ticks the run is the run without stops: the same
strikes, acts, reports and requests for heap reports, and all else in the scene but the request itself. If the run without stops has
ended by then, it ended with a breach, and both runs stay as they are, with the same outcome. Otherwise the run is stopped, and after
these ticks it does nothing but report its end. -/
theorem stop_truncates_course (w : Watchdog σ ρ) (between : Nat → Interlude σ) (start : Scene σ ρ) (hstart : start.control = {})
    (k : Nat) (hunheard : ∀ m < k, w.requestedAt between start m = false) (hheard : w.requestedAt between start k = true) :
    (∀ n ≤ k, w.courseWithoutStops between start n =
      ((w.course between start n).1, (w.course between start n).2.withoutStops)) ∧
    (∀ outcome, (w.courseWithoutStops between start k).1.outcome? = some outcome →
      (∃ monitor, outcome = .handlerInvoked monitor) ∧
      ∀ n, k ≤ n → (w.course between start n).1.outcome? = some outcome ∧
        w.courseWithoutStops between start n = ((w.course between start n).1, (w.course between start n).2.withoutStops)) ∧
    ((w.courseWithoutStops between start k).1.outcome? = none →
      ∀ n, k < n → (w.course between start n).1.outcome? = some .stopped ∧
        Scene.Did w.reporter [.reported (.stopped "stop requested")] (w.courseWithoutStops between start k).2
          (w.course between start n).2 ∧
        (w.course between start n).2.surroundings = (between k).change (w.courseWithoutStops between start k).2.surroundings ∧
        (w.course between start n).2.dumps = ((between k).act (w.courseWithoutStops between start k).2).dumps) := by
  have hidle : start.control.state = .idle := by rw [hstart]
  have hsame : ∀ n ≤ k, w.courseWithoutStops between start n =
      ((w.course between start n).1, (w.course between start n).2.withoutStops) :=
    fun n hn => courseWithoutStops_eq hstart fun m hm => hunheard m (Nat.lt_of_lt_of_le hm hn)
  have hboth := hsame k (Nat.le_refl k)
  refine ⟨hsame, ?_, ?_⟩
  · -- Both runs have ended with the same breach, and neither changes any more.
    intro outcome houtcome
    rw [hboth, Progress.outcome?_eq_some_iff] at houtcome
    have hfree : (w.courseWithoutStops between start k).1 = .ended outcome := by rw [hboth, houtcome]
    refine ⟨handlerInvoked_of_ended hidle hunheard houtcome, fun n hn => ?_⟩
    have hlater : w.courseWithoutStops between start n = w.courseWithoutStops between start k := course_of_ended hfree hn
    rw [hlater, course_of_ended houtcome hn]
    exact ⟨Progress.outcome?_eq_some_iff.mpr houtcome, hboth⟩
  · -- Both runs sleep, and the next wake-up finds the request.
    intro houtcome n hn
    rw [hboth] at houtcome ⊢
    obtain ⟨strikes, hsleeping⟩ := Progress.outcome?_eq_none_iff.mp houtcome
    have hcourse : w.course between start k = (.sleeping strikes, (w.course between start k).2) := Prod.ext hsleeping rfl
    rw [course_of_requestedAt hcourse hheard hn]
    have hdid := (Interlude.did_act (between k) w.reporter (w.course between start k).2).trans
      (did_finish w .stopped ((between k).act (w.course between start k).2))
    exact ⟨rfl, ⟨hdid.history, hdid.reporter⟩, rfl, rfl⟩

/-- In the first tick the second monitor of the pair asks for a stop. Without it the next tick would have a breach. -/
theorem pair_stops_before_breach :
    (pair (· == 1)).requestedAt (fun _ => .moment) .beginning 0 = false ∧
      (pair (· == 1)).requestedAt (fun _ => .moment) .beginning 1 = true ∧
      ((pair (· == 1)).course (fun _ => .moment) .beginning 5).1.outcome? = some .stopped ∧
      ((pair (· == 1)).courseWithoutStops (fun _ => .moment) .beginning 2).1.outcome? = some (.handlerInvoked "steady") := by
  have hunheard : ∀ m < 1, (pair (· == 1)).requestedAt (fun _ => .moment) .beginning m = false := by
    intro m hm
    obtain rfl : m = 0 := by omega
    rfl
  have hasleep : ((pair (· == 1)).courseWithoutStops (fun _ => .moment) .beginning 1).1.outcome? = none := rfl
  have h := stop_truncates_course (pair (· == 1)) (fun _ => .moment) .beginning rfl 1 hunheard rfl
  exact ⟨rfl, rfl, (h.2.2 hasleep 5 (by decide)).1, by decide +kernel⟩

end Watchdog

end MemoryWatchdog
