import Mathlib.Data.List.DropRight
import MemoryWatchdog.Proofs.History

/-!
# Requests for heap reports over a worker's life

Every watchdog of a worker asks for a heap report when it breaches, if reports are wanted, into one queue, which the hook at the stop
empties. `reports_match_breaches` says of every history that this hook attempts a report exactly if reports are wanted and one of the
worker's watchdogs breached since the hook ran last, that it attempts one report however many watchdogs breached, and that nothing but
the host and the log depends on how the attempt went.
-/

namespace MemoryWatchdog

variable {σ ρ π : Type}

/-! ## What a wake-up asks for -/

/-- The run ended with a breach. -/
def Outcome.Breached (outcome : Option Outcome) : Prop :=
  ∃ monitor, outcome = some (.handlerInvoked monitor)

theorem Outcome.not_breached_none : ¬ Outcome.Breached none := by
  rintro ⟨monitor, h⟩
  cases h

theorem Outcome.not_breached_stopped : ¬ Outcome.Breached (some .stopped) := by
  rintro ⟨monitor, h⟩
  cases h

/-- Whether the hook at the stop is called. -/
def Happening.isStop : Happening π → Bool
  | .workerStops => true
  | _ => false

theorem Happening.eq_workerStops {x : Happening π} (h : x.isStop = true) : x = .workerStops := by
  cases x with
  | workerStops => rfl
  | _ => cases h

namespace Watchdog

/-- A wake-up leaves a request if there was one, or if reports are wanted and it found a breach. -/
theorem pending_wake (w : Watchdog σ ρ) (strikes : Strikes) (sc : Scene σ ρ) :
    (w.wake strikes sc).2.dumps.pending = true ↔
      sc.dumps.pending = true ∨ (w.writeHeapDumps = true ∧ Outcome.Breached (w.wake strikes sc).1.outcome?) := by
  cases hreq : sc.control.stopRequested with
  | true =>
    rw [wake_of_stopRequested hreq, outcome?_finish]
    simp only [Outcome.not_breached_stopped, and_false, or_false]
    rfl
  | false =>
    have hdumps := (visited_evaluateAll w strikes sc).dumps
    cases hb : (w.monitors.sightings strikes sc.surroundings).findSome? Sighting.breach? with
    | none =>
      rw [wake_of_quiet hreq hb]
      simp only [Progress.outcome?, Outcome.not_breached_none, and_false, or_false]
      rw [hdumps]
    | some b =>
      rw [wake_of_breach hreq hb, outcome?_finish]
      have hbreached : Outcome.Breached (some (.handlerInvoked b.monitor)) := ⟨_, rfl⟩
      have hpending := Configuration.pending_beforeHandler w.toConfiguration b (w.evaluateAll strikes sc).scene
      rw [hdumps] at hpending
      have hleft : (w.finish (.handlerInvoked b.monitor) (w.escalate b (w.evaluateAll strikes sc).scene)).2.dumps.pending =
          (w.writeHeapDumps || sc.dumps.pending) := hpending
      simp only [hleft, hbreached, and_true, Bool.or_eq_true, or_comm]

/-- A request is noted in the journal only by a watchdog for which reports are wanted. -/
theorem writeHeapDumps_of_requested (w : Watchdog σ ρ) (strikes : Strikes) (sc : Scene σ ρ) {monitor : String}
    (h : .dumpRequested monitor ∈ (w.wake strikes sc).2.history) (hnew : .dumpRequested monitor ∉ sc.history) :
    w.writeHeapDumps = true := by
  have hround : .dumpRequested monitor ∉ (w.monitors.sightings strikes sc.surroundings).flatMap Sighting.acts := by
    simp [List.mem_flatMap, Sighting.acts]
  cases hreq : sc.control.stopRequested with
  | true =>
    rw [wake_of_stopRequested hreq, (did_finish w .stopped sc).history] at h
    simp [hnew] at h
  | false =>
    have hall := (visited_evaluateAll w strikes sc).did
    cases hb : (w.monitors.sightings strikes sc.surroundings).findSome? Sighting.breach? with
    | none =>
      rw [wake_of_quiet hreq hb, hall.history] at h
      simp [hnew, hround] at h
    | some b =>
      have hescalated := (hall.trans (w.did_escalate b _)).trans (did_finish w (.handlerInvoked b.monitor) _)
      rw [wake_of_breach hreq hb, hescalated.history] at h
      simp only [List.mem_append, hnew, hround, Configuration.escalation] at h
      by_contra hunwanted
      simp [hunwanted] at h

/-- A start is noted by one report, or by nothing. -/
theorem not_requested_start (w : Watchdog σ ρ) {sc : Scene σ ρ} {monitor : String} (h : .dumpRequested monitor ∉ sc.history) :
    .dumpRequested monitor ∉ (w.start sc).2.history := by
  unfold start
  split
  · rw [Scene.history_emit, List.mem_append, not_or]
    exact ⟨h, by simp⟩
  · exact h

/-- A start is no breach. -/
theorem not_breached_start (w : Watchdog σ ρ) (sc : Scene σ ρ) : ¬ Outcome.Breached (w.start sc).1.outcome? := by
  unfold start
  split
  · exact Outcome.not_breached_none
  · exact Outcome.not_breached_stopped

/-- A start asks for no heap report. -/
theorem dumps_start (w : Watchdog σ ρ) (sc : Scene σ ρ) : (w.start sc).2.dumps = sc.dumps := by
  unfold start
  split <;> rfl

end Watchdog

/-- The watchdog of a role asks for heap reports if the settings say so. -/
theorem Settings.writeHeapDumps_of_made {settings : Settings} {role : Role} {probe : Probe (Host π)} {h : Host π}
    {w : Watchdog (Host π) Unit} (hmade : (settings.watchdog role probe h).ending = .returned (.ok w)) :
    w.writeHeapDumps = settings.dumpHeap := by
  simp only [watchdog] at hmade
  split at hmade
  · cases hmade
  · next stack _ =>
    rw [Watchdog.ofConfiguration_eq_ok_iff.mp (Ending.returned.inj hmade)]
    rfl

namespace Lifecycle

variable {settings : Settings} {role : Role} {probe : Probe (Host π)}

/-! ## What is kept of each supervisor -/

/-- A worker's watchdogs want reports exactly if the settings say so, and without that none ever asks for one. -/
structure AsksAsSet (settings : Settings) (s : Supervisor π) : Prop where
  wanted : s.watchdog.writeHeapDumps = settings.dumpHeap
  unasked : settings.dumpHeap = false → ∀ monitor, Act.dumpRequested monitor ∉ s.journal

/-- A worker's watchdogs ask for reports as the settings say from their start on, whatever happens. -/
theorem keeps_asksAsSet (settings : Settings) (role : Role) (probe : Probe (Host π)) :
    Keeps settings role probe (AsksAsSet settings) where
  placed h w hmade := ⟨Settings.writeHeapDumps_of_made hmade, fun _ _ => List.not_mem_nil⟩
  stop s hs := ⟨hs.wanted, hs.unasked⟩
  begins s l hwaiting hs := by
    refine ⟨hs.wanted, fun hunset monitor hasked => ?_⟩
    have hbefore : .dumpRequested monitor ∉ (l.sceneOf s).history := fun h => hs.unasked hunset monitor (List.mem_reverse.mp h)
    exact s.watchdog.not_requested_start hbefore (List.mem_reverse.mpr hasked)
  wakes s l strikes wakesAt hasleep hs := by
    refine ⟨hs.wanted, fun hunset monitor hasked => ?_⟩
    have hbefore : .dumpRequested monitor ∉ (l.sceneOf s).history := fun h => hs.unasked hunset monitor (List.mem_reverse.mp h)
    have hwanted := s.watchdog.writeHeapDumps_of_requested strikes _ (List.mem_reverse.mpr hasked) hbefore
    rw [hs.wanted, hunset] at hwanted
    cases hwanted

/-! ## Breaches -/

/-- The supervisor at a position has ended with a breach. -/
def Breached (l : Lifecycle π) (i : Nat) : Prop :=
  ∃ s, l.started[i]? = some s ∧ Outcome.Breached s.outcome?

/-- The supervisor at a position has breached if its outcome names a monitor. -/
theorem breached_iff {l : Lifecycle π} {i : Nat} :
    l.Breached i ↔ ∃ monitor, (l.started[i]?).bind Supervisor.outcome? = some (.handlerInvoked monitor) := by
  simp only [Breached, Outcome.Breached, Option.bind_eq_some_iff]
  constructor
  · rintro ⟨s, hs, monitor, hended⟩
    exact ⟨monitor, s, hs, hended⟩
  · rintro ⟨monitor, s, hs, hended⟩
    exact ⟨s, hs, monitor, hended⟩

/-- Some supervisor has breached that had not in an earlier state of the worker. -/
def BreachedSince (earlier l : Lifecycle π) : Prop :=
  ∃ i, l.Breached i ∧ ¬ earlier.Breached i

/-- Nobody has breached for a worker without watchdogs. -/
theorem Fresh.not_breached {fresh : Lifecycle π} (h : fresh.Fresh) (i : Nat) : ¬ fresh.Breached i := by
  rintro ⟨s, hs, -⟩
  rw [h.started] at hs
  cases hs

/-- On the way from one state of the worker to another no breach is undone, and a request comes into the queue exactly if a breach comes
that is to be reported. -/
structure Recorded (settings : Settings) (l l' : Lifecycle π) : Prop where
  breached : ∀ i, l.Breached i → l'.Breached i
  pending : l'.dumps.pending = true ↔ l.dumps.pending = true ∨ (settings.dumpHeap = true ∧ l.BreachedSince l')

/-- Where nobody breaches and the queue stays as it is, everything is recorded. -/
theorem Recorded.of_unchanged {l l' : Lifecycle π} (hbreached : ∀ i, l'.Breached i ↔ l.Breached i) (hdumps : l'.dumps = l.dumps) :
    Recorded settings l l' where
  breached i := (hbreached i).mpr
  pending := by
    have hnone : ¬ l.BreachedSince l' := by
      rintro ⟨i, hi, hnot⟩
      exact hnot ((hbreached i).mp hi)
    simp [hdumps, hnone]

theorem Recorded.refl (l : Lifecycle π) : Recorded settings l l :=
  .of_unchanged (fun _ => Iff.rfl) rfl

/-- What is recorded on two ways is recorded on both together. -/
theorem Recorded.trans {l₁ l₂ l₃ : Lifecycle π} (h : Recorded settings l₁ l₂) (h' : Recorded settings l₂ l₃) :
    Recorded settings l₁ l₃ where
  breached i hi := h'.breached i (h.breached i hi)
  pending := by
    have hsince : l₁.BreachedSince l₃ ↔ l₁.BreachedSince l₂ ∨ l₂.BreachedSince l₃ := by
      constructor
      · rintro ⟨i, hi, hnot⟩
        by_cases hmiddle : l₂.Breached i
        · exact .inl ⟨i, hmiddle, hnot⟩
        · exact .inr ⟨i, hi, hmiddle⟩
      · rintro (⟨i, hi, hnot⟩ | ⟨i, hi, hnot⟩)
        · exact ⟨i, h'.breached i hi, hnot⟩
        · exact ⟨i, hi, fun hfirst => hnot (h.breached i hfirst)⟩
    rw [h'.pending, h.pending, hsince, or_assoc, and_or_left]

/-- The hook at the start is no breach and requests nothing. -/
theorem recorded_start {l l' : Lifecycle π} {ending : Ending Unit} (hstarts : StartsFrom settings role probe l (ending, l')) :
    Recorded settings l l' := by
  obtain ⟨hdumps, ⟨hsame, -⟩ | ⟨-, w, -, hadded, -⟩⟩ := hstarts.unchanged_or_placed
  · exact .of_unchanged (fun i => by rw [Breached, Breached, hsame]) hdumps
  · refine .of_unchanged (fun i => ?_) hdumps
    rw [Breached, Breached, hadded]
    rcases Nat.lt_or_ge i l.started.length with hlt | hge
    · rw [List.getElem?_append_left hlt]
    · have hold : ¬ ∃ s, l.started[i]? = some s ∧ Outcome.Breached s.outcome? := by
        rintro ⟨s, hs, -⟩
        rw [List.getElem?_eq_none hge] at hs
        cases hs
      refine iff_of_false ?_ hold
      rintro ⟨s, hs, hbreached⟩
      rw [List.getElem?_append_right hge] at hs
      rw [List.mem_singleton.mp (List.mem_of_getElem? hs)] at hbreached
      exact Outcome.not_breached_none hbreached

/-- Nor is a request to stop, nor does it request a report. -/
theorem recorded_stopAt (l : Lifecycle π) (i : Nat) : Recorded settings l (l.stopAt i) := by
  refine .of_unchanged (fun j => ?_) rfl
  have hsame : ((l.stopAt i).started[j]?).bind Supervisor.outcome? = (l.started[j]?).bind Supervisor.outcome? := by
    rw [getElem?_stopAt, Option.bind_map]
    congr 1
    funext s
    dsimp only [Function.comp]
    split <;> rfl
  rw [breached_iff, breached_iff, hsame]

/-- A supervisor that has no outcome has breached after a step exactly if the step was a breach. -/
theorem breached_took {l : Lifecycle π} {i : Nat} {s : Supervisor π} (hat : l.started[i]? = some s)
    (step : Progress × Scene (Host π) Unit) (j : Nat) :
    (l.took i s step).Breached j ↔ if i = j then Outcome.Breached step.1.outcome? else l.Breached j := by
  unfold Breached
  rw [getElem?_took hat]
  split
  · simp
  · exact Iff.rfl

/-- A supervisor whose run goes on has not breached. -/
theorem not_breached_of_outcome?_eq_none {l : Lifecycle π} {i : Nat} {s : Supervisor π} (hat : l.started[i]? = some s)
    (hnone : s.outcome? = none) : ¬ l.Breached i := by
  rintro ⟨t, ht, hbreached⟩
  obtain rfl : s = t := Option.some.inj (hat.symm.trans ht)
  rw [hnone] at hbreached
  exact Outcome.not_breached_none hbreached

/-- A step that breaches requests a report if reports are wanted, and no other step does. -/
theorem recorded_step {l l' : Lifecycle π} {i : Nat} (hasks : ∀ s ∈ l.started, AsksAsSet settings s) (hsteps : l.StepsFrom i l') :
    Recorded settings l l' := by
  cases hsteps with
  | rests => exact .refl l
  | begins s at_i waiting =>
    have hbefore : ¬ l.Breached i := not_breached_of_outcome?_eq_none at_i (by simp [Supervisor.outcome?, waiting])
    refine .of_unchanged (fun j => ?_) (s.watchdog.dumps_start _)
    rw [breached_took at_i]
    split
    · next hij =>
      subst hij
      exact iff_of_false (s.watchdog.not_breached_start _) hbefore
    · exact Iff.rfl
  | wakes s strikes wakesAt at_i asleep =>
    have hbefore : ¬ l.Breached i := not_breached_of_outcome?_eq_none at_i (by simp [Supervisor.outcome?, asleep, Run.outcome?])
    have hwanted := (hasks s (List.mem_of_getElem? at_i)).wanted
    have hpending := s.watchdog.pending_wake strikes (l.sceneOf s)
    have hnew := breached_took at_i (s.watchdog.wake strikes (l.sceneOf s))
    refine ⟨fun j hj => ?_, ?_⟩
    · have hne : i ≠ j := fun hij => hbefore (hij ▸ hj)
      rw [hnew, if_neg hne]
      exact hj
    · have hsince : l.BreachedSince (l.took i s (s.watchdog.wake strikes (l.sceneOf s))) ↔
          Outcome.Breached (s.watchdog.wake strikes (l.sceneOf s)).1.outcome? := by
        constructor
        · rintro ⟨j, hj, hnot⟩
          rw [hnew] at hj
          split at hj
          · exact hj
          · exact absurd hj hnot
        · intro hbreached
          exact ⟨i, (hnew i).mpr (by rwa [if_pos rfl]), hbefore⟩
      rw [hsince, ← hwanted]
      exact hpending

/-- Every happening but the hook at the stop is recorded in the queue. -/
theorem recorded_after {l : Lifecycle π} (hasks : ∀ s ∈ l.started, AsksAsSet settings s) {x : Happening π}
    (hx : x.isStop = false) : Recorded settings l (l.after (hooks settings role probe) x) := by
  cases x with
  | workerStarts =>
    simp only [after, start_hooks]
    exact recorded_start (startsFrom_startWatchdog settings role probe l)
  | workerStops => cases hx
  | asked i => exact recorded_stopAt l i
  | steps i => exact recorded_step hasks (l.stepsFrom_step i)
  | joined => exact .of_unchanged (fun _ => Iff.rfl) rfl
  | meanwhile => exact .of_unchanged (fun _ => Iff.rfl) rfl

/-- A history without a call of that hook is recorded in the queue. -/
theorem recorded_follow {l : Lifecycle π} (hasks : ∀ s ∈ l.started, AsksAsSet settings s) {history : List (Happening π)}
    (hhistory : ∀ x ∈ history, x.isStop = false) : Recorded settings l (follow (hooks settings role probe) history l) := by
  induction history generalizing l with
  | nil => exact .refl l
  | cons x rest ih =>
    have hfirst : Recorded settings l (l.after (hooks settings role probe) x) :=
      recorded_after hasks (hhistory x List.mem_cons_self)
    have hkept := (keeps_asksAsSet settings role probe).after x hasks
    exact hfirst.trans (ih hkept fun y hy => hhistory y (List.mem_cons_of_mem x hy))

/-! ## Attempts -/

/-- An attempt is told in the log, so doing nothing is no attempt. -/
theorem Attempted.ne {l l' : Lifecycle π} (h : Attempted settings role probe l l') : l' ≠ l := by
  obtain ⟨report, host, -, hleft⟩ := h
  intro heq
  have hsize := congrArg (fun k : Lifecycle π => k.log.size) (hleft.symm.trans heq)
  simp at hsize

/-- Without the wish for reports there is no request. -/
def QuietUnlessSet (settings : Settings) (l : Lifecycle π) : Prop :=
  (∀ s ∈ l.started, AsksAsSet settings s) ∧ (settings.dumpHeap = false → l.dumps.pending = false)

theorem eq_with_no_request {l : Lifecycle π} (h : l.dumps.pending = false) : l = { l with dumps := {} } := by
  obtain ⟨host, ⟨pending⟩⟩ := l
  obtain rfl : pending = false := h
  rfl

/-- What the hook at the stop does if requests are made only when reports are wanted: it attempts a report if one is requested and does
nothing more otherwise, and it always leaves no request. -/
theorem stopWatchdog_of_quiet (hreturns : probe.Returns) (role : Role) {l : Lifecycle π} (hquiet : l.QuietUnlessSet settings) :
    (Attempted settings role probe l.stopSlot (stopWatchdog settings role probe l).2 ↔
        settings.dumpHeap = true ∧ l.dumps.pending = true)
      ∧ (¬ Attempted settings role probe l.stopSlot (stopWatchdog settings role probe l).2 →
          (stopWatchdog settings role probe l).2 = l.stopSlot)
      ∧ ∃ host log, (stopWatchdog settings role probe l).2 = { l.stopSlot with host, log, dumps := {} } := by
  have hstop := (stopWatchdog_of_returns hreturns settings role l).2
  split at hstop
  · next hattempt =>
    refine ⟨iff_of_true hstop hattempt, fun hnot => absurd hstop hnot, ?_⟩
    obtain ⟨report, host, -, hleft⟩ := hstop
    exact ⟨_, _, hleft⟩
  · next hnone =>
    have hnot : ¬ Attempted settings role probe l.stopSlot (stopWatchdog settings role probe l).2 := fun h => h.ne hstop
    have hempty : l.stopSlot.dumps.pending = false := by
      rw [dumps_stopSlot, Bool.eq_false_iff]
      intro hpending
      cases hset : settings.dumpHeap with
      | false => exact Bool.eq_false_iff.mp (hquiet.2 hset) hpending
      | true => exact hnone ⟨hset, hpending⟩
    refine ⟨iff_of_false hnot hnone, fun _ => hstop, l.stopSlot.host, l.stopSlot.log, ?_⟩
    rw [hstop]
    exact eq_with_no_request hempty

/-- Every happening keeps it. -/
theorem QuietUnlessSet.after (hreturns : probe.Returns) {l : Lifecycle π} (h : l.QuietUnlessSet settings) (x : Happening π) :
    (l.after (hooks settings role probe) x).QuietUnlessSet settings := by
  refine ⟨(keeps_asksAsSet settings role probe).after x h.1, fun hunset => ?_⟩
  cases hx : x.isStop with
  | true =>
    obtain rfl := Happening.eq_workerStops hx
    obtain ⟨-, -, host, log, hleft⟩ := stopWatchdog_of_quiet hreturns role h
    simp only [Lifecycle.after, stop_hooks, hleft]
  | false =>
    have hrecorded : Recorded settings l (l.after (hooks settings role probe) x) := recorded_after h.1 hx
    rw [Bool.eq_false_iff, ne_eq, hrecorded.pending, hunset, h.2 hunset]
    simp

/-- The part of a history up to the last call of the hook at the stop. -/
def upToStop (history : List (Happening π)) : List (Happening π) :=
  history.rdropWhile fun x => !x.isStop

/-- The part of a history after that. -/
def sinceStop (history : List (Happening π)) : List (Happening π) :=
  history.rtakeWhile fun x => !x.isStop

/-- The part up to the last call of the hook is empty or ends with that call. -/
theorem upToStop_eq_nil_or (history : List (Happening π)) :
    upToStop history = [] ∨ ∃ earlier, upToStop history = earlier ++ [.workerStops] := by
  by_cases hnil : upToStop history = []
  · exact .inl hnil
  · have hlast := List.rdropWhile_last_not (fun x : Happening π => !x.isStop) history hnil
    have hstop := Happening.eq_workerStops (by simpa using hlast)
    refine .inr ⟨(upToStop history).dropLast, ?_⟩
    rw [← hstop]
    exact (List.dropLast_append_getLast hnil).symm

/-- After any history the hook at the stop returns. It attempts to write a heap report exactly if reports are wanted and a supervisor has
breached since that hook ran last, or since the first start; then it makes one attempt, and otherwise does nothing but ask the
supervisor in the slot to stop. It leaves no request, and nothing but the host and the log depends on whether the report could be
written. If reports are not wanted, none is ever requested. -/
theorem reports_match_breaches (settings : Settings) (role : Role) {probe : Probe (Host π)} (hreturns : probe.Returns)
    (fresh : Lifecycle π) (hfresh : fresh.Fresh) (hempty : fresh.dumps.pending = false) (history : List (Happening π)) :
    let watched := hooks settings role probe
    let before := follow watched (upToStop history) fresh
    let l := follow watched history fresh
    let stopped := watched.stop l
    stopped.1 = .returned ()
      ∧ (Attempted settings role probe l.stopSlot stopped.2 ↔ settings.dumpHeap = true ∧ before.BreachedSince l)
      ∧ (¬ Attempted settings role probe l.stopSlot stopped.2 → stopped.2 = l.stopSlot)
      ∧ (∃ host log, stopped.2 = { l.stopSlot with host, log, dumps := {} })
      ∧ (settings.dumpHeap = false → l.dumps.pending = false ∧ ∀ s ∈ l.started, ∀ monitor, Act.dumpRequested monitor ∉ s.journal) := by
  intro watched before l stopped
  have hstart : fresh.QuietUnlessSet settings := ⟨by simp [hfresh.started], fun _ => hempty⟩
  have hquiet : ∀ history, (follow watched history fresh).QuietUnlessSet settings := fun history =>
    follow_keeps (fun x _ l h => QuietUnlessSet.after hreturns h x) hstart
  have hbefore : before.dumps.pending = false := by
    rcases upToStop_eq_nil_or history with hnil | ⟨earlier, hlast⟩
    · simp only [before, hnil]
      exact hempty
    · obtain ⟨-, -, host, log, hleft⟩ := stopWatchdog_of_quiet hreturns role (hquiet earlier)
      simp only [before, hlast, follow_append]
      simp only [follow, List.foldl, after, watched, stop_hooks] at hleft ⊢
      rw [hleft]
  have hsplit : l = follow watched (sinceStop history) before := by
    rw [← follow_append, upToStop, sinceStop, List.rdropWhile_append_rtakeWhile]
  have hrecorded : Recorded settings before l := by
    rw [hsplit]
    exact recorded_follow (hquiet _).1 fun x hx => by simpa using List.mem_rtakeWhile_imp hx
  have hpending : l.dumps.pending = true ↔ settings.dumpHeap = true ∧ before.BreachedSince l := by
    simp [hrecorded.pending, hbefore]
  have hstopped : stopped = stopWatchdog settings role probe l := stop_hooks settings role probe l
  obtain ⟨hattempted, hnone, hleft⟩ := stopWatchdog_of_quiet hreturns role (hquiet history)
  rw [hstopped]
  refine ⟨(stopWatchdog_of_returns hreturns settings role l).1, ?_, hnone, hleft, fun hunset => ⟨(hquiet history).2 hunset, ?_⟩⟩
  · rw [hattempted, hpending]
    simp
  · exact fun s hs => ((hquiet history).1 s hs).unasked hunset

/-- A web worker that wants reports and exceeds its limit gets one attempt of a report when it stops, and none when it stops again. -/
theorem web_reports_once :
    let settings : Settings := { dumpHeap := true }
    let probe : Probe (Host Unit) := .steady 0x10000000000
    let watched := hooks settings .web probe
    let worker : Lifecycle Unit := { host := { memory := (), pid := 1 } }
    let l := follow watched [.workerStarts, .steps 0, .steps 0] worker
    let stopped := follow watched [.workerStarts, .steps 0, .steps 0, .workerStops] worker
    Attempted settings .web probe l.stopSlot (watched.stop l).2
      ∧ ¬ Attempted settings .web probe stopped.stopSlot (watched.stop stopped).2 := by
  intro settings probe watched worker l stopped
  have hreturns : probe.Returns := Probe.returns_steady _
  have hfresh : worker.Fresh := ⟨rfl, rfl⟩
  have hended : (l.started[0]?).bind Supervisor.outcome? = some (.handlerInvoked "rss_memory_limit") := by decide +kernel
  have hbreached : worker.BreachedSince l := ⟨0, breached_iff.mpr ⟨_, hended⟩, hfresh.not_breached 0⟩
  constructor
  · have hfirst := reports_match_breaches settings .web hreturns worker hfresh rfl [.workerStarts, .steps 0, .steps 0]
    exact hfirst.2.1.mpr ⟨rfl, hbreached⟩
  · have hsecond := reports_match_breaches settings .web hreturns worker hfresh rfl
      [.workerStarts, .steps 0, .steps 0, .workerStops]
    rw [hsecond.2.1]
    rintro ⟨-, i, hi, hnot⟩
    exact hnot hi

end Lifecycle

end MemoryWatchdog
