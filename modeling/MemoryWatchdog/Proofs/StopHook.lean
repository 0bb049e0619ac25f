import MemoryWatchdog.Proofs.Course
import MemoryWatchdog.Proofs.History

/-!
# What the hook at the stop of a worker reaches

The hook knows the slot and nothing else. A supervisor that is still needed is in the slot, or somebody took it out of there while it was
needed (`Live.slot_or_takenOut`); one that was taken out never comes back. So the hook leaves nobody needed but those that were taken out,
and whoever it leaves stopping calls neither a monitor nor the handler any more, whatever happens later: `stop_misses_taken_out`. A
supervisor that is joined before the worker stops goes on: `joined_goes_on`.
-/

namespace MemoryWatchdog

variable {σ ρ π : Type}

/-! ## What a watchdog that is stopping still does -/

namespace Watchdog

variable {w : Watchdog σ ρ} {sc : Scene σ ρ} {strikes strikes' : Strikes}

/-- A start calls neither a monitor nor the handler. -/
theorem calls_start (w : Watchdog σ ρ) (sc : Scene σ ρ) : calls (w.start sc).2.journal = calls sc.journal := by
  unfold start
  split <;> rfl

/-- Nor does an end. -/
theorem calls_finish (w : Watchdog σ ρ) (outcome : Outcome) (sc : Scene σ ρ) :
    calls (w.finish outcome sc).2.journal = calls sc.journal := rfl

/-- A start that goes to sleep leaves the watchdog running. -/
theorem state_of_start_sleeping (h : (w.start sc).1 = .sleeping strikes) : (w.start sc).2.control.state = .running := by
  by_cases hidle : sc.control.state = .idle
  · rw [start_of_idle hidle]
    exact Scene.state_emit _ _ (by simp)
  · simp [start, Control.start?, hidle] at h

/-- A run that sleeps again after it woke up is still under way. -/
theorem state_of_wake_sleeping (hrunning : sc.control.state = .running) (h : (w.wake strikes sc).1 = .sleeping strikes') :
    (w.wake strikes sc).2.control.state = .running := by
  have hnotIdle : sc.control.state ≠ .idle := by simp [hrunning]
  cases hrequested : sc.control.stopRequested with
  | true =>
    rw [wake_of_stopRequested hrequested] at h
    cases h
  | false =>
    cases hbreach : (w.monitors.sightings strikes sc.surroundings).findSome? Sighting.breach? with
    | some b =>
      rw [wake_of_breach hrequested hbreach] at h
      cases h
    | none => rw [wake_of_quiet hrequested hbreach, (visited_evaluateAll w strikes sc).state hnotIdle, hrunning]

end Watchdog

namespace Supervisor

/-- A run that sleeps is that of a watchdog that is running. -/
def Underway (s : Supervisor π) : Prop :=
  ∀ strikes wakesAt, s.run = some (.sleeping strikes wakesAt) → s.control.state = .running

/-- A step that goes to sleep only with a running watchdog leaves its supervisor so. -/
theorem underway_after (s : Supervisor π) (now : Nat) {step : Progress × Scene (Host π) Unit}
    (h : ∀ strikes, step.1 = .sleeping strikes → step.2.control.state = .running) : (s.after now step).Underway := by
  obtain ⟨progress, sc⟩ := step
  intro strikes wakesAt hrun
  cases progress with
  | sleeping strikes' => exact h strikes' rfl
  | ended outcome => cases hrun

/-- A request to stop leaves a run that sleeps under way. -/
theorem Underway.stop {s : Supervisor π} (h : s.Underway) : { s with control := s.control.stop }.Underway := by
  intro strikes wakesAt hrun
  have hrunning := h strikes wakesAt hrun
  have hstate : (s.control.stopIf true).state = s.control.state := Control.state_stopIf _ (by simp [hrunning])
  exact hstate.trans hrunning

/-- A supervisor that is stopping and has made certain calls. -/
structure Halted (s : Supervisor π) (made : List Act) : Prop where
  stopping : s.control.isStopping = true
  underway : s.Underway
  calls : calls s.journal = made

variable {s : Supervisor π} {made : List Act}

/-- One more request to stop changes nothing of that. -/
theorem Halted.stop (h : s.Halted made) : { s with control := s.control.stop }.Halted made :=
  ⟨Control.isStopping_stop _, h.underway.stop, h.calls⟩

/-- Nor does the beginning of its run. -/
theorem Halted.begins (h : s.Halted made) (l : Lifecycle π) : (s.after l.now (s.watchdog.start (l.sceneOf s))).Halted made where
  stopping := s.watchdog.isStopping_start h.stopping
  underway := s.underway_after l.now fun _ => Watchdog.state_of_start_sleeping
  calls := (s.watchdog.calls_start (l.sceneOf s)).trans h.calls

/-- A supervisor that sleeps and is stopping was asked to stop, and its next wake-up ends its run before any call. -/
theorem Halted.wakes (h : s.Halted made) (l : Lifecycle π) {strikes : Strikes} {wakesAt : Nat}
    (hasleep : s.run = some (.sleeping strikes wakesAt)) : (s.after l.now (s.watchdog.wake strikes (l.sceneOf s))).Halted made := by
  have hrunning := h.underway strikes wakesAt hasleep
  have hrequested : s.control.stopRequested = true := by
    simpa [Control.isStopping, hrunning] using h.stopping
  have hstopping : (s.watchdog.wake strikes (l.sceneOf s)).2.control.isStopping = true := s.watchdog.isStopping_wake h.stopping
  have hwake : s.watchdog.wake strikes (l.sceneOf s) = s.watchdog.finish .stopped (l.sceneOf s) :=
    Watchdog.wake_of_stopRequested hrequested
  refine ⟨hstopping, s.underway_after l.now fun _ => Watchdog.state_of_wake_sleeping hrunning, ?_⟩
  rw [hwake]
  exact (s.watchdog.calls_finish .stopped (l.sceneOf s)).trans h.calls

end Supervisor

namespace Lifecycle

variable {settings : Settings} {role : Role} {probe : Probe (Host π)} {l : Lifecycle π} {i : Nat}

/-- Every supervisor that sleeps is under way, after any history. -/
theorem keeps_underway (settings : Settings) (role : Role) (probe : Probe (Host π)) :
    Keeps settings role probe Supervisor.Underway where
  placed _ _ _ := nofun
  stop _ hs := hs.stop
  begins s l _ _ := s.underway_after l.now fun _ => Watchdog.state_of_start_sleeping
  wakes s l strikes wakesAt hasleep hs := s.underway_after l.now fun _ => Watchdog.state_of_wake_sleeping (hs strikes wakesAt hasleep)

/-- The supervisor at a position is stopping and has made certain calls. -/
def HaltedAt (l : Lifecycle π) (i : Nat) (made : List Act) : Prop :=
  ∃ s, l.started[i]? = some s ∧ s.Halted made

variable {made : List Act}

/-- A request to stop, to whomever, leaves a supervisor halted. -/
theorem HaltedAt.stopAt (h : l.HaltedAt i made) (j : Nat) : (l.stopAt j).HaltedAt i made := by
  obtain ⟨s, hs, hhalted⟩ := h
  refine ⟨_, by rw [getElem?_stopAt, hs]; rfl, ?_⟩
  split
  · exact hhalted.stop
  · exact hhalted

/-- So does a request to the one in the slot. -/
theorem HaltedAt.stopSlot (h : l.HaltedAt i made) : l.stopSlot.HaltedAt i made := by
  unfold Lifecycle.stopSlot
  split
  · exact h
  · exact h.stopAt _

/-- So does the hook at the start, which leaves the supervisors that there are. -/
theorem HaltedAt.start {l' : Lifecycle π} {ending : Ending Unit} (h : l.HaltedAt i made)
    (hstarts : StartsFrom settings role probe l (ending, l')) : l'.HaltedAt i made := by
  obtain ⟨s, hs, hhalted⟩ := h
  obtain ⟨-, ⟨hsame, -⟩ | ⟨-, w, -, hadded, -⟩⟩ := hstarts.unchanged_or_placed
  · exact ⟨s, by rw [hsame, hs], hhalted⟩
  · have hlt := (List.getElem?_eq_some_iff.mp hs).1
    exact ⟨s, by rw [hadded, List.getElem?_append_left hlt, hs], hhalted⟩

/-- A step of one supervisor keeps what the others did, and what it did itself if it is stopping. -/
theorem HaltedAt.step {l' : Lifecycle π} {j : Nat} (h : l.HaltedAt i made) (hsteps : l.StepsFrom j l') : l'.HaltedAt i made := by
  obtain ⟨s, hs, hhalted⟩ := h
  cases hsteps with
  | rests => exact ⟨s, hs, hhalted⟩
  | begins t at_j waiting =>
    by_cases hji : j = i
    · subst hji
      obtain rfl := Option.some.inj (hs.symm.trans at_j)
      exact ⟨_, by rw [getElem?_took hs, if_pos rfl], hhalted.begins l⟩
    · exact ⟨s, by rw [getElem?_took at_j, if_neg hji, hs], hhalted⟩
  | wakes t strikes wakesAt at_j asleep =>
    by_cases hji : j = i
    · subst hji
      obtain rfl := Option.some.inj (hs.symm.trans at_j)
      exact ⟨_, by rw [getElem?_took hs, if_pos rfl], hhalted.wakes l asleep⟩
    · exact ⟨s, by rw [getElem?_took at_j, if_neg hji, hs], hhalted⟩

/-- So does any happening. -/
theorem HaltedAt.after (h : l.HaltedAt i made) (x : Happening π) : (l.after (hooks settings role probe) x).HaltedAt i made := by
  cases x with
  | workerStarts =>
    simp only [Lifecycle.after, start_hooks]
    exact h.start (startsFrom_startWatchdog settings role probe l)
  | workerStops =>
    simp only [Lifecycle.after, stop_hooks, HaltedAt, (started_stopWatchdog settings role probe l).1]
    exact h.stopSlot
  | asked j => exact h.stopAt j
  | steps j => exact h.step (l.stepsFrom_step j)
  | joined => exact h
  | meanwhile => exact h

/-- Whatever happens, a supervisor that is stopping stays so and makes no further call. -/
theorem HaltedAt.follow (h : l.HaltedAt i made) (history : List (Happening π)) :
    (follow (hooks settings role probe) history l).HaltedAt i made := by
  have hafter : ∀ x ∈ history, ∀ l : Lifecycle π, l.HaltedAt i made → (l.after (hooks settings role probe) x).HaltedAt i made :=
    fun x _ _ hl => hl.after x
  exact follow_keeps hafter h

/-! ## Who was taken out -/

@[simp] theorem length_stopAt (l : Lifecycle π) (i : Nat) : (l.stopAt i).started.length = l.started.length :=
  List.length_modify ..

@[simp] theorem length_stopSlot (l : Lifecycle π) : l.stopSlot.started.length = l.started.length := by
  unfold stopSlot
  split
  · rfl
  · exact length_stopAt ..

/-- A step neither starts a supervisor nor changes the slot. -/
theorem StepsFrom.frame {l' : Lifecycle π} {j : Nat} (h : l.StepsFrom j l') :
    l'.started.length = l.started.length ∧ l'.slot = l.slot := by
  cases h with
  | rests => exact ⟨rfl, rfl⟩
  | begins => exact ⟨List.length_modify .., rfl⟩
  | wakes => exact ⟨List.length_modify .., rfl⟩

/-- In the course of a history somebody took a supervisor out of the slot that was still needed. -/
def TakenOut (hooks : Hooks (Lifecycle π)) (history : List (Happening π)) (l : Lifecycle π) (i : Nat) : Prop :=
  ∃ earlier later, history = earlier ++ .joined :: later ∧
    (follow hooks earlier l).slot = some i ∧ (follow hooks earlier l).Live i

/-- Who was taken out has been taken out later too. -/
theorem TakenOut.append {hooks : Hooks (Lifecycle π)} {history : List (Happening π)} (h : TakenOut hooks history l i)
    (more : List (Happening π)) : TakenOut hooks (history ++ more) l i := by
  obtain ⟨earlier, later, rfl, htaken⟩ := h
  exact ⟨earlier, later ++ more, by rw [List.append_assoc, List.cons_append], htaken⟩

/-- Whoever is needed was started. -/
theorem Live.lt_length (h : l.Live i) : i < l.started.length := by
  obtain ⟨s, hs, -⟩ := h
  exact (List.getElem?_eq_some_iff.mp hs).1

/-- A supervisor was started and is not in the slot. -/
structure OutsideSlot (l : Lifecycle π) (i : Nat) : Prop where
  started : i < l.started.length
  slot : l.slot ≠ some i

/-- The hook at the start puts into the slot only whom it starts. -/
theorem OutsideSlot.start {l' : Lifecycle π} {ending : Ending Unit} (h : l.OutsideSlot i)
    (hstarts : StartsFrom settings role probe l (ending, l')) : l'.OutsideSlot i := by
  have hlt := h.started
  obtain ⟨-, ⟨hsame, hslot⟩ | ⟨-, w, -, hadded, hslot⟩⟩ := hstarts.unchanged_or_placed
  · exact ⟨by rwa [hsame], by rw [hslot]; exact h.slot⟩
  · have hne : l.started.length ≠ i := by omega
    exact ⟨by rw [hadded, List.length_append]; omega, by rw [hslot]; exact fun heq => hne (Option.some.inj heq)⟩

/-- Nobody who is outside the slot comes into it again. -/
theorem OutsideSlot.after (h : l.OutsideSlot i) (x : Happening π) : (l.after (hooks settings role probe) x).OutsideSlot i := by
  cases x with
  | workerStarts =>
    simp only [Lifecycle.after, start_hooks]
    exact h.start (startsFrom_startWatchdog settings role probe l)
  | workerStops =>
    obtain ⟨hstarted, hslot⟩ := started_stopWatchdog settings role probe l
    simp only [Lifecycle.after, stop_hooks]
    exact ⟨by rw [hstarted, length_stopSlot]; exact h.started, by rw [hslot]; exact h.slot⟩
  | asked j => exact ⟨by rw [Lifecycle.after, length_stopAt]; exact h.started, h.slot⟩
  | steps j =>
    obtain ⟨hlength, hslot⟩ := (l.stepsFrom_step j).frame
    exact ⟨by rw [Lifecycle.after, hlength]; exact h.started, by rw [Lifecycle.after, hslot]; exact h.slot⟩
  | joined => exact ⟨h.started, (Option.some_ne_none i).symm⟩
  | meanwhile => exact ⟨h.started, h.slot⟩

/-- Who was taken out is not in the slot any more. -/
theorem TakenOut.outsideSlot {history : List (Happening π)} (h : TakenOut (hooks settings role probe) history l i) :
    (Lifecycle.follow (hooks settings role probe) history l).OutsideSlot i := by
  obtain ⟨earlier, later, rfl, -, hlive⟩ := h
  have hjoined : ((Lifecycle.follow (hooks settings role probe) earlier l).after (hooks settings role probe) .joined).OutsideSlot i :=
    ⟨hlive.lt_length, (Option.some_ne_none i).symm⟩
  have hafter : ∀ x ∈ later, ∀ l : Lifecycle π, l.OutsideSlot i → (l.after (hooks settings role probe) x).OutsideSlot i :=
    fun x _ _ hl => hl.after x
  rw [follow_append, Lifecycle.follow, List.foldl_cons]
  exact follow_keeps hafter hjoined

/-! ## Who is needed -/

/-- Whom the hook at the start leaves needed is in the slot, or was needed before; the slot is then as it was, or nobody was needed in
it. -/
theorem Live.of_start {l' : Lifecycle π} {ending : Ending Unit} (h : l'.Live i)
    (hstarts : StartsFrom settings role probe l (ending, l')) :
    l'.slot = some i ∨ (l.Live i ∧ (l'.slot = l.slot ∨ ¬l.Supervised)) := by
  obtain ⟨s, hs, hlive⟩ := h
  obtain ⟨-, ⟨hsame, hslot⟩ | ⟨hunsupervised, w, -, hadded, hslot⟩⟩ := hstarts.unchanged_or_placed
  · rw [hsame] at hs
    exact .inr ⟨⟨s, hs, hlive⟩, .inl hslot⟩
  · by_cases hnew : i = l.started.length
    · exact .inl (by rw [hslot, hnew])
    · have hlt := (List.getElem?_eq_some_iff.mp hs).1
      rw [hadded, List.length_append, List.length_singleton] at hlt
      rw [hadded, List.getElem?_append_left (by omega)] at hs
      exact .inr ⟨⟨s, hs, hlive⟩, .inr hunsupervised⟩

/-- Whoever is needed after a happening is in the slot, or was needed before; the slot is then as it was, or nobody was needed in it, or
somebody joined. -/
theorem Live.of_after {x : Happening π} (h : (l.after (hooks settings role probe) x).Live i) :
    (l.after (hooks settings role probe) x).slot = some i
      ∨ (l.Live i ∧ ((l.after (hooks settings role probe) x).slot = l.slot ∨ ¬l.Supervised ∨ x = .joined)) := by
  cases x with
  | workerStarts =>
    simp only [Lifecycle.after, start_hooks] at h ⊢
    rcases h.of_start (startsFrom_startWatchdog settings role probe l) with hslot | ⟨hlive, hslot | hunsupervised⟩
    · exact .inl hslot
    · exact .inr ⟨hlive, .inl hslot⟩
    · exact .inr ⟨hlive, .inr (.inl hunsupervised)⟩
  | workerStops =>
    obtain ⟨hstarted, hslot⟩ := started_stopWatchdog settings role probe l
    simp only [Lifecycle.after, stop_hooks] at h ⊢
    rw [Live, hstarted] at h
    exact .inr ⟨live_of_stopSlot h, .inl hslot⟩
  | asked j => exact .inr ⟨live_of_stopAt h, .inl rfl⟩
  | steps j => exact .inr ⟨(l.stepsFrom_step j).live h, .inl (l.stepsFrom_step j).frame.2⟩
  | joined => exact .inr ⟨h, .inr (.inr rfl)⟩
  | meanwhile => exact .inr ⟨h, .inl rfl⟩

/-- After a history, whoever is needed is in the slot or was taken out of it. The induction is from the end of the history, since being
taken out is about how it began. -/
theorem Live.slot_or_takenOut {fresh : Lifecycle π} (hfresh : fresh.Fresh) {history : List (Happening π)}
    (h : (Lifecycle.follow (hooks settings role probe) history fresh).Live i) :
    (Lifecycle.follow (hooks settings role probe) history fresh).slot = some i
      ∨ TakenOut (hooks settings role probe) history fresh i := by
  induction history using List.reverseRecOn with
  | nil =>
    have hlt := h.lt_length
    simp [Lifecycle.follow, hfresh.started] at hlt
  | append_singleton history x ih =>
    rw [follow_append] at h ⊢
    rcases Live.of_after h with hslot | ⟨hlive, hbefore⟩
    · exact .inl hslot
    · rcases ih hlive with hslot | htaken
      · rcases hbefore with hsame | hunsupervised | rfl
        · exact .inl (hsame.trans hslot)
        · exact absurd ⟨i, hslot, hlive⟩ hunsupervised
        · exact .inr ⟨history, [], rfl, hslot, hlive⟩
      · exact .inr (htaken.append [x])

/-- The hook at the stop spares exactly those needed supervisors that are not in the slot. -/
theorem live_workerStops_iff : (l.after (hooks settings role probe) .workerStops).Live i ↔ l.Live i ∧ l.slot ≠ some i := by
  have hstarted := (started_stopWatchdog settings role probe l).1
  simp only [Lifecycle.after, stop_hooks, Live, hstarted]
  constructor
  · intro h
    refine ⟨live_of_stopSlot h, fun hslot => ?_⟩
    exact not_supervised_stopSlot l ⟨i, by rw [slot_stopSlot, hslot], h⟩
  · rintro ⟨hlive, hslot⟩
    unfold stopSlot
    split
    · exact hlive
    · next j hj =>
      obtain ⟨s, hs, hnot⟩ := hlive
      have hne : j ≠ i := fun heq => hslot (by rw [hj, heq])
      exact ⟨s, by rw [getElem?_stopAt, hs, Option.map_some, if_neg hne], hnot⟩

/-- What the hook at the stop of a worker reaches after any history. It leaves needed exactly those supervisors that were needed and that
somebody had taken out of the slot while they were. All others that were started are stopping from then on, whatever happens later, and
call neither a monitor nor the handler again. -/
theorem stop_misses_taken_out (settings : Settings) (role : Role) (probe : Probe (Host π)) (fresh : Lifecycle π) (hfresh : fresh.Fresh)
    (history : List (Happening π)) :
    let watched := hooks settings role probe
    let l := follow watched history fresh
    let stopped := l.after watched .workerStops
    (∀ i, stopped.Live i ↔ l.Live i ∧ TakenOut watched history fresh i)
      ∧ ∀ i s, stopped.started[i]? = some s → ¬(l.Live i ∧ TakenOut watched history fresh i) →
          ∀ later, ∃ s', (follow watched later stopped).started[i]? = some s' ∧ s'.control.isStopping = true
            ∧ calls s'.journal = calls s.journal := by
  intro watched l stopped
  have hlive : ∀ i, stopped.Live i ↔ l.Live i ∧ TakenOut watched history fresh i := by
    intro i
    rw [live_workerStops_iff]
    refine and_congr_right fun hlive => ⟨fun hslot => ?_, fun htaken => htaken.outsideSlot.slot⟩
    exact (hlive.slot_or_takenOut hfresh).resolve_left hslot
  refine ⟨hlive, fun i s hs hreached later => ?_⟩
  have hstopping : s.control.isStopping = true := by
    by_contra hnot
    exact hreached ((hlive i).mp ⟨s, hs, Bool.eq_false_iff.mpr hnot⟩)
  have hunderway : ∀ t ∈ stopped.started, t.Underway := by
    have hall := (keeps_underway settings role probe).follow hfresh (history ++ [.workerStops])
    rwa [follow_append] at hall
  have hhalted : stopped.HaltedAt i (calls s.journal) := ⟨s, hs, hstopping, hunderway s (List.mem_of_getElem? hs), rfl⟩
  obtain ⟨s', hs', hhalted'⟩ := hhalted.follow later
  exact ⟨s', hs', hhalted'.stopping, hhalted'.calls⟩

/-- A web worker whose supervisor is joined before it starts once more: the hook at the stop reaches the second supervisor and not the
first. -/
theorem stop_misses_first_of_two :
    let worker : Lifecycle Unit := { host := { memory := (), pid := 1 } }
    let watched := hooks {} .web (Probe.steady 1)
    let history := [.workerStarts, .steps 0, .joined, .workerStarts, .steps 1]
    let stopped := (follow watched history worker).after watched .workerStops
    worker.Fresh ∧ stopped.Live 0 ∧ ¬stopped.Live 1 := by
  intro worker watched history stopped
  obtain ⟨hlive, -⟩ := stop_misses_taken_out {} .web (Probe.steady 1) worker ⟨rfl, rfl⟩ history
  have htaken : TakenOut watched history worker 0 := ⟨[.workerStarts, .steps 0], [.workerStarts, .steps 1], rfl, rfl, _, rfl, rfl⟩
  have hslot : (follow watched history worker).slot = some 1 := rfl
  refine ⟨⟨rfl, rfl⟩, (hlive 0).mpr ⟨⟨_, rfl, rfl⟩, htaken⟩, fun h => ?_⟩
  exact ((hlive 1).mp h).2.outsideSlot.slot hslot

/-- A supervisor that is joined before the worker stops is not reached: it evaluates a monitor when it next wakes up. -/
theorem joined_goes_on :
    let worker : Lifecycle Unit := { host := { memory := (), pid := 1 } }
    let watched := hooks {} .web (Probe.steady 1)
    let stopped := follow watched [.workerStarts, .steps 0, .joined, .workerStops] worker
    worker.Fresh ∧ stopped.Live 0 ∧ stopped.started.map (fun s => (calls s.journal).length) = [0]
      ∧ (stopped.after watched (.steps 0)).started.map (fun s => (calls s.journal).length) = [1] :=
  ⟨⟨rfl, rfl⟩, ⟨_, rfl, rfl⟩, by decide +kernel, by decide +kernel⟩

end Lifecycle

end MemoryWatchdog
