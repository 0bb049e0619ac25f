import MemoryWatchdog.Proofs.History
import MemoryWatchdog.Proofs.WebWorker

/-!
# One supervisor at a time

A supervisor is needed as long as it is not stopping. Whatever happens to a worker, the only supervisor that is still needed is the
one in the slot, provided that nobody takes a needed one out of it. `one_live_supervisor` says this of every history, and what the hook
at the start of a worker does after it: it leaves a needed supervisor alone, leaves everything as it is if the settings are refused or
there is nothing to run on, and otherwise puts a new supervisor into the slot, which begins without strikes.
-/

namespace MemoryWatchdog

variable {σ ρ π : Type}

/-! ## Which settings are refused -/

/-- The settings of a web worker that would not sleep between two ticks; no others are refused. -/
def Settings.Refused (s : Settings) (role : Role) : Prop :=
  role = .web ∧ s.sleepSeconds = 0

/-- Settings are refused, for their interval, or make a watchdog. -/
theorem Settings.watchdog_of_returns {probe : Probe (Host π)} (hreturns : probe.Returns) (s : Settings) (role : Role) (h : Host π) :
    (s.Refused role ∧ (s.watchdog role probe h).ending = .returned (.error .zeroInterval)) ∨
      (¬ s.Refused role ∧ ∃ w, (s.watchdog role probe h).ending = .returned (.ok w)) := by
  cases role with
  | job =>
    right
    refine ⟨(fun hrefused => nomatch hrefused.1), s.jobWatchdog probe h.pid, ?_⟩
    rw [watchdog_job]
  | web =>
    by_cases hsleep : s.sleepSeconds = 0
    · left
      refine ⟨⟨rfl, hsleep⟩, ?_⟩
      have hfault : (s.webConfiguration probe h.pid (probe.unique h).1.baseline?).fault? = some .zeroInterval := by
        simp [Configuration.fault?, webConfiguration, configurationWith, hsleep, Duration.ofSeconds]
      simp only [watchdog, monitors, ending_webMonitors s (hreturns.unique h)]
      exact congrArg Ending.returned (Watchdog.ofConfiguration_eq_error_iff.mpr hfault)
    · right
      have hpos : 0 < s.sleepSeconds := UInt64.pos_iff_ne_zero.mpr hsleep
      exact ⟨fun hrefused => hsleep hrefused.2, _, s.ending_watchdog_web hpos (hreturns.unique h)⟩

/-- The settings of a role are refused if and only if it is a web worker's and its interval is zero. -/
theorem Settings.refused_iff {probe : Probe (Host π)} (hreturns : probe.Returns) (s : Settings) (role : Role) (h : Host π) :
    (∃ e, (s.watchdog role probe h).ending = .returned (.error e)) ↔ s.Refused role := by
  rcases s.watchdog_of_returns hreturns role h with ⟨hrefused, hmade⟩ | ⟨haccepted, w, hmade⟩
  · exact iff_of_true ⟨_, hmade⟩ hrefused
  · refine iff_of_false ?_ haccepted
    rintro ⟨e, he⟩
    rw [hmade] at he
    cases he

/-! ## What ended is stopping -/

namespace Watchdog

variable {w : Watchdog σ ρ}

/-- A watchdog whose start is its end was not idle. -/
theorem isStopping_of_start_ended {sc : Scene σ ρ} {outcome : Outcome} (hstate : sc.control.state ≠ .running)
    (h : (w.start sc).1 = .ended outcome) : (w.start sc).2.control.isStopping = true := by
  unfold start at h ⊢
  cases hstart : sc.control.start? with
  | some control => simp [hstart] at h
  | none =>
    have hidle : sc.control.state ≠ .idle := by simpa [Control.start?] using hstart
    have hstopped : sc.control.state = .stopped := by
      cases hcase : sc.control.state <;> simp_all
    simp [Control.isStopping, hstopped]

theorem isStopping_finish (outcome : Outcome) (sc : Scene σ ρ) : (w.finish outcome sc).2.control.isStopping = true := by
  simp only [finish, Scene.control_emit]
  cases w.reporter.stops (.stopped outcome.reason) sc.reporter with
  | false => simp
  | true => simp [Control.stopIf]

/-- A wake-up that ends a run ends its watchdog. -/
theorem isStopping_of_wake_ended {strikes : Strikes} {sc : Scene σ ρ} {outcome : Outcome}
    (h : (w.wake strikes sc).1 = .ended outcome) : (w.wake strikes sc).2.control.isStopping = true := by
  unfold wake at h ⊢
  split
  · exact isStopping_finish _ _
  · next hnot =>
    rw [if_neg hnot] at h
    split
    · next htick => simp [htick] at h
    · exact isStopping_finish _ _

end Watchdog

/-- What has ended is stopping, and what has not begun is not running. -/
structure Supervisor.Settled (s : Supervisor π) : Prop where
  ended : s.outcome? ≠ none → s.control.isStopping = true
  waiting : s.run = none → s.control.state ≠ .running

/-- What a step of its watchdog leaves is settled if the step stops a watchdog whose run it ends. -/
theorem Supervisor.settled_after (s : Supervisor π) (now : Nat) {step : Progress × Scene (Host π) Unit}
    (h : ∀ outcome, step.1 = .ended outcome → step.2.control.isStopping = true) : (s.after now step).Settled where
  ended hended := by
    rw [outcome?_after] at hended
    obtain ⟨outcome, houtcome⟩ := Option.ne_none_iff_exists'.mp hended
    exact h outcome (Progress.outcome?_eq_some_iff.mp houtcome)
  waiting hwaiting := nomatch hwaiting

/-- Every supervisor is settled, after any history. -/
theorem Lifecycle.keeps_settled (settings : Settings) (role : Role) (probe : Probe (Host π)) :
    Keeps settings role probe Supervisor.Settled where
  placed _ w _ :=
    { ended := fun hended => absurd rfl hended
      waiting := fun _ => nofun }
  stop s hs :=
    { ended := fun _ => Control.isStopping_stop _
      waiting := fun hwaiting => by
        rcases s.control.requestStop.state_closeIdle with hsame | ⟨-, hstopped⟩
        · rw [Control.stop, hsame]
          exact hs.waiting hwaiting
        · rw [Control.stop, hstopped]
          decide }
  begins s l hwaiting hs :=
    s.settled_after l.now fun _ hended => Watchdog.isStopping_of_start_ended (hs.waiting hwaiting) hended
  wakes s l strikes _ _ _ :=
    s.settled_after l.now fun _ hended => Watchdog.isStopping_of_wake_ended hended

namespace Lifecycle

variable {settings : Settings} {role : Role} {probe : Probe (Host π)}

/-! ## The one in the slot -/

/-- Whoever is not stopping is the one in the slot. -/
def OneLive (l : Lifecycle π) : Prop :=
  ∀ i, l.Live i → l.slot = some i

/-- Nobody takes a supervisor out of the slot that is still needed. -/
def JoinsStopping (hooks : Hooks (Lifecycle π)) : List (Happening π) → Lifecycle π → Prop
  | [], _ => True
  | x :: rest, l => (x = .joined → ¬ l.Supervised) ∧ JoinsStopping hooks rest (l.after hooks x)

/-- Without a needed supervisor in the slot, none is needed at all. -/
theorem OneLive.not_live {l : Lifecycle π} (h : l.OneLive) (hunsupervised : ¬ l.Supervised) (i : Nat) : ¬ l.Live i :=
  fun hlive => hunsupervised ⟨i, h i hlive, hlive⟩

/-- What makes nobody needed and leaves the slot keeps the one in the slot the only one. -/
theorem OneLive.of_live {l l' : Lifecycle π} (h : l.OneLive) (hslot : l'.slot = l.slot) (hlive : ∀ i, l'.Live i → l.Live i) :
    l'.OneLive := by
  intro i hi
  rw [hslot]
  exact h i (hlive i hi)

/-- The hook at the start only adds a supervisor, and only if none is needed. -/
theorem OneLive.start {l l' : Lifecycle π} {ending : Ending Unit} (h : l.OneLive)
    (hstarts : StartsFrom settings role probe l (ending, l')) : l'.OneLive := by
  obtain ⟨-, ⟨hsame, hslot⟩ | ⟨hunsupervised, w, -, hadded, hslot⟩⟩ := hstarts.unchanged_or_placed
  · refine h.of_live hslot fun i hlive => ?_
    rwa [Live, hsame] at hlive
  · rintro i ⟨s, hs, hlive⟩
    rw [hadded] at hs
    rw [hslot]
    rcases Nat.lt_trichotomy i l.started.length with hlt | rfl | hgt
    · rw [List.getElem?_append_left hlt] at hs
      exact absurd ⟨s, hs, hlive⟩ (h.not_live hunsupervised i)
    · rfl
    · rw [List.getElem?_eq_none (by simpa using Nat.succ_le_of_lt hgt)] at hs
      cases hs

/-- Every happening keeps the one in the slot the only one that is not stopping, unless somebody takes it out of the slot. -/
theorem OneLive.after {l : Lifecycle π} (h : l.OneLive) {x : Happening π} (hjoin : x = .joined → ¬ l.Supervised) :
    (l.after (hooks settings role probe) x).OneLive := by
  cases x with
  | workerStarts =>
    simp only [Lifecycle.after, start_hooks]
    exact h.start (startsFrom_startWatchdog settings role probe l)
  | workerStops =>
    simp only [Lifecycle.after, stop_hooks]
    obtain ⟨hstarted, hslot⟩ := started_stopWatchdog settings role probe l
    refine h.of_live hslot fun i hlive => live_of_stopSlot ?_
    simpa only [Live, hstarted] using hlive
  | asked i => exact h.of_live rfl fun _ => live_of_stopAt
  | steps i =>
    have hsteps := l.stepsFrom_step i
    refine h.of_live ?_ fun _ => hsteps.live
    simp only [Lifecycle.after]
    generalize l.step i = l' at hsteps
    cases hsteps <;> rfl
  | joined => exact fun i hlive => absurd hlive (h.not_live (hjoin rfl) i)
  | meanwhile => exact h

/-- So does any history in which nobody does that. -/
theorem OneLive.follow {l : Lifecycle π} (h : l.OneLive) {history : List (Happening π)}
    (hjoins : JoinsStopping (hooks settings role probe) history l) :
    (Lifecycle.follow (hooks settings role probe) history l).OneLive := by
  induction history generalizing l with
  | nil => exact h
  | cons x rest ih => exact ih (h.after hjoins.1) hjoins.2

/-- A worker without supervisors has none that is needed. -/
theorem Fresh.oneLive {fresh : Lifecycle π} (h : fresh.Fresh) : fresh.OneLive := by
  rintro i ⟨s, hs, -⟩
  rw [h.started] at hs
  cases hs

/-- After the hook at the stop nobody in the slot is needed. -/
theorem not_supervised_stop (settings : Settings) (role : Role) (probe : Probe (Host π)) (l : Lifecycle π) :
    ¬ (l.after (hooks settings role probe) .workerStops).Supervised := by
  obtain ⟨hstarted, hslot⟩ := started_stopWatchdog settings role probe l
  have hstopped := l.not_supervised_stopSlot
  simpa only [Supervised, Live, Lifecycle.after, stop_hooks, hstarted, hslot, slot_stopSlot] using hstopped

/-! ## A new supervisor -/

/-- In the slot is a new supervisor with a watchdog: nobody asked it to stop, it did nothing, and its run will begin without strikes. -/
structure NewlySupervised (l : Lifecycle π) (w : Watchdog (Host π) Unit) : Prop where
  current : l.current? = some { watchdog := w }
  supervised : l.Supervised
  begins : ∀ i, l.slot = some i → ((l.step i).started[i]?).bind Supervisor.run = some (.sleeping {} (l.now + w.period))

theorem newlySupervised_of_current {l : Lifecycle π} {w : Watchdog (Host π) Unit} (h : l.current? = some { watchdog := w }) :
    l.NewlySupervised w where
  current := h
  supervised := supervised_iff.mpr ⟨_, h, rfl⟩
  begins i hslot := by
    have hat : l.started[i]? = some { watchdog := w } := by simpa [current?, hslot] using h
    simp [step, hat, absorb, Run.start, Watchdog.start, Control.start?, sceneOf, Run.after]

/-- After any history in which nobody takes a needed supervisor out of the slot, the only supervisor that is not stopping is the one in
the slot, if there is one; those whose run has ended are stopping. The hook at the start then returns. It leaves the supervisors and
the slot alone if one is needed, and as well if the settings are refused, which are those of a web worker that would not sleep, or
there is nothing to run on. Otherwise it puts a new supervisor into the slot. -/
theorem one_live_supervisor (settings : Settings) (role : Role) {probe : Probe (Host π)} (hreturns : probe.Returns)
    (fresh : Lifecycle π) (hfresh : fresh.Fresh) (history : List (Happening π))
    (hjoins : JoinsStopping (hooks settings role probe) history fresh) :
    let l := follow (hooks settings role probe) history fresh
    let started := (hooks settings role probe).start l
    (∀ i, l.Live i → l.slot = some i)
      ∧ (∀ s ∈ l.started, s.outcome? ≠ none → s.control.isStopping = true)
      ∧ started.1 = .returned ()
      ∧ ((∃ e, (settings.watchdog role probe l.host).ending = .returned (.error e)) ↔ role = .web ∧ settings.sleepSeconds = 0)
      ∧ (l.Supervised ∨ (role = .web ∧ settings.sleepSeconds = 0) ∨ l.hasRuntime = false →
          started.2.slot = l.slot ∧ started.2.started = l.started)
      ∧ (¬ l.Supervised → ¬ (role = .web ∧ settings.sleepSeconds = 0) → l.hasRuntime = true →
          ∃ w, (settings.watchdog role probe l.host).ending = .returned (.ok w)
            ∧ started.2.started = l.started ++ [{ watchdog := w }]
            ∧ started.2.slot = some l.started.length
            ∧ started.2.NewlySupervised w) := by
  intro l started
  have hended := (keeps_settled settings role probe).follow hfresh history
  refine ⟨hfresh.oneLive.follow hjoins, fun s hs => (hended s hs).ended, ?_⟩
  have hmade := settings.watchdog_of_returns hreturns role l.host
  have hrefused := settings.refused_iff hreturns role l.host
  have hstarts : StartsFrom settings role probe l started := by
    simp only [started, start_hooks]
    exact startsFrom_startWatchdog settings role probe l
  clear_value started
  obtain ⟨ending, l'⟩ := started
  cases hstarts with
  | needless log supervised => exact ⟨rfl, hrefused, fun _ => ⟨rfl, rfl⟩, fun hunsupervised => absurd supervised hunsupervised⟩
  | panicked host log p _ made =>
    rcases hmade with ⟨-, hmade⟩ | ⟨-, w, hmade⟩ <;> rw [made] at hmade <;> cases hmade
  | refused host log e _ made =>
    exact ⟨rfl, hrefused, fun _ => ⟨rfl, rfl⟩, fun _ haccepted => absurd (hrefused.mp ⟨e, made⟩) haccepted⟩
  | stranded host log w _ _ missing =>
    exact ⟨rfl, hrefused, fun _ => ⟨rfl, rfl⟩, fun _ _ present => absurd present (by simp [missing])⟩
  | placed host log w hunsupervised made present =>
    have hnotRefused : ¬ (role = .web ∧ settings.sleepSeconds = 0) := by
      intro hrefuse
      obtain ⟨e, he⟩ := hrefused.mpr hrefuse
      rw [made] at he
      cases he
    refine ⟨rfl, hrefused, ?_, fun _ _ _ => ⟨w, made, rfl, rfl, newlySupervised_of_current ?_⟩⟩
    · rintro (hsupervised | hrefuse | hmissing)
      · exact absurd hsupervised hunsupervised
      · exact absurd hrefuse hnotRefused
      · rw [present] at hmissing
        cases hmissing
    · simp [current?]

/-- A web worker that was stopped and joined is supervised by a second watchdog when it starts again. -/
theorem web_supervised_anew :
    let worker : Lifecycle Unit := { host := { memory := (), pid := 1 } }
    let watched := hooks {} .web (Probe.steady 1)
    let l := follow watched [.workerStarts, .steps 0, .workerStops, .joined] worker
    (∀ i, ¬ l.Live i) ∧ (watched.start l).2.slot = some 1 ∧ ∃ w, (watched.start l).2.NewlySupervised w := by
  intro worker watched l
  have hunsupervised : ¬ l.Supervised := by
    rintro ⟨i, hslot, -⟩
    cases hslot
  have hjoins : JoinsStopping watched [.workerStarts, .steps 0, .workerStops, .joined] worker :=
    ⟨nofun, nofun, nofun, fun _ => not_supervised_stop _ _ _ _, trivial⟩
  obtain ⟨hslot, -, -, -, -, hplaced⟩ :=
    one_live_supervisor {} .web (Probe.returns_steady 1) worker ⟨rfl, rfl⟩ _ hjoins
  obtain ⟨w, -, -, hnew, hsupervised⟩ := hplaced hunsupervised (by decide) rfl
  have hone : l.started.length = 1 := rfl
  exact ⟨fun i hlive => hunsupervised ⟨i, hslot i hlive, hlive⟩, hnew.trans (congrArg some hone), w, hsupervised⟩

end Lifecycle

end MemoryWatchdog
