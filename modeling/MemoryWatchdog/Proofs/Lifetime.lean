import MemoryWatchdog.Proofs.Interleaving

/-!
# The life of a watchdog

Whatever turns callers and stoppers take, a watchdog is idle, then running, then stopped, or it is stopped without ever running. The
invariant (`System.Consistent`) ties the places of the calls to the state: a call between the guard and the end finds the watchdog
running, one that ended it finds it stopped, and no two calls have passed the guard. From it follows what is still done once a stop was
requested, and once the watchdog is stopped: no more than what the place of the one call that passed still grants
(`exists_granted`).
-/

namespace MemoryWatchdog

variable {σ ρ : Type}

/-! ## The order of states -/

/-- Which state may come next after a state. -/
inductive LoopState.Next : LoopState → LoopState → Prop
  | start : Next .idle .running
  | finish : Next .running .stopped
  | close : Next .idle .stopped

namespace Control

/-- What a step can do to the control. -/
inductive Step (c : Control) : Control → Prop
  | start (idle : c.state = .idle) : Step c { c with state := .running }
  | request : Step c c.requestStop
  | close : Step c c.closeIdle
  | stop (asked : Bool) : Step c (c.stopIf asked)
  | finish : Step c c.finish

theorem Step.refl (c : Control) : Step c c :=
  .stop false

/-- Unless a step starts or ends the watchdog, it changes the state at most from idle to stopped. -/
theorem state_closeIdle (c : Control) : c.closeIdle.state = c.state ∨ (c.state = .idle ∧ c.closeIdle.state = .stopped) := by
  unfold closeIdle
  split
  · next h => exact .inr ⟨h, rfl⟩
  · exact .inl rfl

/-- The same holds of a stop that is asked for or not. -/
theorem state_stopIf_cases (c : Control) (asked : Bool) :
    (c.stopIf asked).state = c.state ∨ (c.state = .idle ∧ (c.stopIf asked).state = .stopped) := by
  cases asked with
  | false => exact .inl rfl
  | true => exact state_closeIdle c.requestStop

/-- A step leaves the state or takes it to a next one. -/
theorem Step.next {c d : Control} (h : Step c d) : d.state = c.state ∨ c.state.Next d.state := by
  cases h with
  | start idle => exact .inr (by rw [idle]; exact .start)
  | request => exact .inl rfl
  | close =>
    rcases state_closeIdle c with h | ⟨hidle, hstopped⟩
    · exact .inl h
    · exact .inr (by rw [hidle, hstopped]; exact .close)
  | stop asked =>
    rcases state_stopIf_cases c asked with h | ⟨hidle, hstopped⟩
    · exact .inl h
    · exact .inr (by rw [hidle, hstopped]; exact .close)
  | finish =>
    cases hs : c.state with
    | idle => exact .inr .close
    | running => exact .inr .finish
    | stopped => exact .inl rfl

/-- A watchdog that is stopped stays so. -/
theorem Step.stopped {c d : Control} (h : Step c d) (hs : c.state = .stopped) : d.state = .stopped := by
  rcases h.next with hd | hd
  · rw [hd, hs]
  · rw [hs] at hd
    cases hd

/-- A request to stop is never taken back. -/
theorem Step.stopRequested {c d : Control} (h : Step c d) (hr : c.stopRequested = true) : d.stopRequested = true := by
  cases h with
  | start idle => exact hr
  | request => rfl
  | close =>
    unfold closeIdle
    split <;> exact hr
  | stop asked =>
    cases asked with
    | false => exact hr
    | true => exact stopRequested_stop c
  | finish => exact hr

/-- So a watchdog that is stopping stays so. -/
theorem Step.isStopping {c d : Control} (h : Step c d) (hs : c.isStopping = true) : d.isStopping = true := by
  simp only [Control.isStopping, Bool.or_eq_true, decide_eq_true_eq] at hs ⊢
  exact hs.imp h.stopRequested h.stopped

end Control

/-! ## The places of one call -/

/-- The states in which a call of a phase can find the watchdog. -/
def Place.Phase.Allows : Place.Phase → LoopState → Prop
  | .outside, _ => True
  | .inside, state => state = .running
  | .ended, state => state = .stopped

/-- A call that has not passed the guard is outside. -/
theorem Place.outside_of_not_passed {p : Place σ} (h : ¬ p.Passed) : p.phase = .outside :=
  not_not.mp h

/-- A call outside may find the watchdog in any state. -/
theorem Place.allows_of_not_passed {p : Place σ} (h : ¬ p.Passed) (state : LoopState) : p.phase.Allows state := by
  rw [outside_of_not_passed h]
  trivial

/-- A call that has passed the guard finds no idle watchdog where it is allowed to be. -/
theorem Place.Passed.ne_idle {p : Place σ} {state : LoopState} (h : p.Passed) (hallows : p.phase.Allows state) : state ≠ .idle := by
  cases hp : p.phase with
  | outside => exact absurd hp h
  | inside =>
    rw [hp] at hallows
    simp [show state = .running from hallows]
  | ended =>
    rw [hp] at hallows
    simp [show state = .stopped from hallows]

namespace Watchdog

variable {w : Watchdog σ ρ}

/-- Each step of a call does one thing at most to the control. -/
theorem control_move (w : Watchdog σ ρ) (p : Place σ) (sc : Scene σ ρ) : sc.control.Step (w.move p sc).2.control := by
  cases p with
  | called =>
    cases h : sc.control.start? with
    | none => simpa [move, start, h] using Control.Step.refl sc.control
    | some control =>
      obtain ⟨hidle, rfl⟩ := Control.start?_eq_some_iff.mp h
      simpa [move, h] using Control.Step.start hidle
  | asleep strikes =>
    simp only [move]
    split <;> exact .refl _
  | visiting rest strikes breach =>
    rcases rest with _ | ⟨e, rest⟩
    · cases breach <;> exact .refl _
    · exact .stop _
  | requesting b =>
    simp only [move]
    split <;> exact .refl _
  | leaving outcome => exact .finish
  | refused | returned outcome => exact .refl _
  | _ => exact .stop _

/-- A call outside passes the guard if the watchdog is idle, and else it is turned away and leaves nothing but a line in the log. -/
theorem move_of_outside {p : Place σ} (h : p.phase = .outside) (sc : Scene σ ρ) :
    (sc.control.state = .idle ∧ (w.move p sc).1 = .entered ∧ (w.move p sc).2.control.state = .running) ∨
      ((w.move p sc).1 = .refused ∧ (w.move p sc).2 = { sc with log := (w.move p sc).2.log } ∧ w.doing p sc = []) := by
  cases p with
  | called =>
    cases hstart : sc.control.start? with
    | none => exact .inr (by simp [move, start, doing, hstart])
    | some control =>
      obtain ⟨hidle, rfl⟩ := Control.start?_eq_some_iff.mp hstart
      exact .inl (by simp [move, hstart, hidle])
  | refused => exact .inr ⟨rfl, rfl, rfl⟩
  | _ => cases h

/-- A call inside stays there, in a watchdog that runs, until it ends the watchdog. -/
theorem move_of_inside {p : Place σ} (h : p.phase = .inside) {sc : Scene σ ρ} (hrunning : sc.control.state = .running) :
    ((w.move p sc).1.phase = .inside ∧ (w.move p sc).2.control.state = .running) ∨
      ((w.move p sc).1.phase = .ended ∧ (w.move p sc).2.control.state = .stopped) := by
  have hasked : ∀ asked, (sc.control.stopIf asked).state = .running := fun asked => by
    rw [Control.state_stopIf asked (by simp [hrunning]), hrunning]
  cases p with
  | called | refused | left outcome | returned outcome => cases h
  | asleep strikes =>
    simp only [move]
    split <;> exact .inl ⟨rfl, hrunning⟩
  | visiting rest strikes breach =>
    rcases rest with _ | ⟨e, rest⟩
    · cases breach <;> exact .inl ⟨rfl, hrunning⟩
    · exact .inl ⟨rfl, hasked _⟩
  | requesting b =>
    simp only [move]
    split <;> exact .inl ⟨rfl, hrunning⟩
  | leaving outcome => exact .inr ⟨rfl, rfl⟩
  | _ => exact .inl ⟨rfl, hasked _⟩

/-- A call that has ended the watchdog only has to report that. -/
theorem phase_move_of_ended {p : Place σ} (h : p.phase = .ended) (sc : Scene σ ρ) : (w.move p sc).1.phase = .ended := by
  cases p with
  | left outcome | returned outcome => rfl
  | _ => cases h

/-- After its step a call is where the state of the watchdog allows it to be. -/
theorem allows_move {p : Place σ} {sc : Scene σ ρ} (h : p.phase.Allows sc.control.state) :
    (w.move p sc).1.phase.Allows (w.move p sc).2.control.state := by
  cases hp : p.phase with
  | outside =>
    rcases move_of_outside (w := w) hp sc with ⟨-, hentered, hrunning⟩ | ⟨hrefused, -⟩
    · rw [hentered, hrunning]
      rfl
    · rw [hrefused]
      trivial
  | inside =>
    rw [hp] at h
    rcases move_of_inside (w := w) hp h with ⟨hphase, hstate⟩ | ⟨hphase, hstate⟩
    · rw [hphase, hstate]
      rfl
    · rw [hphase, hstate]
      rfl
  | ended =>
    rw [hp] at h
    rw [phase_move_of_ended hp]
    exact (control_move w p sc).stopped h

/-- A call that has passed the guard stays so. -/
theorem passed_move {p : Place σ} (h : p.Passed) {sc : Scene σ ρ} (hallows : p.phase.Allows sc.control.state) :
    (w.move p sc).1.Passed := by
  unfold Place.Passed
  cases hp : p.phase with
  | outside => exact absurd hp h
  | inside =>
    rw [hp] at hallows
    rcases move_of_inside (w := w) hp hallows with ⟨hphase, -⟩ | ⟨hphase, -⟩ <;> simp [hphase]
  | ended => simp [phase_move_of_ended hp]

end Watchdog

/-! ## Any order of turns -/

namespace System

variable {w : Watchdog σ ρ} {s : System σ ρ}

/-- Each call is where the state of the watchdog allows it to be, and at most one has passed the guard. -/
structure Consistent (s : System σ ρ) : Prop where
  allows : ∀ i, (s.place i).phase.Allows s.scene.control.state
  unique : ∀ i j, (s.place i).Passed → (s.place j).Passed → i = j

/-- A system in which nobody has moved yet is consistent. -/
theorem consistent_initial (start : Scene σ ρ) : Consistent { scene := start } :=
  ⟨fun _ => trivial, fun _ _ h => absurd rfl h⟩

/-- A step that moves no call keeps a system consistent, if it changes only the state of an idle watchdog. -/
theorem Consistent.of_place_eq {t : System σ ρ} (h : s.Consistent) (hplace : t.place = s.place)
    (hstate : s.scene.control.state ≠ .idle → t.scene.control.state = s.scene.control.state) : t.Consistent := by
  refine ⟨fun i => ?_, fun i j hi hj => h.unique i j (by rwa [hplace] at hi) (by rwa [hplace] at hj)⟩
  rw [hplace]
  by_cases hi : (s.place i).Passed
  · rw [hstate (hi.ne_idle (h.allows i))]
    exact h.allows i
  · exact Place.allows_of_not_passed hi _

/-- A turn of a stop moves no call, and of what is shared it changes at most the control. -/
theorem step_stopper (w : Watchdog σ ρ) (s : System σ ρ) (j : Nat) :
    (s.step w (.stopper j)).place = s.place ∧
      ∃ control, (s.step w (.stopper j)).scene = { s.scene with control } ∧
        (control = s.scene.control ∨ control = s.scene.control.requestStop ∨ control = s.scene.control.closeIdle) := by
  cases hj : s.stopping j with
  | called => exact ⟨by simp [step, hj], _, by simp only [step, hj], .inr (.inl rfl)⟩
  | requested => exact ⟨by simp [step, hj], _, by simp only [step, hj], .inr (.inr rfl)⟩
  | returned => exact ⟨by simp [step, hj], _, by simp only [step, hj], .inl rfl⟩

theorem place_step_self (w : Watchdog σ ρ) (s : System σ ρ) (i : Nat) :
    (s.step w (.caller i)).place i = (w.move (s.place i) s.scene).1 :=
  Function.update_self ..

theorem place_step_of_ne (w : Watchdog σ ρ) (s : System σ ρ) {i j : Nat} (h : j ≠ i) :
    (s.step w (.caller i)).place j = s.place j :=
  Function.update_of_ne h ..

/-- While one call has passed the guard, every other one is outside. -/
theorem Consistent.outside_of_ne (h : s.Consistent) {i j : Nat} (hj : (s.place j).Passed) (hne : j ≠ i) :
    (s.place i).phase = .outside :=
  Place.outside_of_not_passed fun hi => hne (h.unique j i hj hi)

/-- While one call has passed the guard, the turn of any other leaves the state of the watchdog as it is. -/
theorem Consistent.state_step_caller (h : s.Consistent) {i j : Nat} (hj : (s.place j).Passed) (hne : j ≠ i) :
    (s.step w (.caller i)).scene.control.state = s.scene.control.state := by
  rcases Watchdog.move_of_outside (w := w) (h.outside_of_ne hj hne) s.scene with ⟨hidle, -⟩ | ⟨-, hscene, -⟩
  · exact absurd hidle (hj.ne_idle (h.allows j))
  · have hcontrol : (w.move (s.place i) s.scene).2.control = s.scene.control := by rw [hscene]
    exact congrArg Control.state hcontrol

/-- The turn of a call keeps a system consistent. -/
theorem Consistent.step_caller (h : s.Consistent) (i : Nat) : (s.step w (.caller i)).Consistent := by
  constructor
  · intro j
    by_cases hji : j = i
    · subst hji
      rw [place_step_self]
      exact Watchdog.allows_move (h.allows j)
    · rw [place_step_of_ne w s hji]
      by_cases hj : (s.place j).Passed
      · rw [h.state_step_caller hj hji]
        exact h.allows j
      · exact Place.allows_of_not_passed hj _
  · -- A call can pass the guard in its turn only if none has passed before.
    have hother : ∀ j, j ≠ i → (s.place j).Passed → ¬ ((s.step w (.caller i)).place i).Passed := by
      intro j hji hj hpassed
      rw [place_step_self] at hpassed
      rcases Watchdog.move_of_outside (w := w) (h.outside_of_ne hj hji) s.scene with ⟨hidle, -⟩ | ⟨hrefused, -⟩
      · exact hj.ne_idle (h.allows j) hidle
      · rw [hrefused] at hpassed
        exact hpassed rfl
    intro j k hj hk
    by_cases hji : j = i
    · by_cases hki : k = i
      · rw [hji, hki]
      · rw [place_step_of_ne w s hki] at hk
        subst hji
        exact absurd hj (hother k hki hk)
    · by_cases hki : k = i
      · rw [place_step_of_ne w s hji] at hj
        subst hki
        exact absurd hk (hother j hji hj)
      · rw [place_step_of_ne w s hji] at hj
        rw [place_step_of_ne w s hki] at hk
        exact h.unique j k hj hk

/-- So does any turn. -/
theorem Consistent.step (h : s.Consistent) (turn : Turn σ) : (s.step w turn).Consistent := by
  cases turn with
  | caller i => exact h.step_caller i
  | stopper j =>
    obtain ⟨hplace, control, hscene, hcontrol⟩ := step_stopper w s j
    refine h.of_place_eq hplace fun hidle => ?_
    rw [hscene]
    rcases hcontrol with rfl | rfl | rfl
    · rfl
    · rfl
    · exact (Control.state_closeIdle s.scene.control).resolve_right fun hc => hidle hc.1
  | others i => exact h.of_place_eq rfl fun hidle => Interlude.state_act i hidle

/-- So does any order of turns. -/
theorem Consistent.follow (h : s.Consistent) (turns : List (Turn σ)) : (follow w turns s).Consistent := by
  induction turns generalizing s with
  | nil => exact h
  | cons turn turns ih => exact ih (h.step turn)

/-- Each turn does one thing at most to the control. -/
theorem control_step (w : Watchdog σ ρ) (s : System σ ρ) (turn : Turn σ) :
    s.scene.control.Step (s.step w turn).scene.control := by
  cases turn with
  | caller i => exact w.control_move (s.place i) s.scene
  | stopper j =>
    obtain ⟨-, control, hscene, hcontrol⟩ := step_stopper w s j
    rw [hscene]
    rcases hcontrol with rfl | rfl | rfl
    · exact .refl _
    · exact .request
    · exact .close
  | others i => exact .stop _

/-- What every step to the control keeps lasts through any turns. -/
theorem control_follow {lasts : Control → Prop} (hlasts : ∀ c d, Control.Step c d → lasts c → lasts d) (turns : List (Turn σ))
    (h : lasts s.scene.control) : lasts (follow w turns s).scene.control := by
  induction turns generalizing s with
  | nil => exact h
  | cons turn turns ih => exact ih (hlasts _ _ (control_step w s turn) h)

/-- The acts of a turn. Only calls to run the watchdog act. -/
def doing (w : Watchdog σ ρ) (s : System σ ρ) : Turn σ → List Act
  | .caller i => w.doing (s.place i) s.scene
  | _ => []

/-- A turn notes what it does behind what was noted before. -/
theorem history_step (w : Watchdog σ ρ) (s : System σ ρ) (turn : Turn σ) :
    (s.step w turn).scene.history = s.scene.history ++ s.doing w turn := by
  cases turn with
  | caller i => exact w.history_move (s.place i) s.scene
  | stopper j =>
    obtain ⟨-, control, hscene, -⟩ := step_stopper w s j
    rw [hscene]
    simp [doing, Scene.history]
  | others i => simp [step, doing, Scene.history, Interlude.act]

/-- A call that has passed the guard stays so. -/
theorem Consistent.passed_follow (h : s.Consistent) {i : Nat} (hi : (s.place i).Passed) (turns : List (Turn σ)) :
    ((System.follow w turns s).place i).Passed := by
  induction turns generalizing s with
  | nil => exact hi
  | cons turn turns ih =>
    refine ih (h.step turn) ?_
    cases turn with
    | caller j =>
      by_cases hij : i = j
      · subst hij
        rw [place_step_self]
        exact Watchdog.passed_move hi (h.allows i)
      · rwa [place_step_of_ne w s hij]
    | stopper j => rwa [(step_stopper w s j).1]
    | others i => exact hi

/-! ## What is still done -/

/-- While something lasts in the control, the acts of one kind that are still done are no more than what the place of one call
grants: each step of a call takes what it does from the grant, and a call outside has none. -/
theorem exists_granted {β : Type} {view : Act → Option β} {grant : Place σ → List β} {lasts : Control → Prop}
    (hlasts : ∀ c d, Control.Step c d → lasts c → lasts d) (houtside : ∀ p, p.phase = .outside → grant p = [])
    (hmove : ∀ p sc, p.phase.Allows sc.control.state → lasts sc.control →
      (w.doing p sc).filterMap view ++ grant (w.move p sc).1 <+: grant p)
    (h : s.Consistent) (hc : lasts s.scene.control) (turns : List (Turn σ)) :
    ∃ acts i, (follow w turns s).scene.history = s.scene.history ++ acts ∧ acts.filterMap view <+: grant (s.place i) := by
  -- The induction needs a common bound on all grants, since the turns may go to any call.
  have hbound : ∀ granted, (∀ i, grant (s.place i) <+: granted) →
      ∃ acts, (follow w turns s).scene.history = s.scene.history ++ acts ∧ acts.filterMap view <+: granted := by
    induction turns generalizing s with
    | nil => exact fun granted _ => ⟨[], by simp [follow], by simp⟩
    | cons turn turns ih =>
      intro granted hgranted
      have hnext := ih (h.step turn) (hlasts _ _ (control_step w s turn) hc)
      obtain ⟨left, hleft, hall⟩ : ∃ left, (s.doing w turn).filterMap view ++ left = granted ∧
          ∀ i, grant ((s.step w turn).place i) <+: left := by
        cases turn with
        | caller i =>
          have hmine := (hmove (s.place i) s.scene (h.allows i) hc).trans (hgranted i)
          obtain ⟨left, hleft⟩ := (List.prefix_append _ _).trans hmine
          refine ⟨left, hleft, fun j => ?_⟩
          by_cases hji : j = i
          · subst hji
            rw [place_step_self]
            rw [← hleft] at hmine
            exact (List.prefix_append_right_inj _).mp hmine
          · rw [place_step_of_ne w s hji]
            by_cases hj : (s.place j).Passed
            · -- The call whose turn it is never passed the guard, so it does nothing of this kind.
              have hnone := hmove (s.place i) s.scene (h.allows i) hc
              rw [houtside _ (h.outside_of_ne hj hji), List.prefix_nil, List.append_eq_nil_iff] at hnone
              have hsame : left = granted := by
                rw [← hleft, hnone.1, List.nil_append]
              rw [hsame]
              exact hgranted j
            · rw [houtside _ (Place.outside_of_not_passed hj)]
              exact List.nil_prefix
        | stopper j => exact ⟨granted, rfl, by rwa [(step_stopper w s j).1]⟩
        | others i => exact ⟨granted, rfl, hgranted⟩
      obtain ⟨acts, hhistory, hview⟩ := hnext left hall
      refine ⟨s.doing w turn ++ acts, ?_, ?_⟩
      · rw [← List.append_assoc, ← history_step]
        exact hhistory
      · rw [List.filterMap_append, ← hleft]
        exact (List.prefix_append_right_inj _).mpr hview
  by_cases hany : ∃ i, (s.place i).Passed
  · obtain ⟨i, hi⟩ := hany
    obtain ⟨acts, hhistory, hview⟩ := hbound (grant (s.place i)) fun j => by
      by_cases hj : (s.place j).Passed
      · obtain rfl := h.unique j i hj hi
        exact List.prefix_refl _
      · rw [houtside _ (Place.outside_of_not_passed hj)]
        exact List.nil_prefix
    exact ⟨acts, i, hhistory, hview⟩
  · obtain ⟨acts, hhistory, hview⟩ := hbound [] fun j => by
      have hnothing := houtside _ (Place.outside_of_not_passed fun hj => hany ⟨j, hj⟩)
      exact List.prefix_nil.mpr hnothing
    exact ⟨acts, 0, hhistory, hview.trans List.nil_prefix⟩

end System

/-- The monitor that an act evaluates. -/
def Act.evaluated? : Act → Option String
  | .evaluated monitor _ => some monitor
  | _ => none

/-- The monitors that a tick under way has not called yet. -/
def Place.ahead : Place σ → List String
  | .visiting rest _ _ => rest.names
  | .telling _ rest _ _ => rest.names
  | _ => []

/-- What a call has still to do that has ended the watchdog: to report the end, if it has not yet. -/
def Place.lastWords : Place σ → List Act
  | .left outcome => [.reported (.stopped outcome.reason)]
  | _ => []

/-- A call outside is in no tick. -/
theorem Place.ahead_of_outside {p : Place σ} (h : p.phase = .outside) : p.ahead = [] := by
  cases p with
  | visiting rest strikes breach | telling x rest strikes breach => cases h
  | _ => rfl

theorem Place.lastWords_of_outside {p : Place σ} (h : p.phase = .outside) : p.lastWords = [] := by
  cases p with
  | left outcome => cases h
  | _ => rfl

namespace Watchdog

/-- The first move of a call passes the guard if and only if the watchdog is idle. -/
theorem passed_move_called_iff {w : Watchdog σ ρ} {sc : Scene σ ρ} : (w.move .called sc).1.Passed ↔ sc.control.state = .idle := by
  by_cases h : sc.control.state = .idle
  · simp [move, Control.start?, h, Place.Passed, Place.phase]
  · simp [move, Control.start?, h, Place.Passed, Place.phase]

/-- A call whose step leaves it outside is turned away, and it leaves nothing but a line in the log. -/
theorem refused_of_not_passed {w : Watchdog σ ρ} {p : Place σ} {sc : Scene σ ρ} (hallows : p.phase.Allows sc.control.state)
    (h : ¬ (w.move p sc).1.Passed) :
    (w.move p sc).1 = .refused ∧ (w.move p sc).2 = { sc with log := (w.move p sc).2.log } := by
  have houtside := Place.outside_of_not_passed fun hp => h (passed_move hp hallows)
  rcases move_of_outside (w := w) houtside sc with ⟨-, hentered, -⟩ | ⟨hrefused, hscene, -⟩
  · rw [hentered] at h
    exact absurd (by simp [Place.Passed, Place.phase]) h
  · exact ⟨hrefused, hscene⟩

/-- If a stop is requested, each step evaluates only what is ahead in the tick under way, and no wake-up begins another tick. -/
theorem ahead_move (w : Watchdog σ ρ) (p : Place σ) (sc : Scene σ ρ) (h : sc.control.stopRequested = true) :
    (w.doing p sc).filterMap Act.evaluated? ++ (w.move p sc).1.ahead <+: p.ahead := by
  cases p with
  | called => cases hstart : sc.control.start? <;> simp [doing, move, hstart, Place.ahead]
  | asleep strikes => simp [doing, move, h, Place.ahead]
  | visiting rest strikes breach =>
    cases rest with
    | nil => cases breach <;> simp [doing, move, Place.ahead]
    | cons e rest => exact List.prefix_refl _
  | telling x rest strikes breach => exact List.prefix_refl _
  | requesting b => cases hwrite : w.writeHeapDumps <;> simp [doing, move, hwrite, Act.evaluated?, Place.ahead]
  | _ => exact List.prefix_refl _

/-- In a watchdog that is stopped each step does only what is left of the last words. -/
theorem lastWords_move (w : Watchdog σ ρ) (p : Place σ) (sc : Scene σ ρ) (hallows : p.phase.Allows sc.control.state)
    (h : sc.control.state = .stopped) : (w.doing p sc).filterMap some ++ (w.move p sc).1.lastWords <+: p.lastWords := by
  rw [h] at hallows
  cases p with
  | called => simp [doing, move, Control.start?, h, Place.lastWords]
  | refused | left outcome | returned outcome => exact List.prefix_refl _
  | _ => cases hallows

/-- The life of a watchdog, whatever turns the calls to run it, the stops and the rest of the process take. At any point `s` of any
order of turns, and at any later point `t`:
each next turn leaves the state or takes it from idle to running, from running to stopped or from idle to stopped, and a watchdog that
is stopped stays so;
at most one call ever passes the guard, a first turn passes it exactly if the watchdog is idle, and a call whose turn does not pass it
has returned that the watchdog is stopped and has left nothing but a line in the log;
a watchdog that is stopping stays so;
if a stop is requested, each wake-up goes on to end the watchdog, and no monitors are evaluated any more but those that are ahead in a
tick under way, whatever calls still start;
and if the watchdog is stopped nothing is done any more, but for the report of its end if that is still due. -/
theorem lifetime_of_any_turns (w : Watchdog σ ρ) (start : Scene σ ρ) (before after : List (Turn σ)) :
    let s := System.follow w before { scene := start }
    let t := System.follow w after s
    (∀ turn, (s.step w turn).scene.control.state = s.scene.control.state ∨
      s.scene.control.state.Next (s.step w turn).scene.control.state) ∧
    (s.scene.control.state = .stopped → t.scene.control.state = .stopped) ∧
    (∀ i j, (s.place i).Passed → (t.place j).Passed → i = j) ∧
    (∀ j, s.place j = .called → (((s.step w (.caller j)).place j).Passed ↔ s.scene.control.state = .idle)) ∧
    (∀ j, ¬ ((s.step w (.caller j)).place j).Passed →
      ((s.step w (.caller j)).place j).outcome? = some .stopped ∧
        (s.step w (.caller j)).scene = { s.scene with log := (s.step w (.caller j)).scene.log }) ∧
    (s.scene.control.isStopping = true → t.scene.control.isStopping = true) ∧
    (s.scene.control.stopRequested = true →
      (∀ i strikes, s.place i = .asleep strikes → (s.step w (.caller i)).place i = .leaving .stopped) ∧
      ∃ acts i, t.scene.history = s.scene.history ++ acts ∧ acts.filterMap Act.evaluated? <+: (s.place i).ahead) ∧
    (s.scene.control.state = .stopped →
      ∃ acts i, t.scene.history = s.scene.history ++ acts ∧ acts <+: (s.place i).lastWords) := by
  intro s t
  have hs : s.Consistent := (System.consistent_initial start).follow before
  have ht : t.Consistent := hs.follow after
  refine ⟨fun turn => (System.control_step w s turn).next, System.control_follow (fun _ _ => Control.Step.stopped) after,
    fun i j hi hj => ht.unique i j (hs.passed_follow hi after) hj, fun j hj => ?_, fun j hj => ?_,
    System.control_follow (fun _ _ => Control.Step.isStopping) after, fun hrequested => ?_, fun hstopped => ?_⟩
  · rw [System.place_step_self, hj]
    exact passed_move_called_iff
  · rw [System.place_step_self] at hj ⊢
    obtain ⟨hrefused, hscene⟩ := refused_of_not_passed (hs.allows j) hj
    rw [hrefused]
    exact ⟨rfl, hscene⟩
  · refine ⟨fun i strikes hi => ?_, ?_⟩
    · rw [System.place_step_self, hi]
      simp [move, hrequested]
    · exact System.exists_granted (fun _ _ => Control.Step.stopRequested) (fun _ => Place.ahead_of_outside)
        (fun p sc _ h => ahead_move w p sc h) hs hrequested after
  · obtain ⟨acts, i, hhistory, hacts⟩ := System.exists_granted (fun _ _ => Control.Step.stopped)
      (fun _ => Place.lastWords_of_outside) (lastWords_move w) hs hstopped after
    exact ⟨acts, i, hhistory, by simpa using hacts⟩

/-- A stop is under way: it has noted its request, but not yet looked at the state, when the first of two calls passes the guard. The
second is turned away; the first wakes up, calls no monitor and ends the watchdog. -/
theorem pair_stopped_while_starting :
    let s := System.follow (pair fun _ => false) [.stopper 0] { scene := .beginning }
    let t := System.follow (pair fun _ => false)
      [.caller 0, .stopper 0, .caller 1, .caller 0, .caller 0, .caller 0, .caller 0, .caller 0] s
    s.scene.control.state = .idle ∧ s.scene.control.stopRequested = true ∧
      (t.place 0).outcome? = some .stopped ∧ (t.place 1).outcome? = some .stopped ∧
      ∃ acts, t.scene.history = s.scene.history ++ acts ∧ acts.filterMap Act.evaluated? = [] := by
  intro s t
  have h := lifetime_of_any_turns (pair fun _ => false) .beginning [.stopper 0]
    [.caller 0, .stopper 0, .caller 1, .caller 0, .caller 0, .caller 0, .caller 0, .caller 0]
  obtain ⟨acts, i, hhistory, hacts⟩ := (h.2.2.2.2.2.2.1 rfl).2
  exact ⟨rfl, rfl, rfl, rfl, acts, hhistory, List.prefix_nil.mp hacts⟩

end Watchdog

end MemoryWatchdog
