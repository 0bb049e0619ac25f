import Mathlib.Data.List.Forall2
import MemoryWatchdog.Proofs.SideBySide

/-!
# Reports that fail

What becomes of its reports is of no consequence to a watchdog. A run with one reporter and the run with another, whatever each answers
to each report, agree in everything but the states of the reporters and what is logged about reports
(`reports_never_interfere`).
-/

namespace MemoryWatchdog

variable {σ ρ ρ' : Type}

/-- The same watchdog, reporting to another reporter. -/
def Watchdog.withReporter (w : Watchdog σ ρ) (r : Reporter ρ') : Watchdog σ ρ' where
  handler := w.handler
  interval := w.interval
  monitors := w.monitors
  writeHeapDumps := w.writeHeapDumps
  reporter := r
  interval_ne_zero := w.interval_ne_zero
  names_nodup := w.names_nodup

theorem Handler.Variant.refl (h : Handler σ) : h.Variant h :=
  ⟨rfl, fun _ => .refl _⟩

/-- Whatever may be replaced, a watchdog is a variant of itself with another reporter, if the two ask for stops alike. -/
theorem Watchdog.variant_withReporter (replaces : Finding → Finding → Prop) {alike : ρ → ρ' → Prop} (w : Watchdog σ ρ)
    {r : Reporter ρ'} (h : w.reporter.AskAlike alike r) : w.Variant replaces alike (w.withReporter r) where
  interval := rfl
  writeHeapDumps := rfl
  monitors := List.forall₂_same.mpr fun e _ => .refl replaces e
  handler := .refl _
  reporter := h

/-- One event tells of how a call ended. -/
theorem Handler.Tells.event_eq {h : Handler σ} {monitor : String} {ending : Ending (Except HandlerError Unit)} {event₁ event₂ : Event}
    (tells₁ : h.Tells monitor ending event₁) (tells₂ : h.Tells monitor ending event₂) : event₁ = event₂ := by
  cases tells₁ <;> cases tells₂ <;> rfl

/-- If no finding may be replaced and the handler is the same, nothing is told in another way. -/
theorem Retold.eq {calledIn : σ → Prop} {h : Handler σ} {acts₁ acts₂ : List Act}
    (retold : Retold (fun _ _ => False) calledIn h h acts₁ acts₂) : acts₁ = acts₂ := by
  induction retold with
  | nil => rfl
  | same act _ _ ih => rw [ih]
  | replaced monitor replaced => exact replaced.elim
  | answered monitor _ tells₁ tells₂ _ ih => rw [ih, tells₁.event_eq tells₂]

namespace Watchdog

/-- What becomes of reports is of no consequence, if neither of two reporters asks for stops. After any number of wake-ups the run
with the one is where the run with the other is, with the same strikes or the same outcome; the next tick leaves the same strikes and
escalates the same monitor, or none; the surroundings, the requests for heap reports and the control are the same; both runs did the
same acts, that is the same calls and the same reports; and their logs differ only in what is logged about these reports, that is in
what each reporter wrote itself and in a warning for each report that failed or panicked. -/
theorem reports_never_interfere (w : Watchdog σ ρ) (r : Reporter ρ') (hw : ∀ e state, w.reporter.stops e state = false)
    (hr : ∀ e state, r.stops e state = false) (between : Nat → Interlude σ) (start : Scene σ ρ) (state : ρ') (n : Nat) :
    let run := w.course between start n
    let other := (w.withReporter r).course between (start.withReporter state) n
    other.1 = run.1 ∧
    (∀ strikes,
      ((w.withReporter r).tick strikes ((between n).act other.2)).1 = (w.tick strikes ((between n).act run.2)).1 ∧
      ((w.withReporter r).tick strikes ((between n).act other.2)).2.1 = (w.tick strikes ((between n).act run.2)).2.1) ∧
    other.2.surroundings = run.2.surroundings ∧ other.2.dumps = run.2.dumps ∧ other.2.control = run.2.control ∧
    ∃ acts, Scene.Did w.reporter acts start run.2 ∧ Scene.Did r acts (start.withReporter state) other.2 ∧
      LogsApart w.reporter r start.reporter state (reports acts) (reports acts) run.2.log other.2.log := by
  intro run other
  have v := w.variant_withReporter (fun _ _ => False) (Reporter.askAlike_of_never hw hr)
  have hstart : Beside (fun _ _ => False) (fun _ _ => True) (w.HandlerCalledIn between start) w (w.withReporter r) start
      (start.withReporter state) start (start.withReporter state) := beside_withReporter start trivial
  obtain ⟨hprogress, acts₁, acts₂, hscenes, hretold⟩ := course_beside v (fun _ _ h => h.elim) between hstart n
  obtain rfl : acts₁ = acts₂ := hretold.eq
  exact ⟨hprogress, tick_course_beside v (fun _ _ h => h.elim) between hstart n, hscenes.surroundings, hscenes.dumps,
    hscenes.control, acts₁, hscenes.did₁, hscenes.did₂, hscenes.log⟩

end Watchdog

/-- A reporter that fails and panics in turns. -/
def Reporter.broken : Reporter Nat where
  report _ n := (if n % 2 = 0 then .returned (.error ⟨"no space left"⟩) else .panicked .wordless, n + 1, #[])

/-- The pair escalates the same monitor if every report of the run is lost, and the runs did the same. -/
theorem Watchdog.pair_escalates_unheard :
    (((pair fun _ => false).withReporter .broken).course (fun _ => .moment) (Scene.beginning.withReporter 0) 2).1.outcome? =
        some (.handlerInvoked "steady") ∧
      ∃ acts, Scene.Did (pair fun _ => false).reporter acts .beginning ((pair fun _ => false).course (fun _ => .moment) .beginning 2).2 ∧
        Scene.Did .broken acts (Scene.beginning.withReporter 0)
          (((pair fun _ => false).withReporter .broken).course (fun _ => .moment) (Scene.beginning.withReporter 0) 2).2 := by
  have h := reports_never_interfere (pair fun _ => false) .broken (fun _ _ => rfl) (fun _ _ => rfl) (fun _ => .moment) .beginning 0 2
  obtain ⟨hprogress, -, -, -, -, acts, hdid, hdid', -⟩ := h
  exact ⟨(congrArg Progress.outcome? hprogress).trans rfl, acts, hdid, hdid'⟩

end MemoryWatchdog
