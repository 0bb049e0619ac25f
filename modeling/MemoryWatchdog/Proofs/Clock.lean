import MemoryWatchdog.Proofs.Course

/-!
# Runs by the clock

`Run.advance` takes a run on to a moment: it wakes up whenever its sleep is over, and at once if a stop is requested. Whatever the rest
of the process does between two moments, a run that goes by the clock is on a course, with an interlude under way
(`onCourse_reached`), so what holds of every course holds of it.
-/

namespace MemoryWatchdog

variable {σ ρ : Type}

/-! ## Interludes one after the other -/

/-- A stop that one of two asks for is asked for by the first or then by the second. -/
theorem Control.stopIf_or (c : Control) (asked again : Bool) : c.stopIf (asked || again) = (c.stopIf asked).stopIf again := by
  obtain ⟨state, stopRequested⟩ := c
  cases asked <;> cases again <;> cases state <;> rfl

/-- An interlude in which nothing happens leaves the scene as it is. -/
theorem Interlude.act_nothing (sc : Scene σ ρ) : Interlude.act {} sc = sc := by
  simp [act]

/-- One interlude after another. -/
def Interlude.andThen (i j : Interlude σ) : Interlude σ where
  change s := j.change (i.change s)
  takesDump := i.takesDump || j.takesDump
  log := i.log ++ j.log
  stops := i.stops || j.stops

theorem Interlude.act_andThen (i j : Interlude σ) (sc : Scene σ ρ) : (i.andThen j).act sc = j.act (i.act sc) := by
  obtain ⟨change, takesDump, log, stops⟩ := i
  obtain ⟨later, takesDumpToo, more, stopsToo⟩ := j
  simp only [act, andThen, Control.stopIf_or, Array.append_assoc]
  cases takesDump <;> cases takesDumpToo <;> rfl

/-! ## Runs on a course -/

/-- The progress of a run, without its clock. -/
def Run.progress : Run → Progress
  | .sleeping strikes _ => .sleeping strikes
  | .ended outcome => .ended outcome

/-- A step of the clock keeps the progress that was made. -/
@[simp] theorem Run.progress_after (w : Watchdog σ ρ) (now : Nat) (progress : Progress) :
    (Run.after w now progress).progress = progress := by
  cases progress <;> rfl

namespace Watchdog

variable {w : Watchdog σ ρ} {start : Scene σ ρ}

/-- The course of a run depends only on the interludes that it has had. -/
theorem course_congr {between between' : Nat → Interlude σ} {n : Nat} (h : ∀ m < n, between m = between' m) :
    w.course between start n = w.course between' start n := by
  induction n with
  | zero => rfl
  | succ n ih => rw [course, course, ih fun m hm => h m (Nat.lt_succ_of_lt hm), h n (Nat.lt_succ_self n)]

/-- A run is on a course of the watchdog, with an interlude under way since its last wake-up. -/
def OnCourse (w : Watchdog σ ρ) (start : Scene σ ρ) (progress : Progress) (sc : Scene σ ρ) : Prop :=
  ∃ between n i, (w.course between start n).1 = progress ∧ sc = Interlude.act i (w.course between start n).2

/-- A run that starts is on its course. -/
theorem onCourse_start (w : Watchdog σ ρ) (start : Scene σ ρ) : w.OnCourse start (w.start start).1 (w.start start).2 :=
  ⟨fun _ => {}, 0, {}, rfl, (Interlude.act_nothing _).symm⟩

/-- What the rest of the process does keeps it there. -/
theorem OnCourse.act {progress : Progress} {sc : Scene σ ρ} (h : w.OnCourse start progress sc) (i : Interlude σ) :
    w.OnCourse start progress (i.act sc) := by
  obtain ⟨between, n, j, hprogress, rfl⟩ := h
  exact ⟨between, n, j.andThen i, hprogress, (Interlude.act_andThen j i _).symm⟩

/-- A wake-up ends the interlude that was under way. -/
theorem OnCourse.wake {strikes : Strikes} {sc : Scene σ ρ} (h : w.OnCourse start (.sleeping strikes) sc) :
    w.OnCourse start (w.wake strikes sc).1 (w.wake strikes sc).2 := by
  obtain ⟨between, n, i, hprogress, rfl⟩ := h
  -- The interludes that the run has had, and the one under way as the next.
  let extended := fun m => if m = n then i else between m
  have hsame : w.course extended start n = w.course between start n :=
    course_congr fun m hm => if_neg (Nat.ne_of_lt hm)
  have hnext : w.course extended start (n + 1) = w.wake strikes (i.act (w.course between start n).2) := by
    have hcourse : w.course between start n = (.sleeping strikes, (w.course between start n).2) := Prod.ext hprogress rfl
    rw [course, hsame, hcourse, resume, show extended n = i from if_pos rfl]
  exact ⟨extended, n + 1, {}, by rw [hnext], by rw [hnext, Interlude.act_nothing]⟩

/-- So does time, whether or not the sleep is over. -/
theorem OnCourse.sleepUntil (moment wakesAt : Nat) {strikes : Strikes} {sc : Scene σ ρ}
    (h : w.OnCourse start (.sleeping strikes) sc) :
    w.OnCourse start (Run.sleepUntil w moment strikes wakesAt sc).1.progress (Run.sleepUntil w moment strikes wakesAt sc).2 := by
  fun_induction Run.sleepUntil w moment strikes wakesAt sc with
  | case1 strikes wakesAt sc hreq =>
    rw [Run.wake, Run.progress_after]
    exact h.wake
  | case2 strikes wakesAt sc hreq due strikes' sc' hwake ih =>
    have hnext := h.wake
    rw [hwake] at hnext
    exact ih hnext
  | case3 strikes wakesAt sc hreq due outcome sc' hwake =>
    have hnext := h.wake
    rw [hwake] at hnext
    exact hnext
  | case4 strikes wakesAt sc hreq due => exact h

/-- A run stays on course when time goes on. -/
theorem OnCourse.advance (moment : Nat) {run : Run} {sc : Scene σ ρ} (h : w.OnCourse start run.progress sc) :
    w.OnCourse start (run.advance w moment sc).1.progress (run.advance w moment sc).2 := by
  cases run with
  | sleeping strikes wakesAt => exact OnCourse.sleepUntil moment wakesAt h
  | ended outcome => exact h

/-- Where a run may be that was started at a moment and goes by the clock: the rest of the process does something, or time goes on. -/
inductive Reached (w : Watchdog σ ρ) (start : Scene σ ρ) (began : Nat) : Run → Scene σ ρ → Prop
  | started : Reached w start began (Run.start w began start).1 (Run.start w began start).2
  | acted {run : Run} {sc : Scene σ ρ} (i : Interlude σ) (reached : Reached w start began run sc) :
      Reached w start began run (i.act sc)
  | advanced {run : Run} {sc : Scene σ ρ} (moment : Nat) (reached : Reached w start began run sc) :
      Reached w start began (run.advance w moment sc).1 (run.advance w moment sc).2

/-- A run that goes by the clock is always on a course. -/
theorem onCourse_reached {began : Nat} {run : Run} {sc : Scene σ ρ} (h : w.Reached start began run sc) :
    w.OnCourse start run.progress sc := by
  induction h with
  | started =>
    rw [Run.start, Run.progress_after]
    exact onCourse_start w start
  | acted i _ ih => exact ih.act i
  | advanced moment _ ih => exact ih.advance moment

end Watchdog

end MemoryWatchdog
