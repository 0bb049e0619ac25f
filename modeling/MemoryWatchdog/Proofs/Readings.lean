import Mathlib.Data.Nat.Find
import MemoryWatchdog.Monitor.Limits
import MemoryWatchdog.Proofs.Escalation
import MemoryWatchdog.Settings

/-!
# What a run makes of readings

A limit on the resident memory is violated exactly by the readings that succeed and exceed it (`violates_find_residentLimit`), compared
as numbers without bounds. Each monitor is called in the surroundings that those before it leave (`calledIn`), so whether it is
exhausted with a tick is a matter of what it finds there in the last ticks (`exhausted_with_tick_iff`). The run ends with the first
tick with which a monitor is exhausted (`endsWith_of_exhausted`) and sleeps for ever if there is none; so two runs in which the same
monitors are exhausted at the same times end alike (`outcome?_congr`). What a run leaves in the surroundings is what the calls of its
monitors and, with its last tick, its handler leave there (`view_course_of_asleep`, `EndsWith.surroundings`).
-/

namespace MemoryWatchdog

variable {σ ρ : Type}

/-! ## Limits and readings -/

/-- The product that stays at the greatest number is below a number exactly when the product without bounds is. -/
theorem saturatingMul_lt_iff {a b n : UInt64} : saturatingMul a b < n ↔ a.toNat * b.toNat < n.toNat := by
  have hn : n.toNat < UInt64.size := n.toNat_lt
  rw [UInt64.lt_iff_toNat_lt, toNat_saturatingMul]
  omega

/-- A reading succeeded and is above a number. -/
def Reading.exceeds (r : Reading UInt64) (limit : Nat) : Bool :=
  match r with
  | .returned (.ok n) => decide (limit < n.toNat)
  | _ => false

/-- A limit on the resident memory is violated by a reading that succeeds and exceeds it. -/
theorem Monitor.violates_find_residentLimit (probe : Probe σ) (name : String) (maxStrikes : UInt32) (units perUnit : UInt64) (s : σ) :
    (Entry.find ⟨name, maxStrikes, residentLimit probe (saturatingMul units perUnit)⟩ s).violates =
      Reading.exceeds (probe.resident s).1 (units.toNat * perUnit.toNat) := by
  simp only [Entry.find, residentLimit, judging]
  cases (probe.resident s).1 with
  | panicked p => rfl
  | returned value =>
    cases value with
    | error e => rfl
    | ok n => simp [Ending.finding, Finding.violates, judgeResident, verdict, Reading.exceeds, saturatingMul_lt_iff]

/-- What none of the monitors of a stack changes stays as it is. -/
theorem Stack.view_leave {α : Type} (view : σ → α) {stack : Stack σ}
    (h : ∀ e ∈ stack, ∀ s, view (e.monitor.check s).state = view s) (s : σ) : view (stack.leave s) = view s := by
  induction stack generalizing s with
  | nil => rfl
  | cons e rest ih =>
    have hrest := ih (fun e' he' => h e' (List.mem_cons_of_mem e he')) (e.monitor.check s).state
    exact hrest.trans (h e List.mem_cons_self s)

namespace Watchdog

/-! ## What is found in a tick -/

/-- The surroundings in which the monitor at a position is called, if the monitors are consulted once more after a number of times. -/
def calledIn (w : Watchdog σ ρ) (between : Nat → Interlude σ) (s : σ) (i n : Nat) : σ :=
  Stack.leave (w.monitors.take i) (w.surroundingsAt between s n)

/-- The position of the entry with a name. -/
def position (w : Watchdog σ ρ) (name : String) : Nat :=
  w.monitors.names.idxOf name

/-- The reading of the resident memory when the monitor of the entry with a name is called. -/
def readingOf (w : Watchdog σ ρ) (probe : Probe σ) (between : Nat → Interlude σ) (s : σ) (name : String) (n : Nat) : Reading UInt64 :=
  (probe.resident (w.calledIn between s (w.position name) n)).1

variable {w : Watchdog σ ρ} {between : Nat → Interlude σ} {s : σ}

/-- Names are distinct, so the entry at a position is the one with its name. -/
theorem getElem?_monitors_iff {i : Nat} {e : Monitor.Entry σ} :
    w.monitors[i]? = some e ↔ e ∈ w.monitors ∧ i = w.position e.name := by
  have hposition : ∀ j, w.monitors[j]? = some e → j = w.position e.name := by
    intro j hj
    obtain ⟨hlt, hname⟩ := List.getElem?_eq_some_iff.mp (show w.monitors.names[j]? = some e.name by simp [Stack.names, hj])
    rw [position, ← hname, w.names_nodup.idxOf_getElem]
  constructor
  · intro hi
    exact ⟨List.mem_of_getElem? hi, hposition i hi⟩
  · rintro ⟨hmem, rfl⟩
    obtain ⟨j, hj⟩ := List.getElem?_of_mem hmem
    rwa [← hposition j hj]

/-- An entry violates with a tick if its monitor finds so, called in the surroundings that those before it leave. -/
theorem violates_iff {i n : Nat} {e : Monitor.Entry σ} (he : w.monitors[i]? = some e) :
    w.Violates between s i n ↔ (e.find (w.calledIn between s i n)).violates = true := by
  simp [Violates, findingsAt, Stack.getElem?_survey, he, calledIn]

/-- A monitor is exhausted with a tick exactly when it violates its limit in this tick and in as many ticks right before it as it
allows strikes. -/
theorem exhausted_with_tick_iff {i t : Nat} {e : Monitor.Entry σ} (he : w.monitors[i]? = some e) :
    w.Exhausted between s i (t + 1) ↔
      e.maxStrikes.toNat + 1 < UInt32.size ∧ e.maxStrikes.toNat ≤ t ∧
        ∀ m ≤ t, t ≤ m + e.maxStrikes.toNat → (e.find (w.calledIn between s i m)).violates = true := by
  constructor
  · rintro ⟨e', he', hgreatest, hlen, hall⟩
    obtain rfl : e = e' := Option.some.inj (he.symm.trans he')
    exact ⟨hgreatest, Nat.le_of_lt_succ hlen, fun m hm hle =>
      (violates_iff he).mp (hall m (Nat.lt_succ_of_le hm) (by omega))⟩
  · rintro ⟨hgreatest, hlen, hall⟩
    exact ⟨e, he, hgreatest, Nat.lt_succ_of_le hlen, fun m hm hle =>
      (violates_iff he).mpr (hall m (Nat.le_of_lt_succ hm) (by omega))⟩

/-! ## The tick that a run ends with -/

/-- A run sleeps before each tick up to one, with which it escalates a monitor and ends. -/
structure EndsWith (w : Watchdog σ ρ) (between : Nat → Interlude σ) (start : Scene σ ρ) (t : Nat) (monitor : String) : Prop where
  asleep : ∀ m ≤ t, (w.course between start m).1.outcome? = none
  ended : ∀ m, t < m → (w.course between start m).1.outcome? = some (.handlerInvoked monitor)

variable {start : Scene σ ρ}

/-- A run that finds no stop ends with the first tick with which a monitor is exhausted, and escalates the first such monitor. -/
theorem endsWith_of_exhausted (hidle : start.control.state = .idle) (hunheard : w.Unheard between start) {i t : Nat}
    {e : Monitor.Entry σ} (he : w.monitors[i]? = some e) (hex : w.Exhausted between start.surroundings i (t + 1))
    (hentries : ∀ j < i, ¬ w.Exhausted between start.surroundings j (t + 1))
    (hticks : ∀ m < t, ∀ j, ¬ w.Exhausted between start.surroundings j (m + 1)) : w.EndsWith between start t e.name := by
  have hfirst : w.FirstExhausted between start.surroundings i (t + 1) := by
    refine ⟨hex, fun m hm j => ?_, hentries⟩
    cases m with
    | zero => exact not_exhausted_zero j
    | succ m => exact hticks m (Nat.lt_of_succ_lt_succ hm) j
  refine ⟨fun m hm => ?_, fun m hm => ?_⟩
  · exact (calls_of_not_exhausted hidle hunheard fun k hk => hfirst.first_tick k (by omega)).1
  · have hended := (calls_of_firstExhausted hidle hunheard he hfirst).1
    rw [course_of_ended hended hm, hended]
    rfl

/-- A run that finds no stop sleeps for ever if no monitor is ever exhausted. -/
theorem asleep_of_never_exhausted (hidle : start.control.state = .idle) (hunheard : w.Unheard between start)
    (h : ∀ t j, ¬ w.Exhausted between start.surroundings j (t + 1)) (n : Nat) : (w.course between start n).1.outcome? = none := by
  refine (calls_of_not_exhausted hidle hunheard fun m _ j => ?_).1
  cases m with
  | zero => exact not_exhausted_zero j
  | succ m => exact h m j

/-- How a run stands that ends with a tick, after any number of wake-ups. -/
theorem EndsWith.outcome? {t : Nat} {monitor : String} (h : w.EndsWith between start t monitor) (n : Nat) :
    (w.course between start n).1.outcome? = if t < n then some (.handlerInvoked monitor) else none := by
  split
  · next hlt => exact h.ended n hlt
  · next hlt => exact h.asleep n (Nat.le_of_not_lt hlt)

/-- There is a first tick with which a monitor is exhausted, and a first such monitor in the stack, or there is no such tick at all. -/
theorem exists_first_exhausted (w : Watchdog σ ρ) (between : Nat → Interlude σ) (s : σ) :
    (∃ t i e, w.monitors[i]? = some e ∧ w.Exhausted between s i (t + 1) ∧ (∀ j < i, ¬ w.Exhausted between s j (t + 1)) ∧
      ∀ m < t, ∀ j, ¬ w.Exhausted between s j (m + 1)) ∨
    ∀ t j, ¬ w.Exhausted between s j (t + 1) := by
  classical
  by_cases hex : ∃ t, ∃ j, w.Exhausted between s j (t + 1)
  · left
    have hentry := Nat.find_spec hex
    obtain ⟨e, he, -⟩ := id (Nat.find_spec hentry)
    refine ⟨Nat.find hex, Nat.find hentry, e, he, Nat.find_spec hentry, fun j hj => Nat.find_min hentry hj, fun m hm j hj => ?_⟩
    exact Nat.find_min hex hm ⟨j, hj⟩
  · right
    exact fun t j hj => hex ⟨t, j, hj⟩

/-- The outcome of a run that finds no stop depends on nothing but the names of its monitors and which of them is exhausted when. -/
theorem outcome?_congr {σ' ρ' : Type} {w' : Watchdog σ' ρ'} {between' : Nat → Interlude σ'} {start' : Scene σ' ρ'}
    (hidle : start.control.state = .idle) (hunheard : w.Unheard between start)
    (hidle' : start'.control.state = .idle) (hunheard' : w'.Unheard between' start')
    (hnames : w'.monitors.names = w.monitors.names)
    (hexhausted : ∀ i t, w'.Exhausted between' start'.surroundings i (t + 1) ↔ w.Exhausted between start.surroundings i (t + 1))
    (n : Nat) : (w'.course between' start' n).1.outcome? = (w.course between start n).1.outcome? := by
  obtain ⟨t, i, e, he, hex, hentries, hticks⟩ | hnever := exists_first_exhausted w between start.surroundings
  · have hex' := (hexhausted i t).mpr hex
    obtain ⟨e', he', -⟩ := id hex'
    have hname : e'.name = e.name := by
      have hat := congrArg (·[i]?) hnames
      simpa [Stack.names, he, he'] using hat
    have hends := endsWith_of_exhausted hidle hunheard he hex hentries hticks
    have hends' := endsWith_of_exhausted hidle' hunheard' he' hex' (fun j hj h => hentries j hj ((hexhausted j t).mp h))
      fun m hm j h => hticks m hm j ((hexhausted j m).mp h)
    rw [hends.outcome?, hends'.outcome?, hname]
  · rw [asleep_of_never_exhausted hidle hunheard hnever, asleep_of_never_exhausted hidle' hunheard'
      fun t j h => hnever t j ((hexhausted j t).mp h)]

/-! ## What a run leaves -/

/-- A run that ends with a tick had its breach in that tick, and what it did last was to escalate it and to finish. -/
theorem EndsWith.course_succ (hidle : start.control.state = .idle) {t : Nat} {monitor : String} (h : w.EndsWith between start t monitor) :
    ∃ strikes sc b, InStep w between start t strikes sc ∧ b.monitor = monitor ∧
      w.course between start (t + 1) =
        w.finish (.handlerInvoked b.monitor) (w.escalate b (w.evaluateAll strikes ((between t).act sc)).scene) := by
  have hended := h.ended (t + 1) (Nat.lt_succ_self t)
  cases course_stage w between hidle (t + 1) with
  | asleep strikes sc at_n inStep =>
    rw [at_n] at hended
    cases hended
  | stopped m strikes sc before at_m inStep requested at_n =>
    rw [at_n] at hended
    cases hended
  | breached m strikes sc b before at_m inStep unrequested breach at_n =>
    rw [at_n, outcome?_finish] at hended
    obtain rfl : b.monitor = monitor := by simpa using hended
    -- A breach in an earlier tick would have ended the run before this one.
    obtain rfl : m = t := by
      by_contra hne
      have hasleep := h.asleep (m + 1) (by omega)
      rw [inStep.course_of_breach at_m unrequested breach, outcome?_finish] at hasleep
      cases hasleep
    exact ⟨strikes, sc, b, inStep, rfl, at_n⟩

/-- The last to change the surroundings is the handler, which is called in those that the monitors of the last tick left. -/
theorem EndsWith.surroundings (hidle : start.control.state = .idle) {t : Nat} {monitor : String}
    (h : w.EndsWith between start t monitor) {n : Nat} (hn : t < n) :
    (w.course between start n).2.surroundings =
      (w.handler.call (w.monitors.leave (w.surroundingsAt between start.surroundings t))).state := by
  obtain ⟨strikes, sc, b, inStep, -, hcourse⟩ := h.course_succ hidle
  have hended : (w.course between start (t + 1)).1 = .ended (.handlerInvoked b.monitor) := by rw [hcourse]; rfl
  rw [course_of_ended hended hn, hcourse]
  exact inStep.surroundings_breached b

/-- How the call to the handler went is among the reports of the run. -/
theorem EndsWith.reported (hidle : start.control.state = .idle) {t : Nat} {monitor : String} (h : w.EndsWith between start t monitor)
    {n : Nat} (hn : t < n) :
    ∃ b, b.monitor = monitor ∧
      .reported (w.handlerEventAt between start.surroundings t b) ∈ (w.course between start n).2.history := by
  obtain ⟨strikes, sc, b, inStep, hmonitor, hcourse⟩ := h.course_succ hidle
  have hended : (w.course between start (t + 1)).1 = .ended (.handlerInvoked b.monitor) := by rw [hcourse]; rfl
  refine ⟨b, hmonitor, ?_⟩
  rw [course_of_ended hended hn, hcourse, (inStep.did_breached b).history]
  simp [Configuration.escalation]

/-- What neither the monitors nor the rest of the process change stays as it is before the ticks of a run. -/
theorem view_surroundingsAt {α : Type} (view : σ → α) (hmonitors : ∀ e ∈ w.monitors, ∀ s, view (e.monitor.check s).state = view s)
    (hbetween : ∀ n s, view ((between n).change s) = view s) (s : σ) (n : Nat) : view (w.surroundingsAt between s n) = view s := by
  induction n with
  | zero => exact hbetween 0 s
  | succ n ih => rw [surroundingsAt, hbetween, Stack.view_leave view hmonitors, ih]

/-- The same holds while the run sleeps. -/
theorem view_course_of_asleep {α : Type} (view : σ → α) (hidle : start.control.state = .idle)
    (hmonitors : ∀ e ∈ w.monitors, ∀ s, view (e.monitor.check s).state = view s)
    (hbetween : ∀ n s, view ((between n).change s) = view s) {n : Nat} (h : (w.course between start n).1.outcome? = none) :
    view (w.course between start n).2.surroundings = view start.surroundings := by
  obtain ⟨strikes, hasleep⟩ := Progress.outcome?_eq_none_iff.mp h
  have inStep := inStep_of_asleep hidle (show w.course between start n = (.sleeping strikes, _) from Prod.ext hasleep rfl)
  rw [← hbetween n, inStep.surroundings, view_surroundingsAt view hmonitors hbetween]

end Watchdog

end MemoryWatchdog
