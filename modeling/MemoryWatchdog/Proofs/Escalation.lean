import MemoryWatchdog.Proofs.Course

/-!
# When the handler is called

A monitor is exhausted after a number of ticks if it has violated its limit in each of the last of them, one more than it allows
strikes; one that allows the greatest 32-bit number never is, since its count stays there. A run that finds no request to stop ends
with the first tick after which a monitor is exhausted: every monitor of that tick is evaluated, then the handler is called once, for
the first exhausted monitor of the stack. If there is no such tick the run goes on for ever and the handler is never called
(`handler_called_iff_exhausted`).
-/

namespace MemoryWatchdog

variable {σ ρ : Type}

namespace Watchdog

/-- The monitor at a position violates its limit when it is consulted once more after a number of times. -/
def Violates (w : Watchdog σ ρ) (between : Nat → Interlude σ) (s : σ) (i n : Nat) : Prop :=
  ∃ f, (w.findingsAt between s n)[i]? = some f ∧ f.violates = true

/-- After a number of ticks the monitor at a position has violated its limit in each of the last of them, one more than it allows
strikes. One that allows the greatest number is never exhausted. -/
def Exhausted (w : Watchdog σ ρ) (between : Nat → Interlude σ) (s : σ) (i n : Nat) : Prop :=
  ∃ e, w.monitors[i]? = some e ∧ e.maxStrikes.toNat + 1 < UInt32.size ∧ e.maxStrikes.toNat < n ∧
    ∀ m < n, n ≤ m + e.maxStrikes.toNat + 1 → w.Violates between s i m

/-- A monitor is exhausted after a number of ticks, none was after fewer, and none before it in the stack is. -/
structure FirstExhausted (w : Watchdog σ ρ) (between : Nat → Interlude σ) (s : σ) (i n : Nat) : Prop where
  exhausted : w.Exhausted between s i n
  first_tick : ∀ m < n, ∀ j, ¬ w.Exhausted between s j m
  first_entry : ∀ j < i, ¬ w.Exhausted between s j n

/-- No wake-up of a run finds that a stop was requested. -/
def Unheard (w : Watchdog σ ρ) (between : Nat → Interlude σ) (start : Scene σ ρ) : Prop :=
  ∀ n strikes sc, w.course between start n = (.sleeping strikes, sc) → ((between n).act sc).control.stopRequested = false

/-- The evaluations of a number of ticks, each in the order of the stack. -/
def evaluations (w : Watchdog σ ρ) (between : Nat → Interlude σ) (s : σ) (n : Nat) : List Act :=
  (List.range n).flatMap fun m => (w.monitors.zip (w.findingsAt between s m)).map fun (e, f) => .evaluated e.name f

variable {w : Watchdog σ ρ} {between : Nat → Interlude σ} {s : σ}

/-! ## Exhaustion and breaches -/

/-- Before the first tick nothing is exhausted. -/
theorem not_exhausted_zero (i : Nat) : ¬ w.Exhausted between s i 0 := by
  rintro ⟨e, -, -, hlt, -⟩
  exact Nat.not_lt_zero _ hlt

/-- The own counter of a monitor exceeds what it allows exactly when it is exhausted. -/
theorem lt_tally_outcomes_iff {i n : Nat} {e : Monitor.Entry σ} (he : w.monitors[i]? = some e) :
    e.maxStrikes < tally (w.outcomes between s i n) ↔ w.Exhausted between s i n := by
  rw [lt_tally_iff, lt_streak_iff, length_outcomes between s he]
  constructor
  · rintro ⟨hgreatest, hlen, hall⟩
    refine ⟨e, he, hgreatest, hlen, fun m hm hle => ?_⟩
    obtain ⟨f, hf⟩ := exists_finding between s he m
    exact ⟨f, hf, hall m f (by rw [getElem?_outcomes he hm, hf]) hle⟩
  · rintro ⟨e', he', hgreatest, hlen, hall⟩
    obtain rfl : e = e' := Option.some.inj (he.symm.trans he')
    refine ⟨hgreatest, hlen, fun m f hf hle => ?_⟩
    have hm : m < n := by
      have := (List.getElem?_eq_some_iff.mp hf).1
      rwa [length_outcomes between s he] at this
    obtain ⟨g, hg, hviolates⟩ := hall m hm hle
    rw [getElem?_outcomes he hm, hg, Option.some.injEq] at hf
    rwa [← hf]

/-- A sighting of a tick is a breach exactly when the monitor at its position is exhausted with that tick. -/
theorem exhausted_succ_iff {i n : Nat} {x : Sighting σ} (hx : (w.sightingsAt between s n)[i]? = some x) :
    w.Exhausted between s i (n + 1) ↔ x.breach? ≠ none := by
  obtain ⟨e, f, he, hf, rfl⟩ := getElem?_sightingsAt.mp hx
  rw [← lt_tally_outcomes_iff he, Sighting.breach?_ne_none_iff]
  refine ⟨fun hlt => ⟨?_, hlt⟩, fun h => h.2⟩
  -- Without a violation in the tick itself the counter would be zero, which exceeds nothing.
  by_contra hviolates
  rw [outcomes_succ hf, tally_concat, nextCount_of_not_violates _ (by simpa using hviolates)] at hlt
  exact absurd hlt (by simp)

/-- A tick has no breach exactly when no monitor is exhausted with it. -/
theorem findSome?_breach?_eq_none_iff {n : Nat} :
    (w.sightingsAt between s n).findSome? Sighting.breach? = none ↔ ∀ i, ¬ w.Exhausted between s i (n + 1) := by
  rw [List.findSome?_eq_none_iff]
  constructor
  · intro h i hex
    obtain ⟨e, he, -⟩ := id hex
    obtain ⟨f, hf⟩ := exists_finding between s he n
    have hx := getElem?_sightingsAt.mpr ⟨e, f, he, hf, rfl⟩
    exact (exhausted_succ_iff hx).mp hex (h _ (List.mem_of_getElem? hx))
  · intro h x hmem
    obtain ⟨i, hx⟩ := List.getElem?_of_mem hmem
    by_contra hb
    exact h i ((exhausted_succ_iff hx).mpr hb)

/-- The breach of a tick is that of the first monitor in the stack that is exhausted with it. -/
theorem breach_of_first {i n : Nat} {e : Monitor.Entry σ} (he : w.monitors[i]? = some e)
    (hex : w.Exhausted between s i (n + 1)) (hfirst : ∀ j < i, ¬ w.Exhausted between s j (n + 1)) :
    ∃ b, (w.sightingsAt between s n).findSome? Sighting.breach? = some b ∧ b.monitor = e.name := by
  obtain ⟨b, hb⟩ := Option.ne_none_iff_exists'.mp fun hnone => findSome?_breach?_eq_none_iff.mp hnone i hex
  obtain ⟨earlier, x, later, hsplit, hx, hnone⟩ := List.findSome?_eq_some_iff.mp hb
  have hat : (w.sightingsAt between s n)[earlier.length]? = some x := by simp [hsplit]
  have hexx : w.Exhausted between s earlier.length (n + 1) := (exhausted_succ_iff hat).mpr (by simp [hx])
  obtain hlt | heq | hgt := Nat.lt_trichotomy i earlier.length
  · -- The sighting at the position would be among those without a breach.
    obtain ⟨f, hf⟩ := exists_finding between s he n
    have hati := getElem?_sightingsAt.mpr ⟨e, f, he, hf, rfl⟩
    have hmem := hati
    rw [hsplit, List.getElem?_append_left hlt] at hmem
    exact absurd (hnone _ (List.mem_of_getElem? hmem)) ((exhausted_succ_iff hati).mp hex)
  · obtain ⟨e', f, he', -, rfl⟩ := getElem?_sightingsAt.mp hat
    obtain rfl : e = e' := Option.some.inj (he.symm.trans (heq ▸ he'))
    exact ⟨b, hb, (Sighting.breach?_eq_some_iff.mp hx).2.2.1⟩
  · exact absurd hexx (hfirst _ hgt)

/-! ## The calls of a run -/

theorem calls_flatMap_acts (sightings : List (Sighting σ)) :
    calls (sightings.flatMap Sighting.acts) = sightings.map fun x => .evaluated x.entry.name x.finding := by
  induction sightings with
  | nil => rfl
  | cons x rest ih =>
    rw [List.flatMap_cons, calls_append, ih]
    rfl

/-- The calls of a number of ticks are the evaluations. -/
theorem calls_acts (w : Watchdog σ ρ) (between : Nat → Interlude σ) (s : σ) (n : Nat) :
    calls (w.acts between s n) = w.evaluations between s n := by
  induction n with
  | zero => rfl
  | succ n ih =>
    have hlast : calls ((w.sightingsAt between s n).flatMap Sighting.acts) =
        (w.monitors.zip (w.findingsAt between s n)).map fun (e, f) => .evaluated e.name f := by
      rw [calls_flatMap_acts]
      refine List.ext_getElem? fun i => ?_
      rw [List.getElem?_map, List.getElem?_map, sightingsAt, List.getElem?_mapIdx]
      cases (w.monitors.zip (w.findingsAt between s n))[i]? <;> rfl
    rw [acts_succ, calls_append, ih, hlast, evaluations, evaluations, List.range_succ, List.flatMap_append,
      List.flatMap_singleton]

/-- The only call of an escalation is the one to the handler. -/
theorem calls_escalation (c : Configuration σ ρ) (b : Breach) (e : Event) :
    calls (c.escalation b e) = [.handlerCalled b.monitor] := by
  unfold Configuration.escalation
  split <;> rfl

/-! ## Runs that find no stop -/

variable {start : Scene σ ρ}

/-- Visiting monitors that never ask for a stop leaves the control as it is, if the reporter never asks for one either. -/
theorem control_foldl_visit {c : Configuration σ ρ} {stack : Stack σ}
    (hmonitors : ∀ e ∈ stack, ∀ s, (e.monitor.check s).stops = false) (hreporter : ∀ event state, c.reporter.stops event state = false)
    (t : Tick σ ρ) : (stack.foldl c.visit t).scene.control = t.scene.control := by
  induction stack generalizing t with
  | nil => rfl
  | cons e rest ih =>
    rw [List.foldl_cons, ih fun e' he' => hmonitors e' (List.mem_cons_of_mem e he'), Configuration.visit_eq]
    simp [hmonitors e List.mem_cons_self, hreporter]

/-- If nobody ever asks for a stop, no wake-up finds that one was requested. -/
theorem unheard_of_unasked (hmonitors : ∀ e ∈ w.monitors, ∀ s, (e.monitor.check s).stops = false)
    (hreporter : ∀ event state, w.reporter.stops event state = false) (hbetween : ∀ n, (between n).stops = false)
    (hidle : start.control.state = .idle) (hstart : start.control.stopRequested = false) : w.Unheard between start := by
  intro n
  induction n with
  | zero =>
    intro strikes sc hc
    rw [course, start_of_idle hidle, Prod.mk.injEq] at hc
    rw [← hc.2]
    simp [hbetween, hreporter, hstart]
  | succ n ih =>
    intro strikes' sc' hc
    obtain ⟨strikes, sc, hprevious, hreq, -, rfl⟩ := asleep_of_asleep_succ hc
    have hcontrol := control_foldl_visit (c := w.toConfiguration) hmonitors hreporter { scene := (between n).act sc, strikes }
    rw [Interlude.control_act, hbetween, Control.stopIf_false, Configuration.evaluateAll, hcontrol]
    exact hreq

/-- While no monitor is exhausted, a run that finds no stop sleeps in step. -/
theorem asleep_of_not_exhausted (hidle : start.control.state = .idle) (hunheard : w.Unheard between start) {n : Nat}
    (h : ∀ m ≤ n, ∀ i, ¬ w.Exhausted between start.surroundings i m) :
    ∃ strikes sc, w.course between start n = (.sleeping strikes, sc) ∧ InStep w between start n strikes sc := by
  cases course_stage w between hidle n with
  | asleep strikes sc at_n inStep => exact ⟨strikes, sc, at_n, inStep⟩
  | stopped m strikes sc before at_m inStep requested at_n =>
    rw [hunheard m strikes sc at_m] at requested
    cases requested
  | breached m strikes sc b before at_m inStep unrequested breach at_n =>
    rw [findSome?_breach?_eq_none_iff.mpr (h (m + 1) before)] at breach
    cases breach

/-- While no monitor is exhausted, all calls of a run that finds no stop are the evaluations, and it meets the next tick in the
surroundings that the monitors alone would have left. -/
theorem calls_of_not_exhausted (hidle : start.control.state = .idle) (hunheard : w.Unheard between start) {n : Nat}
    (h : ∀ m ≤ n, ∀ i, ¬ w.Exhausted between start.surroundings i m) :
    (w.course between start n).1.outcome? = none ∧
      calls (w.course between start n).2.history = calls start.history ++ w.evaluations between start.surroundings n ∧
      (between n).change (w.course between start n).2.surroundings = w.surroundingsAt between start.surroundings n := by
  obtain ⟨strikes, sc, at_n, inStep⟩ := asleep_of_not_exhausted hidle hunheard h
  rw [at_n, inStep.did.history, calls_append, ← calls_acts]
  exact ⟨rfl, rfl, inStep.surroundings⟩

/-- With the tick after which a monitor is exhausted for the first time, a run that finds no stop ends: the handler is called after
all evaluations of that tick, in the surroundings that these left, and nothing else changes them. -/
theorem calls_of_firstExhausted (hidle : start.control.state = .idle) (hunheard : w.Unheard between start) {i n : Nat}
    {e : Monitor.Entry σ} (he : w.monitors[i]? = some e) (h : w.FirstExhausted between start.surroundings i n) :
    (w.course between start n).1 = .ended (.handlerInvoked e.name) ∧
      calls (w.course between start n).2.history =
        calls start.history ++ (w.evaluations between start.surroundings n ++ [.handlerCalled e.name]) ∧
      (w.course between start n).2.surroundings =
        (w.handler.call (w.monitors.leave (w.surroundingsAt between start.surroundings (n - 1)))).state := by
  cases n with
  | zero => exact absurd h.exhausted (not_exhausted_zero i)
  | succ n =>
    obtain ⟨strikes, sc, at_n, inStep⟩ :=
      asleep_of_not_exhausted hidle hunheard fun m hm => h.first_tick m (Nat.lt_succ_of_le hm)
    obtain ⟨b, hb, hname⟩ := breach_of_first he h.exhausted h.first_entry
    have hend := inStep.course_of_breach at_n (hunheard n strikes sc at_n) hb
    rw [hend, (inStep.did_breached b).history, calls_append]
    refine ⟨by rw [← hname]; rfl, congrArg (calls start.history ++ ·) ?_, inStep.surroundings_breached b⟩
    rw [← List.singleton_append, calls_append, calls_append, calls_append, calls_acts, calls_escalation, hname]
    simp [calls, Act.isCall]

/-- The handler is called when a monitor is exhausted for the first time, and only then. In a run that finds no request to stop:
the run goes on and calls nothing but monitors before the first tick after which a monitor is exhausted; with that tick it ends, having
evaluated every monitor of the tick and then called the handler once, for the first exhausted monitor of the stack, and it never does
anything more; and if there is no such tick the run never ends and the handler is never called. The surroundings show the same: as long
as the run sleeps they are those that the monitors alone would have left, and after its end those that one call to the handler made of
them. -/
theorem handler_called_iff_exhausted (w : Watchdog σ ρ) (between : Nat → Interlude σ) (start : Scene σ ρ)
    (hidle : start.control.state = .idle) (hunheard : w.Unheard between start) :
    (∀ i n e, w.monitors[i]? = some e → w.FirstExhausted between start.surroundings i n →
      (∀ m < n, (w.course between start m).1.outcome? = none ∧
        calls (w.course between start m).2.history = calls start.history ++ w.evaluations between start.surroundings m ∧
        (between m).change (w.course between start m).2.surroundings = w.surroundingsAt between start.surroundings m) ∧
      ∀ m, n ≤ m → (w.course between start m).1.outcome? = some (.handlerInvoked e.name) ∧
        calls (w.course between start m).2.history =
          calls start.history ++ (w.evaluations between start.surroundings n ++ [.handlerCalled e.name]) ∧
        (w.course between start m).2.surroundings =
          (w.handler.call (w.monitors.leave (w.surroundingsAt between start.surroundings (n - 1)))).state) ∧
    ((∀ i n, ¬ w.Exhausted between start.surroundings i n) →
      ∀ n, (w.course between start n).1.outcome? = none ∧
        calls (w.course between start n).2.history = calls start.history ++ w.evaluations between start.surroundings n ∧
        (between n).change (w.course between start n).2.surroundings = w.surroundingsAt between start.surroundings n) := by
  refine ⟨fun i n e he h => ⟨fun m hm => ?_, fun m hm => ?_⟩, fun h n => ?_⟩
  · exact calls_of_not_exhausted hidle hunheard fun k hk => h.first_tick k (Nat.lt_of_le_of_lt hk hm)
  · obtain ⟨hended, hcalls, hsurroundings⟩ := calls_of_firstExhausted hidle hunheard he h
    rw [course_of_ended hended hm, hended]
    exact ⟨rfl, hcalls, hsurroundings⟩
  · exact calls_of_not_exhausted hidle hunheard fun k _ i => h i k

/-- Both monitors of the pair are exhausted with the second tick, and the first of them is escalated. -/
theorem pair_escalates_steady :
    (pair fun _ => false).Unheard (fun _ => .moment) .beginning ∧
      (pair fun _ => false).FirstExhausted (fun _ => .moment) 0 0 2 ∧
      ((pair fun _ => false).course (fun _ => .moment) .beginning 1).1.outcome? = none ∧
      ((pair fun _ => false).course (fun _ => .moment) .beginning 5).1.outcome? = some (.handlerInvoked "steady") := by
  have hunheard : (pair fun _ => false).Unheard (fun _ => .moment) .beginning :=
    unheard_of_unasked (by simp [pair, Monitor.scripted, Monitor.entry]) (fun _ _ => rfl) (fun _ => rfl) rfl rfl
  have hquiet : ((pair fun _ => false).sightingsAt (fun _ => .moment) 0 0).findSome? Sighting.breach? = none := rfl
  have hfirst : (pair fun _ => false).FirstExhausted (fun _ => .moment) 0 0 2 := by
    refine ⟨⟨_, rfl, by decide, by decide, fun m _ _ => ⟨.ok ⟨true, []⟩, rfl, rfl⟩⟩, fun m hm j => ?_, by simp⟩
    match m, hm with
    | 0, _ => exact not_exhausted_zero j
    | 1, _ => exact findSome?_breach?_eq_none_iff.mp hquiet j
  have h := (handler_called_iff_exhausted (pair fun _ => false) (fun _ => .moment) .beginning rfl hunheard).1 0 2 _ rfl hfirst
  exact ⟨hunheard, hfirst, (h.1 1 (by decide)).1, (h.2 5 (by decide)).1⟩

end Watchdog

end MemoryWatchdog
