import MemoryWatchdog.Proofs.Course

/-!
# What strikes are counted

The ledger of a run is one map for all monitors, keyed by their names. It refines one saturating counter for each position of the
stack: after each tick, the one with a breach included, the count of a monitor is what its own findings come to (`tally`), that is the
number of violations they end with, cut at the greatest 32-bit number. It depends on no other monitor, and the strikes that the tick
reports are these counts (`ledger_refines_counters`).
-/

namespace MemoryWatchdog

variable {σ ρ : Type}

namespace Configuration

/-- An escalation reports no strike. -/
theorem strikeRecorded_not_mem_escalation (c : Configuration σ ρ) (b : Breach) (ending : Ending (Except HandlerError Unit))
    (monitor : String) (strikes maxStrikes : UInt32) (payload : Payload) :
    Act.reported (.strikeRecorded monitor strikes maxStrikes payload) ∉ c.escalation b (c.handlerEvent b ending) := by
  unfold escalation handlerEvent
  split <;> split <;> simp

/-- A tick leaves the ledger that its evaluations leave, whether or not a monitor is escalated. -/
theorem tick_fst (c : Configuration σ ρ) (strikes : Strikes) (sc : Scene σ ρ) :
    (c.tick strikes sc).1 = (c.evaluateAll strikes sc).strikes := by
  unfold tick
  cases h : (c.evaluateAll strikes sc).breach <;> simp [h]

end Configuration

namespace Watchdog

variable {w : Watchdog σ ρ} {between : Nat → Interlude σ} {start : Scene σ ρ}

/-- A tick does its sightings and after them only what has no report of a strike. -/
theorem did_tick (w : Watchdog σ ρ) (strikes : Strikes) (sc : Scene σ ρ) :
    ∃ later, Scene.Did w.reporter ((w.monitors.sightings strikes sc.surroundings).flatMap Sighting.acts ++ later)
        sc (w.tick strikes sc).2.2 ∧
      ∀ monitor n maxStrikes payload, Act.reported (.strikeRecorded monitor n maxStrikes payload) ∉ later := by
  have hdid := (visited_evaluateAll w strikes sc).did
  unfold Configuration.tick
  cases h : (w.evaluateAll strikes sc).breach with
  | none => exact ⟨[], by simpa [h] using hdid, by simp⟩
  | some b =>
    have hboth := hdid.trans (Configuration.did_escalate w.toConfiguration b (w.evaluateAll strikes sc).scene)
    refine ⟨w.escalation b (w.handlerEvent b (w.handler.call (w.evaluateAll strikes sc).scene.surroundings).ending), ?_,
      Configuration.strikeRecorded_not_mem_escalation w.toConfiguration b _⟩
    simpa [h] using hboth

/-- The ledger refines one saturating counter for each position of the stack. In the tick after any number of ticks, a breach or not:
the count that the ledger then has for a monitor is what a counter of its own comes to on its own findings so far, which is the number
of violations they end with, cut at the greatest number; and a strike is reported of exactly the monitors that violate their limit in
the tick, with this count and with what the monitor allows. -/
theorem ledger_refines_counters (w : Watchdog σ ρ) (between : Nat → Interlude σ) (start : Scene σ ρ)
    (hidle : start.control.state = .idle) (n : Nat) (strikes : Strikes) (sc : Scene σ ρ)
    (at_n : w.course between start n = (.sleeping strikes, sc)) :
    let after := w.tick strikes ((between n).act sc)
    (∀ i e, w.monitors[i]? = some e →
      after.1.count e.name = tally (w.outcomes between start.surroundings i (n + 1)) ∧
      (after.1.count e.name).toNat = min (UInt32.size - 1) (streak (w.outcomes between start.surroundings i (n + 1)))) ∧
    ∃ acts, after.2.2.history = sc.history ++ acts ∧
      ∀ monitor count maxStrikes payload, Act.reported (.strikeRecorded monitor count maxStrikes payload) ∈ acts ↔
        ∃ (i : Nat) (e : Monitor.Entry σ) (v : Verdict), w.monitors[i]? = some e ∧
          (w.findingsAt between start.surroundings n)[i]? = some (.ok v) ∧ v.violated = true ∧
          monitor = e.name ∧ count = after.1.count e.name ∧ maxStrikes = e.maxStrikes ∧ payload = v.payload := by
  intro after
  have inStep := inStep_of_asleep hidle at_n
  have hcount : ∀ i e, w.monitors[i]? = some e →
      after.1.count e.name = tally (w.outcomes between start.surroundings i (n + 1)) := by
    intro i e he
    rw [Configuration.tick_fst]
    exact inStep.evaluateAll.counts i e he
  refine ⟨fun i e he => ⟨hcount i e he, by rw [hcount i e he, toNat_tally]⟩, ?_⟩
  obtain ⟨later, hdid, hlater⟩ := did_tick w strikes ((between n).act sc)
  rw [inStep.sightings] at hdid
  refine ⟨_, hdid.history, fun monitor count maxStrikes payload => ?_⟩
  rw [List.mem_append, or_iff_left (hlater _ _ _ _), mem_flatMap_acts_iff]
  constructor
  · rintro ⟨x, hmem, hx⟩
    obtain ⟨i, hi⟩ := List.getElem?_of_mem hmem
    obtain ⟨e, f, he, hf, rfl⟩ := getElem?_sightingsAt.mp hi
    obtain ⟨v, rfl, hv, rfl, rfl, rfl, rfl⟩ := Sighting.event_eq_strikeRecorded_iff.mp hx
    exact ⟨i, e, v, he, hf, hv, rfl, (hcount i e he).symm, rfl, rfl⟩
  · rintro ⟨i, e, v, he, hf, hv, rfl, rfl, rfl, rfl⟩
    refine ⟨_, List.mem_of_getElem? (getElem?_sightingsAt.mpr ⟨e, .ok v, he, hf, rfl⟩), ?_⟩
    exact Sighting.event_eq_strikeRecorded_iff.mpr ⟨v, rfl, hv, rfl, hcount i e he, rfl, rfl⟩

/-- In the second tick of the pair, which has a breach, the ledger comes to two strikes for the one monitor and to one for the other. -/
theorem pair_counts_strikes :
    ∃ strikes sc, (pair fun _ => false).course (fun _ => .moment) .beginning 1 = (.sleeping strikes, sc) ∧
      (((pair fun _ => false).tick strikes (Interlude.moment.act sc)).1.count "steady").toNat = 2 ∧
      (((pair fun _ => false).tick strikes (Interlude.moment.act sc)).1.count "late").toNat = 1 := by
  obtain ⟨strikes, sc, at_1⟩ : ∃ strikes sc,
      (pair fun _ => false).course (fun _ => .moment) .beginning 1 = (.sleeping strikes, sc) := ⟨_, _, rfl⟩
  have h := (ledger_refines_counters (pair fun _ => false) (fun _ => .moment) .beginning rfl 1 strikes sc at_1).1
  refine ⟨strikes, sc, at_1, ?_, ?_⟩
  · exact (h 0 _ rfl).2.trans (by decide)
  · exact (h 1 _ rfl).2.trans (by decide)

end Watchdog

end MemoryWatchdog
