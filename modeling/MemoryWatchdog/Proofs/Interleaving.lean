import Mathlib.Logic.Function.Basic
import Mathlib.Logic.Relation
import MemoryWatchdog.Proofs.Course

/-!
# Callers and stoppers in any order

Many may hold a watchdog: each may try to run it, and each may ask it to stop. Here every access to what they share is a step of its
own, and the steps of all of them come in any order. A call to run the watchdog goes from `Place` to `Place`: the guard at its start,
each report, each look at the request to stop, each call to a monitor or to the handler, the request for a heap report and the end of
the watchdog are steps. A stop takes two. `System.follow` lets them take turns.

The steps are those of `Watchdog.start` and `Watchdog.wake`, cut up: a call that nobody disturbs does what these do (`leads_start`,
`leads_wake`), so every course of a watchdog is one of its interleavings (`exists_turns_of_course`).
-/

namespace MemoryWatchdog

variable {σ ρ : Type}

/-- Where a call to run a watchdog is: what its next step will be. -/
inductive Place (σ : Type)
  /-- It tries to start the watchdog. -/
  | called
  /-- It was told that the watchdog is stopped. -/
  | refused
  /-- It reports the start. -/
  | entered
  /-- It wakes up and looks whether a stop was requested. -/
  | asleep (strikes : Strikes)
  /-- It calls the next of the monitors that are left in this tick. -/
  | visiting (rest : Stack σ) (strikes : Strikes) (breach : Option Breach)
  /-- It reports what a monitor found. -/
  | telling (x : Sighting σ) (rest : Stack σ) (strikes : Strikes) (breach : Option Breach)
  /-- It reports a breach. -/
  | escalating (b : Breach)
  /-- It requests a heap report, if the configuration says so. -/
  | requesting (b : Breach)
  /-- It reports the request. -/
  | requested (b : Breach)
  /-- It calls the handler. -/
  | calling (b : Breach)
  /-- It reports how the call to the handler went. -/
  | answering (b : Breach) (event : Event)
  /-- It ends the watchdog. -/
  | leaving (outcome : Outcome)
  /-- It reports the end. -/
  | left (outcome : Outcome)
  /-- It has returned an outcome. -/
  | returned (outcome : Outcome)

namespace Place

/-- The part of a call: before it passed the guard or when it was turned away, between the guard and the end of the watchdog, after
that. -/
inductive Phase
  | outside
  | inside
  | ended
  deriving DecidableEq, Repr

def phase : Place σ → Phase
  | .called | .refused => .outside
  | .left _ | .returned _ => .ended
  | _ => .inside

/-- Whether the call has passed the guard. -/
def Passed (p : Place σ) : Prop :=
  p.phase ≠ .outside

/-- The outcome of a call that has returned. One that was turned away is told that the watchdog is stopped. -/
def outcome? : Place σ → Option Outcome
  | .refused => some .stopped
  | .returned outcome => some outcome
  | _ => none

/-- The progress of a run between two wake-ups or after its end. -/
def progress? : Place σ → Option Progress
  | .asleep strikes => some (.sleeping strikes)
  | .refused => some (.ended .stopped)
  | .returned outcome => some (.ended outcome)
  | _ => none

end Place

namespace Watchdog

/-- The next step of a call to run the watchdog. -/
def move (w : Watchdog σ ρ) : Place σ → Scene σ ρ → Place σ × Scene σ ρ
  | .called, sc =>
    match sc.control.start? with
    | some control => (.entered, { sc with control })
    | none => (.refused, (w.start sc).2)
  | .refused, sc => (.refused, sc)
  | .entered, sc => (.asleep {}, sc.emit w.reporter w.startedEvent)
  | .asleep strikes, sc =>
    if sc.control.stopRequested then (.leaving .stopped, sc) else (.visiting w.monitors strikes none, sc)
  | .visiting (e :: rest) strikes breach, sc =>
    (.telling (e.sight strikes sc.surroundings) rest strikes breach,
      (sc.receive (e.monitor.check sc.surroundings)).note (.evaluated e.name (e.find sc.surroundings)))
  | .visiting [] strikes none, sc => (.asleep strikes, sc)
  | .visiting [] _ (some b), sc => (.escalating b, sc)
  | .telling x rest strikes breach, sc =>
    (.visiting rest (strikes.score x.entry.name x.finding) (breach <|> x.breach?), sc.emit w.reporter x.event)
  | .escalating b, sc =>
    (.requesting b, sc.emit w.reporter (.thresholdExceeded b.monitor b.strikes b.maxStrikes b.payload))
  | .requesting b, sc =>
    if w.writeHeapDumps then (.requested b, { sc with dumps := sc.dumps.enqueue }.note (.dumpRequested b.monitor))
    else (.calling b, sc)
  | .requested b, sc => (.calling b, sc.emit w.reporter (.heapDumpRequested b.monitor))
  | .calling b, sc =>
    let reply := w.handler.call sc.surroundings
    (.answering b (w.handlerEvent b reply.ending), (sc.receive reply).note (.handlerCalled b.monitor))
  | .answering b event, sc => (.leaving (.handlerInvoked b.monitor), sc.emit w.reporter event)
  | .leaving outcome, sc => (.left outcome, { sc with control := sc.control.finish })
  | .left outcome, sc => (.returned outcome, sc.emit w.reporter (.stopped outcome.reason))
  | .returned outcome, sc => (.returned outcome, sc)

/-- The acts of the next step of a call. -/
def doing (w : Watchdog σ ρ) : Place σ → Scene σ ρ → List Act
  | .entered, _ => [.reported w.startedEvent]
  | .visiting (e :: _) _ _, sc => [.evaluated e.name (e.find sc.surroundings)]
  | .telling x _ _ _, _ => [.reported x.event]
  | .escalating b, _ => [.reported (.thresholdExceeded b.monitor b.strikes b.maxStrikes b.payload)]
  | .requesting b, _ => if w.writeHeapDumps then [.dumpRequested b.monitor] else []
  | .requested b, _ => [.reported (.heapDumpRequested b.monitor)]
  | .calling b, _ => [.handlerCalled b.monitor]
  | .answering _ event, _ => [.reported event]
  | .left outcome, _ => [.reported (.stopped outcome.reason)]
  | _, _ => []

/-- A step notes what it does behind what was noted before. -/
theorem history_move (w : Watchdog σ ρ) (p : Place σ) (sc : Scene σ ρ) :
    (w.move p sc).2.history = sc.history ++ w.doing p sc := by
  cases p with
  | called =>
    cases h : sc.control.start? <;> simp [move, doing, start, h, Scene.history]
  | asleep strikes => cases h : sc.control.stopRequested <;> simp [move, doing, h]
  | visiting rest strikes breach =>
    cases rest <;> cases breach <;> simp [move, doing]
  | requesting b => cases h : w.writeHeapDumps <;> simp [move, doing, h, Scene.history, Scene.note]
  | leaving outcome => simp [move, doing, Scene.history]
  | _ => simp [move, doing]

/-! ## Undisturbed calls -/

/-- A call that takes steps while nobody else does gets from one place and scene to another. -/
def Leads (w : Watchdog σ ρ) : Place σ × Scene σ ρ → Place σ × Scene σ ρ → Prop :=
  Relation.ReflTransGen fun q q' => w.move q.1 q.2 = q'

variable {w : Watchdog σ ρ}

theorem Leads.step {p : Place σ} {sc : Scene σ ρ} {q : Place σ × Scene σ ρ} (h : w.Leads (w.move p sc) q) : w.Leads (p, sc) q :=
  Relation.ReflTransGen.head rfl h

theorem leads_move (w : Watchdog σ ρ) (p : Place σ) (sc : Scene σ ρ) : w.Leads (p, sc) (w.move p sc) :=
  Relation.ReflTransGen.single rfl

/-- A call that starts alone gets as far as a run does that was started. -/
theorem leads_start (w : Watchdog σ ρ) (sc : Scene σ ρ) :
    ∃ p, w.Leads (.called, sc) (p, (w.start sc).2) ∧ p.progress? = some (w.start sc).1 := by
  cases h : sc.control.start? with
  | none =>
    have hmove : w.move .called sc = (.refused, (w.start sc).2) := by simp [move, h]
    exact ⟨.refused, hmove ▸ leads_move w .called sc, by simp [start, h, Place.progress?]⟩
  | some control =>
    have hmove : w.move .called sc = (.entered, { sc with control }) := by simp [move, h]
    refine ⟨.asleep {}, ?_, by simp [start, h, Place.progress?]⟩
    refine Leads.step (hmove ▸ ?_)
    rw [start, h]
    exact leads_move w .entered _

/-- The evaluations of a tick are a call to each monitor and a report of it. -/
theorem leads_visiting (w : Watchdog σ ρ) (stack : Stack σ) (t : Tick σ ρ) :
    w.Leads (.visiting stack t.strikes t.breach, t.scene)
      (.visiting [] (stack.foldl w.visit t).strikes (stack.foldl w.visit t).breach, (stack.foldl w.visit t).scene) := by
  induction stack generalizing t with
  | nil => exact Relation.ReflTransGen.refl
  | cons e rest ih =>
    refine Leads.step (Leads.step ?_)
    have hrest := ih (w.visit t e)
    rw [Configuration.visit_eq] at hrest
    rw [List.foldl_cons, Configuration.visit_eq]
    exact hrest

/-- A tick that begins leads to the end of its evaluations. -/
theorem leads_evaluateAll (w : Watchdog σ ρ) (strikes : Strikes) (sc : Scene σ ρ) :
    w.Leads (.visiting w.monitors strikes none, sc)
      (.visiting [] (w.evaluateAll strikes sc).strikes (w.evaluateAll strikes sc).breach, (w.evaluateAll strikes sc).scene) :=
  leads_visiting w w.monitors { scene := sc, strikes }

/-- An escalation that begins leads to its end. -/
theorem leads_escalate (w : Watchdog σ ρ) (b : Breach) (sc : Scene σ ρ) :
    w.Leads (.escalating b, sc) (.leaving (.handlerInvoked b.monitor), w.escalate b sc) := by
  have hhandler : ∀ called : Scene σ ρ,
      w.Leads (.calling b, called) (.leaving (.handlerInvoked b.monitor), w.callHandler b called) :=
    fun called => Leads.step (leads_move w (.answering b _) _)
  refine Leads.step ?_
  rw [Configuration.escalate_eq, Configuration.beforeHandler, Configuration.requestDump]
  cases hwrite : w.writeHeapDumps with
  | true =>
    refine Leads.step ?_
    simp only [move, hwrite, if_true]
    exact Leads.step (hhandler _)
  | false =>
    refine Leads.step ?_
    simp only [move, hwrite, Bool.false_eq_true, if_false]
    exact hhandler _

/-- So does an end, which is at last reported. -/
theorem leads_finish (w : Watchdog σ ρ) (outcome : Outcome) (sc : Scene σ ρ) :
    w.Leads (.leaving outcome, sc) (.returned outcome, (w.finish outcome sc).2) :=
  Leads.step (leads_move w (.left outcome) _)

/-- A call that wakes up alone gets as far as a run does that wakes up. -/
theorem leads_wake (w : Watchdog σ ρ) (strikes : Strikes) (sc : Scene σ ρ) :
    ∃ p, w.Leads (.asleep strikes, sc) (p, (w.wake strikes sc).2) ∧ p.progress? = some (w.wake strikes sc).1 := by
  cases hreq : sc.control.stopRequested with
  | true =>
    rw [wake_of_stopRequested hreq]
    refine ⟨.returned .stopped, Leads.step ?_, rfl⟩
    simp only [move, hreq, if_true]
    exact leads_finish w .stopped sc
  | false =>
    have hall := leads_evaluateAll w strikes sc
    have hmove : w.move (.asleep strikes) sc = (.visiting w.monitors strikes none, sc) := by simp [move, hreq]
    cases hb : (w.evaluateAll strikes sc).breach with
    | none =>
      rw [hb] at hall
      rw [wake_of_quiet hreq (breach_evaluateAll w strikes sc ▸ hb)]
      exact ⟨.asleep _, Leads.step (hmove ▸ hall.trans (leads_move w _ _)), rfl⟩
    | some b =>
      rw [hb] at hall
      rw [wake_of_breach hreq (breach_evaluateAll w strikes sc ▸ hb)]
      have hend := (leads_escalate w b (w.evaluateAll strikes sc).scene).trans (leads_finish w _ _)
      exact ⟨.returned _, Leads.step (hmove ▸ hall.trans (Leads.step hend)), rfl⟩

end Watchdog

/-! ## Turns -/

/-- Where a stop is: it notes the request, it closes a watchdog that is idle, or it has returned. -/
inductive Stopping
  | called
  | requested
  | returned
  deriving DecidableEq, Repr

/-- Who takes the next step: one of the calls to run the watchdog, one of the stops, or the rest of the process. -/
inductive Turn (σ : Type)
  | caller (i : Nat)
  | stopper (j : Nat)
  | others (i : Interlude σ)

/-- What all share, and where each call and each stop is. -/
structure System (σ ρ : Type) where
  scene : Scene σ ρ
  place : Nat → Place σ := fun _ => .called
  stopping : Nat → Stopping := fun _ => .called

namespace System

/-- One step of whose turn it is. -/
def step (w : Watchdog σ ρ) (s : System σ ρ) : Turn σ → System σ ρ
  | .caller i =>
    { s with scene := (w.move (s.place i) s.scene).2, place := Function.update s.place i (w.move (s.place i) s.scene).1 }
  | .stopper j =>
    match s.stopping j with
    | .called =>
      { s with
        scene := { s.scene with control := s.scene.control.requestStop }
        stopping := Function.update s.stopping j .requested }
    | .requested =>
      { s with
        scene := { s.scene with control := s.scene.control.closeIdle }
        stopping := Function.update s.stopping j .returned }
    | .returned => s
  | .others i => { s with scene := i.act s.scene }

/-- The steps of a list of turns. -/
def follow (w : Watchdog σ ρ) (turns : List (Turn σ)) (s : System σ ρ) : System σ ρ :=
  turns.foldl (step w) s

theorem follow_append (w : Watchdog σ ρ) (turns more : List (Turn σ)) (s : System σ ρ) :
    follow w (turns ++ more) s = follow w more (follow w turns s) :=
  List.foldl_append

/-- What an undisturbed call does, it does in a number of turns. -/
theorem exists_turns_of_leads {w : Watchdog σ ρ} {i : Nat} {s : System σ ρ} {q : Place σ × Scene σ ρ}
    (h : w.Leads (s.place i, s.scene) q) :
    ∃ turns, (follow w turns s).place i = q.1 ∧ (follow w turns s).scene = q.2 := by
  induction h with
  | refl => exact ⟨[], rfl, rfl⟩
  | tail _ hmove ih =>
    obtain ⟨turns, hplace, hscene⟩ := ih
    refine ⟨turns ++ [.caller i], ?_, ?_⟩
    · rw [follow_append, ← hmove, ← hplace, ← hscene]
      exact Function.update_self ..
    · rw [follow_append, ← hmove, ← hplace, ← hscene]
      rfl

/-- Every course of a watchdog is an interleaving: one call takes all its steps, and between its wake-ups the rest of the process has
its turn. -/
theorem exists_turns_of_course (w : Watchdog σ ρ) (between : Nat → Interlude σ) (start : Scene σ ρ) (n : Nat) :
    ∃ turns, ((follow w turns { scene := start }).place 0).progress? = some (w.course between start n).1 ∧
      (follow w turns { scene := start }).scene = (w.course between start n).2 := by
  induction n with
  | zero =>
    obtain ⟨p, hleads, hprogress⟩ := w.leads_start start
    obtain ⟨turns, hplace, hscene⟩ := exists_turns_of_leads (i := 0) (s := { scene := start }) hleads
    exact ⟨turns, by rw [hplace]; exact hprogress, hscene⟩
  | succ n ih =>
    obtain ⟨turns, hprogress, hscene⟩ := ih
    cases hc : w.course between start n with
    | mk progress sc =>
      rw [hc] at hprogress hscene
      rw [Watchdog.course, hc]
      cases progress with
      | ended outcome => exact ⟨turns, hprogress, hscene⟩
      | sleeping strikes =>
        have hasleep : (follow w turns { scene := start }).place 0 = .asleep strikes := by
          cases hp : (follow w turns { scene := start }).place 0 <;> simp [hp, Place.progress?] at hprogress
          rw [hprogress]
        obtain ⟨p, hleads, hwoken⟩ := w.leads_wake strikes ((between n).act sc)
        have hfrom : w.Leads ((step w (follow w turns { scene := start }) (.others (between n))).place 0,
            (step w (follow w turns { scene := start }) (.others (between n))).scene) (p, (w.wake strikes ((between n).act sc)).2) := by
          simpa only [step, hasleep, hscene] using hleads
        obtain ⟨more, hplace, hscene'⟩ := exists_turns_of_leads hfrom
        refine ⟨turns ++ .others (between n) :: more, ?_, ?_⟩
        · rw [follow_append]
          exact (congrArg Place.progress? hplace).trans hwoken
        · rw [follow_append]
          exact hscene'

end System

end MemoryWatchdog
