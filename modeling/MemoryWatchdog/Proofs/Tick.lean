import MemoryWatchdog.Proofs.Journal
import MemoryWatchdog.Proofs.Streak
import MemoryWatchdog.Watchdog.Tick

/-!
# What a tick does

`Stack.survey` is what the monitors of a stack find when each is called once in the order of the stack, whatever their strikes. A
tick makes a `Sighting` of each: the finding, and the strikes that the monitor has then. If the names of the stack are distinct, the
strikes of a monitor come from those it had before the tick and from its own finding alone, and the sightings say all that a tick
does: what it notes and reports, which monitor is escalated if one is, and the ledger it leaves (`visited_foldl`).
-/

namespace MemoryWatchdog

variable {σ ρ : Type}

/-- What the monitor of an entry finds in given surroundings. -/
def Monitor.Entry.find (e : Monitor.Entry σ) (s : σ) : Finding :=
  (e.monitor.check s).ending.finding "monitor panicked" MonitorError.message

namespace Stack

/-- What the monitors of a stack find when they are called one after the other. -/
def survey : Stack σ → σ → List Finding
  | [], _ => []
  | e :: rest, s => e.find s :: survey rest (e.monitor.check s).state

/-- The surroundings that the monitors of a stack leave. -/
def leave (stack : Stack σ) (s : σ) : σ :=
  stack.foldl (fun s e => (e.monitor.check s).state) s

theorem length_survey (stack : Stack σ) (s : σ) : (stack.survey s).length = stack.length := by
  induction stack generalizing s with
  | nil => rfl
  | cons e rest ih => rw [survey, List.length_cons, ih, List.length_cons]

/-- Each monitor is called in the surroundings that those before it in the stack leave. -/
theorem getElem?_survey (stack : Stack σ) (s : σ) (i : Nat) :
    (stack.survey s)[i]? = stack[i]?.map fun e => e.find (leave (stack.take i) s) := by
  induction stack generalizing s i with
  | nil => rfl
  | cons e rest ih =>
    cases i with
    | zero => rfl
    | succ i => exact ih (e.monitor.check s).state i

end Stack

/-- What a tick makes of an entry: what its monitor found and the strikes that it has then. -/
structure Sighting (σ : Type) where
  entry : Monitor.Entry σ
  finding : Finding
  strikes : UInt32

namespace Sighting

/-- What is reported of a sighting. -/
def event : Sighting σ → Event
  | ⟨e, .error text, _⟩ => .monitorError e.name text
  | ⟨e, .ok v, n⟩ =>
    if v.violated then .strikeRecorded e.name n e.maxStrikes v.payload else .monitorOk e.name v.payload

/-- The breach that a sighting is, if it is one. -/
def breach? : Sighting σ → Option Breach
  | ⟨_, .error _, _⟩ => none
  | ⟨e, .ok v, n⟩ => if v.violated then if e.maxStrikes < n then some ⟨e.name, n, e.maxStrikes, v.payload⟩ else none else none

/-- What is done about an entry in a tick. -/
def acts (s : Sighting σ) : List Act :=
  [.evaluated s.entry.name s.finding, .reported s.event]

/-- A strike is reported of the sightings with a violation, and with their numbers and payload. -/
theorem event_eq_strikeRecorded_iff {s : Sighting σ} {monitor : String} {strikes maxStrikes : UInt32} {payload : Payload} :
    s.event = .strikeRecorded monitor strikes maxStrikes payload ↔
      ∃ v, s.finding = .ok v ∧ v.violated = true ∧ monitor = s.entry.name ∧ strikes = s.strikes ∧
        maxStrikes = s.entry.maxStrikes ∧ payload = v.payload := by
  obtain ⟨e, finding, n⟩ := s
  cases finding with
  | error text => simp [event]
  | ok v =>
    cases hv : v.violated with
    | false => simp [event, hv]
    | true =>
      simp only [event, hv, if_true, Event.strikeRecorded.injEq]
      constructor
      · rintro ⟨rfl, rfl, rfl, rfl⟩
        exact ⟨v, rfl, hv, rfl, rfl, rfl, rfl⟩
      · rintro ⟨v, ⟨⟩, -, rfl, rfl, rfl, rfl⟩
        exact ⟨rfl, rfl, rfl, rfl⟩

/-- A breach is that of a strike beyond what the entry allows, and the strike was reported with the same numbers and payload. -/
theorem breach?_eq_some_iff {s : Sighting σ} {b : Breach} :
    s.breach? = some b ↔
      s.finding.violates = true ∧ s.entry.maxStrikes < s.strikes ∧ b.monitor = s.entry.name ∧
        s.event = .strikeRecorded b.monitor b.strikes b.maxStrikes b.payload := by
  obtain ⟨e, finding, n⟩ := s
  obtain ⟨monitor, strikes, maxStrikes, payload⟩ := b
  cases finding with
  | error text => simp [breach?, Finding.violates]
  | ok v =>
    by_cases hv : v.violated = true
    · by_cases hn : e.maxStrikes < n
      · simp only [breach?, event, Finding.violates, hv, hn, if_true, Option.some.injEq, Breach.mk.injEq, true_and,
          Event.strikeRecorded.injEq]
        exact ⟨fun h => ⟨h.1.symm, h⟩, fun h => h.2⟩
      · simp [breach?, hn, hv]
    · simp [breach?, hv, Finding.violates]

/-- A sighting is a breach if it is a violation beyond what the entry allows. -/
theorem breach?_ne_none_iff {s : Sighting σ} :
    s.breach? ≠ none ↔ s.finding.violates = true ∧ s.entry.maxStrikes < s.strikes := by
  rw [Option.ne_none_iff_exists']
  constructor
  · rintro ⟨b, hb⟩
    have h := breach?_eq_some_iff.mp hb
    exact ⟨h.1, h.2.1⟩
  · rintro ⟨hviolates, hlt⟩
    obtain ⟨e, finding, n⟩ := s
    cases finding with
    | error text => simp [Finding.violates] at hviolates
    | ok v =>
      simp only [Finding.violates] at hviolates
      exact ⟨⟨e.name, n, e.maxStrikes, v.payload⟩, by simp [breach?, hviolates, hlt]⟩

end Sighting

/-- Of sightings, just their events are reported. -/
theorem mem_flatMap_acts_iff {sightings : List (Sighting σ)} {event : Event} :
    Act.reported event ∈ sightings.flatMap Sighting.acts ↔ ∃ x ∈ sightings, x.event = event := by
  simp [Sighting.acts, eq_comm]

/-- The sighting that a tick makes of an entry, if the ledger has the entry's strikes before the tick. -/
def Monitor.Entry.sight (e : Monitor.Entry σ) (strikes : Strikes) (s : σ) : Sighting σ :=
  ⟨e, e.find s, nextCount (strikes.count e.name) (e.find s)⟩

namespace Stack

/-- The sightings of a tick. -/
def sightings (strikes : Strikes) (stack : Stack σ) (s : σ) : List (Sighting σ) :=
  List.zipWith (fun e f => ⟨e, f, nextCount (strikes.count e.name) f⟩) stack (stack.survey s)

/-- The sighting of the first entry comes first; the others are made in the surroundings that it leaves. -/
theorem sightings_cons (strikes : Strikes) (e : Monitor.Entry σ) (rest : Stack σ) (s : σ) :
    sightings strikes (e :: rest) s = e.sight strikes s :: sightings strikes rest (e.monitor.check s).state := rfl

/-- The sightings of a tick depend on the ledger only through the strikes of the entries. -/
theorem sightings_congr {strikes strikes' : Strikes} {stack : Stack σ}
    (h : ∀ e ∈ stack, strikes.count e.name = strikes'.count e.name) (s : σ) :
    stack.sightings strikes s = stack.sightings strikes' s := by
  induction stack generalizing s with
  | nil => rfl
  | cons e rest ih =>
    rw [sightings_cons, sightings_cons, Monitor.Entry.sight, Monitor.Entry.sight, h e List.mem_cons_self,
      ih (fun e' he' => h e' (List.mem_cons_of_mem e he'))]

end Stack

namespace Strikes

/-- The ledger after a finding about a name. -/
def score (s : Strikes) (name : String) (f : Finding) : Strikes :=
  if f.violates then s.record name else s.reset name

/-- A finding brings the strikes of its name to their next count. -/
theorem count_score_self (s : Strikes) (name : String) (f : Finding) :
    (s.score name f).count name = nextCount (s.count name) f := by
  cases h : f.violates <;> simp [score, nextCount, h]

theorem count_score_of_ne (s : Strikes) {name other : String} (f : Finding) (h : other ≠ name) :
    (s.score name f).count other = s.count other := by
  unfold score
  split
  · exact count_record_of_ne s h
  · exact count_reset_of_ne s h

end Strikes

namespace Configuration

/-- Visiting an entry notes and reports its sighting, brings the ledger up to date and keeps the first breach. -/
theorem visit_eq (c : Configuration σ ρ) (t : Tick σ ρ) (e : Monitor.Entry σ) :
    c.visit t e =
      { scene := ((t.scene.receive (e.monitor.check t.scene.surroundings)).note
          (.evaluated e.name (e.find t.scene.surroundings))).emit c.reporter (e.sight t.strikes t.scene.surroundings).event
        strikes := t.strikes.score e.name (e.find t.scene.surroundings)
        breach := t.breach <|> (e.sight t.strikes t.scene.surroundings).breach? } := by
  obtain ⟨sc, strikes, breach⟩ := t
  simp only [visit, evaluate, Monitor.Entry.sight, Monitor.Entry.find]
  cases h : (e.monitor.check sc.surroundings).ending.finding "monitor panicked" MonitorError.message with
  | error text => simp [Sighting.event, Sighting.breach?, Strikes.score, Finding.violates]
  | ok v =>
    cases hv : v.violated with
    | false => simp [Sighting.event, Sighting.breach?, Strikes.score, Finding.violates, hv]
    | true => simp [Sighting.event, Sighting.breach?, Strikes.score, nextCount, Finding.violates, hv]

/-- What visiting the entries of a stack makes of a tick on its way. -/
structure Visited (c : Configuration σ ρ) (stack : Stack σ) (t t' : Tick σ ρ) : Prop where
  did : Scene.Did c.reporter ((stack.sightings t.strikes t.scene.surroundings).flatMap Sighting.acts) t.scene t'.scene
  surroundings : t'.scene.surroundings = stack.leave t.scene.surroundings
  dumps : t'.scene.dumps = t.scene.dumps
  state : t.scene.control.state ≠ .idle → t'.scene.control.state = t.scene.control.state
  breach : t'.breach = (t.breach <|> (stack.sightings t.strikes t.scene.surroundings).findSome? Sighting.breach?)
  count_of_mem : ∀ s ∈ stack.sightings t.strikes t.scene.surroundings, t'.strikes.count s.entry.name = s.strikes
  count_of_not_mem : ∀ name ∉ stack.names, t'.strikes.count name = t.strikes.count name

/-- Of the surroundings a visit changes what the entry's monitor changes. -/
theorem surroundings_visit (c : Configuration σ ρ) (t : Tick σ ρ) (e : Monitor.Entry σ) :
    (c.visit t e).scene.surroundings = (e.monitor.check t.scene.surroundings).state := by
  rw [visit_eq]
  rfl

/-- The ledger after a visit is that after the finding of the entry's monitor. -/
theorem strikes_visit (c : Configuration σ ρ) (t : Tick σ ρ) (e : Monitor.Entry σ) :
    (c.visit t e).strikes = t.strikes.score e.name (e.find t.scene.surroundings) := by
  rw [visit_eq]

/-- Visiting an entry notes the evaluation and then its report, and nothing else. -/
theorem did_visit (c : Configuration σ ρ) (t : Tick σ ρ) (e : Monitor.Entry σ) :
    Scene.Did c.reporter (e.sight t.strikes t.scene.surroundings).acts t.scene (c.visit t e).scene := by
  rw [visit_eq]
  exact ((Scene.did_receive _ _).trans (Scene.did_note rfl _)).trans (Scene.did_emit _ _ _)

/-- Nothing in a visit starts or ends the watchdog. -/
theorem state_visit (c : Configuration σ ρ) (t : Tick σ ρ) (e : Monitor.Entry σ) (h : t.scene.control.state ≠ .idle) :
    (c.visit t e).scene.control.state = t.scene.control.state := by
  rw [visit_eq]
  have hreceive := Scene.state_receive (e.monitor.check t.scene.surroundings) h
  rw [Scene.state_emit _ _ (by rw [Scene.control_note, hreceive]; exact h), Scene.control_note, hreceive]

/-- Visits to the entries of a stack, whose names are distinct, make of a tick what their sightings say. -/
theorem visited_foldl (c : Configuration σ ρ) {stack : Stack σ} (h : stack.names.Nodup) (t : Tick σ ρ) :
    Visited c stack t (stack.foldl c.visit t) := by
  induction stack generalizing t with
  | nil =>
    exact ⟨Scene.Did.refl _, rfl, rfl, fun _ => rfl, by simp [Stack.sightings], by simp [Stack.sightings], fun _ _ => rfl⟩
  | cons e rest ih =>
    obtain ⟨hfirst, hrest⟩ := List.nodup_cons.mp h
    have hne : ∀ e' ∈ rest, e'.name ≠ e.name := fun e' he' hname => hfirst (List.mem_map.mpr ⟨e', he', hname⟩)
    -- The other entries have the strikes that they had before the visit, since their names are others.
    have hsightings : Stack.sightings (c.visit t e).strikes rest (c.visit t e).scene.surroundings =
        Stack.sightings t.strikes rest (e.monitor.check t.scene.surroundings).state := by
      rw [surroundings_visit, strikes_visit]
      exact Stack.sightings_congr (fun e' he' => Strikes.count_score_of_ne _ _ (hne e' he')) _
    have hv := ih hrest (c.visit t e)
    have hmine : (rest.foldl c.visit (c.visit t e)).strikes.count e.name = (e.sight t.strikes t.scene.surroundings).strikes := by
      rw [hv.count_of_not_mem e.name hfirst, strikes_visit, Strikes.count_score_self]
      rfl
    rw [List.foldl_cons]
    refine ⟨?_, ?_, ?_, fun hidle => ?_, ?_, ?_, fun name hname => ?_⟩
    · rw [Stack.sightings_cons, List.flatMap_cons, ← hsightings]
      exact (did_visit c t e).trans hv.did
    · rw [hv.surroundings, surroundings_visit]
      rfl
    · rw [hv.dumps, visit_eq]
      rfl
    · rw [hv.state (by rw [state_visit c t e hidle]; exact hidle), state_visit c t e hidle]
    · rw [hv.breach, hsightings, visit_eq, Stack.sightings_cons, List.findSome?_cons]
      cases t.breach <;> cases (e.sight t.strikes t.scene.surroundings).breach? <;> rfl
    · intro s hs
      rw [Stack.sightings_cons, List.mem_cons] at hs
      rcases hs with rfl | hs
      · exact hmine
      · exact hv.count_of_mem s (by rw [hsightings]; exact hs)
    · rw [Stack.names, List.map_cons, List.mem_cons, not_or] at hname
      rw [hv.count_of_not_mem name hname.2, strikes_visit, Strikes.count_score_of_ne _ _ hname.1]

/-! ## Escalations -/

/-- The acts of an escalation: the breach is reported, a heap report is requested if the configuration says so, and only then the
handler is called and the event about that call is reported. -/
def escalation (c : Configuration σ ρ) (b : Breach) (e : Event) : List Act :=
  .reported (.thresholdExceeded b.monitor b.strikes b.maxStrikes b.payload) ::
    ((if c.writeHeapDumps then [.dumpRequested b.monitor, .reported (.heapDumpRequested b.monitor)] else []) ++
      [.handlerCalled b.monitor, .reported e])

/-- The scene in which an escalation calls the handler. -/
def beforeHandler (c : Configuration σ ρ) (b : Breach) (sc : Scene σ ρ) : Scene σ ρ :=
  c.requestDump b (sc.emit c.reporter (.thresholdExceeded b.monitor b.strikes b.maxStrikes b.payload))

theorem escalate_eq (c : Configuration σ ρ) (b : Breach) (sc : Scene σ ρ) :
    c.escalate b sc = c.callHandler b (c.beforeHandler b sc) := rfl

/-- When the handler is called, a heap report is already requested if the configuration says so, and otherwise the queue is as the
tick found it. -/
theorem pending_beforeHandler (c : Configuration σ ρ) (b : Breach) (sc : Scene σ ρ) :
    (c.beforeHandler b sc).dumps.pending = (c.writeHeapDumps || sc.dumps.pending) := by
  unfold beforeHandler requestDump
  split
  · next h => simp [h]
  · next h => simp [h]

/-- Nothing that comes before the call changes the surroundings. -/
theorem surroundings_beforeHandler (c : Configuration σ ρ) (b : Breach) (sc : Scene σ ρ) :
    (c.beforeHandler b sc).surroundings = sc.surroundings := by
  unfold beforeHandler requestDump
  split <;> rfl

/-- Of the surroundings an escalation changes what its handler changes. -/
theorem surroundings_escalate (c : Configuration σ ρ) (b : Breach) (sc : Scene σ ρ) :
    (c.escalate b sc).surroundings = (c.handler.call sc.surroundings).state := by
  rw [← surroundings_beforeHandler c b sc]
  rfl

/-- A request for a heap report is noted and reported, if the configuration wants reports, and else nothing is. -/
theorem did_requestDump (c : Configuration σ ρ) (b : Breach) (sc : Scene σ ρ) :
    Scene.Did c.reporter (if c.writeHeapDumps then [.dumpRequested b.monitor, .reported (.heapDumpRequested b.monitor)] else [])
      sc (c.requestDump b sc) := by
  unfold requestDump
  split
  · have henqueue : Scene.Did c.reporter [] sc { sc with dumps := sc.dumps.enqueue } := ⟨by simp [Scene.history], rfl⟩
    exact (henqueue.trans (Scene.did_note rfl _)).trans (Scene.did_emit _ _ _)
  · exact Scene.Did.refl sc

/-- Before the handler is called the breach is reported and a heap report requested, if one is. -/
theorem did_beforeHandler (c : Configuration σ ρ) (b : Breach) (sc : Scene σ ρ) :
    Scene.Did c.reporter
      (.reported (.thresholdExceeded b.monitor b.strikes b.maxStrikes b.payload) ::
        if c.writeHeapDumps then [.dumpRequested b.monitor, .reported (.heapDumpRequested b.monitor)] else [])
      sc (c.beforeHandler b sc) :=
  (Scene.did_emit _ _ _).trans (c.did_requestDump b _)

/-- The call to the handler is noted, and then an event is reported that tells how it ended. -/
theorem did_callHandler (c : Configuration σ ρ) (b : Breach) (sc : Scene σ ρ) :
    Scene.Did c.reporter [.handlerCalled b.monitor, .reported (c.handlerEvent b (c.handler.call sc.surroundings).ending)]
      sc (c.callHandler b sc) :=
  ((Scene.did_receive _ _).trans (Scene.did_note rfl _)).trans (Scene.did_emit _ _ _)

/-- An escalation notes just these acts, in this order. -/
theorem did_escalate (c : Configuration σ ρ) (b : Breach) (sc : Scene σ ρ) :
    Scene.Did c.reporter (c.escalation b (c.handlerEvent b (c.handler.call sc.surroundings).ending)) sc (c.escalate b sc) := by
  have hcall := c.did_callHandler b (c.beforeHandler b sc)
  rw [surroundings_beforeHandler] at hcall
  exact (c.did_beforeHandler b sc).trans hcall

end Configuration

end MemoryWatchdog
