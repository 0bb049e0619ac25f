import MemoryWatchdog.Proofs.Course

/-!
# Two runs side by side

Two watchdogs are variants of each other if they differ in no more than this: the reporters, as long as they ask for stops alike; what
the handler's call ends with; and findings of monitors that are no violations. Each step of the one has then a step of the other that
leaves a scene beside it (`Scene.Beside`): the same surroundings, requests and control, and a log that differs only in what is logged
about reports. So the two runs are at the same place after any number of wake-ups (`course_beside`), and their acts differ only in the
findings that differ, the events that tell of these, and the event after the call to the handler (`Retold`).
-/

namespace MemoryWatchdog

variable {σ ρ₁ ρ₂ : Type}

/-! ## What may differ -/

/-- The event that is reported of a finding that is no violation. -/
def Finding.told (monitor : String) : Finding → Event
  | .ok v => .monitorOk monitor v.payload
  | .error text => .monitorError monitor text

/-- The event that is reported of how a call to the handler ended. -/
inductive Handler.Tells (h : Handler σ) (monitor : String) : Ending (Except HandlerError Unit) → Event → Prop
  | success : Tells h monitor (.returned (.ok ())) (.handlerInvoked monitor h.name)
  | error (e : HandlerError) : Tells h monitor (.returned (.error e)) (.handlerFailed monitor h.name e.message)
  | panic (p : Panic) : Tells h monitor (.panicked p) (.handlerFailed monitor h.name ("handler panicked: " ++ p.message))

/-- The event that would have been reported if nothing had failed, without its payload. -/
def Event.outline : Event → Event
  | .monitorOk monitor _ => .monitorOk monitor []
  | .monitorError monitor _ => .monitorOk monitor []
  | .handlerFailed monitor handler _ => .handlerInvoked monitor handler
  | event => event

/-- Two replies that differ at most in how the call ended. -/
structure Reply.SameEffects {α : Type} (a b : Reply σ α) : Prop where
  state : b.state = a.state
  log : b.log = a.log
  stops : b.stops = a.stops

theorem Reply.SameEffects.refl {α : Type} (a : Reply σ α) : a.SameEffects a :=
  ⟨rfl, rfl, rfl⟩

/-- Entries whose monitors have the same effects and find the same, but for findings that may be replaced. -/
structure Monitor.Entry.Variant (replaces : Finding → Finding → Prop) (e₁ e₂ : Monitor.Entry σ) : Prop where
  name : e₂.name = e₁.name
  maxStrikes : e₂.maxStrikes = e₁.maxStrikes
  effects : ∀ s, (e₁.monitor.check s).SameEffects (e₂.monitor.check s)
  finding : ∀ s, e₂.find s = e₁.find s ∨ replaces (e₁.find s) (e₂.find s)

theorem Monitor.Entry.Variant.refl (replaces : Finding → Finding → Prop) (e : Monitor.Entry σ) : e.Variant replaces e :=
  ⟨rfl, rfl, fun _ => .refl _, fun _ => .inl rfl⟩

/-- Handlers of one name whose calls have the same effects, but may end in different ways. -/
structure Handler.Variant (h₁ h₂ : Handler σ) : Prop where
  name : h₂.name = h₁.name
  effects : ∀ s, (h₁.call s).SameEffects (h₂.call s)

/-- Reporters that ask for stops alike, whether or not the events tell of failures. The relation is between their states. -/
structure Reporter.AskAlike (alike : ρ₁ → ρ₂ → Prop) (r₁ : Reporter ρ₁) (r₂ : Reporter ρ₂) : Prop where
  stops : ∀ e₁ e₂ s₁ s₂, e₂.outline = e₁.outline → alike s₁ s₂ → r₂.stops e₂ s₂ = r₁.stops e₁ s₁
  take : ∀ e₁ e₂ s₁ s₂, e₂.outline = e₁.outline → alike s₁ s₂ → alike (r₁.take s₁ e₁) (r₂.take s₂ e₂)

/-- Reporters that never ask for a stop ask alike. -/
theorem Reporter.askAlike_of_never {r₁ : Reporter ρ₁} {r₂ : Reporter ρ₂} (h₁ : ∀ e s, r₁.stops e s = false)
    (h₂ : ∀ e s, r₂.stops e s = false) : AskAlike (fun _ _ => True) r₁ r₂ :=
  ⟨fun _ _ _ _ _ _ => by rw [h₁, h₂], fun _ _ _ _ _ _ => trivial⟩

/-- Watchdogs that differ in no more than their reporters, the findings that may be replaced, and how the handler's call ends. -/
structure Watchdog.Variant (replaces : Finding → Finding → Prop) (alike : ρ₁ → ρ₂ → Prop) (w₁ : Watchdog σ ρ₁)
    (w₂ : Watchdog σ ρ₂) : Prop where
  interval : w₂.interval = w₁.interval
  writeHeapDumps : w₂.writeHeapDumps = w₁.writeHeapDumps
  monitors : List.Forall₂ (Monitor.Entry.Variant replaces) w₁.monitors w₂.monitors
  handler : w₁.handler.Variant w₂.handler
  reporter : w₁.reporter.AskAlike alike w₂.reporter

/-! ## How acts and logs may differ -/

/-- Whether an act is a call to the handler or the report about one. -/
def Act.concernsHandler : Act → Bool
  | .handlerCalled _ => true
  | .reported (.handlerInvoked ..) => true
  | .reported (.handlerFailed ..) => true
  | _ => false

/-- Two lists of acts that are the same act by act, but for findings that were replaced, each with the event that tells of it, and for
the events after a call to the handler. Each of these tells how the call ended, which was made in the same surroundings on both sides. -/
inductive Retold (replaces : Finding → Finding → Prop) (calledIn : σ → Prop) (h₁ h₂ : Handler σ) : List Act → List Act → Prop
  | nil : Retold replaces calledIn h₁ h₂ [] []
  | same (act : Act) (elsewhere : act.concernsHandler = false) {acts₁ acts₂ : List Act}
      (retold : Retold replaces calledIn h₁ h₂ acts₁ acts₂) :
      Retold replaces calledIn h₁ h₂ (acts₁ ++ [act]) (acts₂ ++ [act])
  | replaced (monitor : String) {f₁ f₂ : Finding} (replaced : replaces f₁ f₂) {acts₁ acts₂ : List Act}
      (retold : Retold replaces calledIn h₁ h₂ acts₁ acts₂) :
      Retold replaces calledIn h₁ h₂ (acts₁ ++ [.evaluated monitor f₁, .reported (f₁.told monitor)])
        (acts₂ ++ [.evaluated monitor f₂, .reported (f₂.told monitor)])
  | answered (monitor : String) {s : σ} (called : calledIn s) {event₁ event₂ : Event}
      (tells₁ : h₁.Tells monitor (h₁.call s).ending event₁) (tells₂ : h₂.Tells monitor (h₂.call s).ending event₂)
      {acts₁ acts₂ : List Act} (retold : Retold replaces calledIn h₁ h₂ acts₁ acts₂) :
      Retold replaces calledIn h₁ h₂ (acts₁ ++ [.handlerCalled monitor, .reported event₁])
        (acts₂ ++ [.handlerCalled monitor, .reported event₂])

/-- Acts stay retold if the handler may have been called in more surroundings. -/
theorem Retold.mono {replaces : Finding → Finding → Prop} {calledIn calledIn' : σ → Prop} {h₁ h₂ : Handler σ}
    (h : ∀ s, calledIn s → calledIn' s) {acts₁ acts₂ : List Act} (retold : Retold replaces calledIn h₁ h₂ acts₁ acts₂) :
    Retold replaces calledIn' h₁ h₂ acts₁ acts₂ := by
  induction retold with
  | nil => exact .nil
  | same act elsewhere _ ih => exact .same act elsewhere ih
  | replaced monitor replaced _ ih => exact .replaced monitor replaced ih
  | answered monitor called tells₁ tells₂ _ ih => exact .answered monitor (h _ called) tells₁ tells₂ ih

/-- What is logged about a report: what the reporter logs itself, and the warning if the report failed or panicked. -/
def Reporter.wording {ρ : Type} (r : Reporter ρ) (e : Event) (state : ρ) : Log :=
  (r.report e state).2.2 ++ Scene.reportWarning e (r.report e state).1

/-- A report adds to the log what is logged about it and nothing else. -/
theorem Scene.log_emit {ρ : Type} (r : Reporter ρ) (e : Event) (sc : Scene σ ρ) :
    (sc.emit r e).log = sc.log ++ r.wording e sc.reporter :=
  Array.append_assoc

/-- Two logs that differ only in what is logged about reports, after the reporters received events one by one. -/
inductive LogsApart (r₁ : Reporter ρ₁) (r₂ : Reporter ρ₂) (s₁ : ρ₁) (s₂ : ρ₂) : List Event → List Event → Log → Log → Prop
  | same (log : Log) : LogsApart r₁ r₂ s₁ s₂ [] [] log log
  | lines (more : Log) {events₁ events₂ : List Event} {log₁ log₂ : Log} (apart : LogsApart r₁ r₂ s₁ s₂ events₁ events₂ log₁ log₂) :
      LogsApart r₁ r₂ s₁ s₂ events₁ events₂ (log₁ ++ more) (log₂ ++ more)
  | report (e₁ e₂ : Event) {events₁ events₂ : List Event} {log₁ log₂ : Log}
      (apart : LogsApart r₁ r₂ s₁ s₂ events₁ events₂ log₁ log₂) :
      LogsApart r₁ r₂ s₁ s₂ (events₁ ++ [e₁]) (events₂ ++ [e₂]) (log₁ ++ r₁.wording e₁ (events₁.foldl r₁.take s₁))
        (log₂ ++ r₂.wording e₂ (events₂.foldl r₂.take s₂))

/-- Two scenes that came from two starts by acts of their own, and agree in all but what the reporters made of these. -/
structure Scene.Beside (alike : ρ₁ → ρ₂ → Prop) (r₁ : Reporter ρ₁) (r₂ : Reporter ρ₂) (start₁ : Scene σ ρ₁) (start₂ : Scene σ ρ₂)
    (acts₁ acts₂ : List Act) (sc₁ : Scene σ ρ₁) (sc₂ : Scene σ ρ₂) : Prop where
  did₁ : Scene.Did r₁ acts₁ start₁ sc₁
  did₂ : Scene.Did r₂ acts₂ start₂ sc₂
  surroundings : sc₂.surroundings = sc₁.surroundings
  dumps : sc₂.dumps = sc₁.dumps
  control : sc₂.control = sc₁.control
  reporter : alike sc₁.reporter sc₂.reporter
  log : LogsApart r₁ r₂ start₁.reporter start₂.reporter (reports acts₁) (reports acts₂) sc₁.log sc₂.log

/-- The same scene with another state of another reporter. -/
def Scene.withReporter {ρ ρ' : Type} (sc : Scene σ ρ) (state : ρ') : Scene σ ρ' where
  surroundings := sc.surroundings
  reporter := state
  dumps := sc.dumps
  control := sc.control
  log := sc.log
  journal := sc.journal

namespace Scene.Beside

variable {alike : ρ₁ → ρ₂ → Prop} {r₁ : Reporter ρ₁} {r₂ : Reporter ρ₂} {start₁ : Scene σ ρ₁} {start₂ : Scene σ ρ₂}
  {acts₁ acts₂ : List Act} {sc₁ : Scene σ ρ₁} {sc₂ : Scene σ ρ₂}

/-- Both take in replies that have the same effects. -/
theorem receive {α : Type} (h : Beside alike r₁ r₂ start₁ start₂ acts₁ acts₂ sc₁ sc₂) {reply₁ reply₂ : Reply σ α}
    (effects : reply₁.SameEffects reply₂) :
    Beside alike r₁ r₂ start₁ start₂ acts₁ acts₂ (sc₁.receive reply₁) (sc₂.receive reply₂) where
  did₁ := by simpa using h.did₁.trans (did_receive reply₁ sc₁)
  did₂ := by simpa using h.did₂.trans (did_receive reply₂ sc₂)
  surroundings := effects.state
  dumps := h.dumps
  control := by rw [control_receive, control_receive, h.control, effects.stops]
  reporter := h.reporter
  log := by
    rw [Scene.receive, Scene.receive, effects.log]
    exact .lines _ h.log

/-- Both note an act that is no report. -/
theorem note (h : Beside alike r₁ r₂ start₁ start₂ acts₁ acts₂ sc₁ sc₂) (act₁ act₂ : Act) (h₁ : act₁.event? = none)
    (h₂ : act₂.event? = none) :
    Beside alike r₁ r₂ start₁ start₂ (acts₁ ++ [act₁]) (acts₂ ++ [act₂]) (sc₁.note act₁) (sc₂.note act₂) where
  did₁ := h.did₁.trans (did_note h₁ sc₁)
  did₂ := h.did₂.trans (did_note h₂ sc₂)
  surroundings := h.surroundings
  dumps := h.dumps
  control := h.control
  reporter := h.reporter
  log := by simpa [reports, h₁, h₂, Scene.note] using h.log

/-- Both report an event, and the reporters ask for stops alike. -/
theorem emit (h : Beside alike r₁ r₂ start₁ start₂ acts₁ acts₂ sc₁ sc₂) (asks : r₁.AskAlike alike r₂) {e₁ e₂ : Event}
    (outline : e₂.outline = e₁.outline) :
    Beside alike r₁ r₂ start₁ start₂ (acts₁ ++ [.reported e₁]) (acts₂ ++ [.reported e₂]) (sc₁.emit r₁ e₁) (sc₂.emit r₂ e₂) where
  did₁ := h.did₁.trans (did_emit r₁ e₁ sc₁)
  did₂ := h.did₂.trans (did_emit r₂ e₂ sc₂)
  surroundings := h.surroundings
  dumps := h.dumps
  control := by rw [control_emit, control_emit, h.control, asks.stops _ _ _ _ outline h.reporter]
  reporter := asks.take _ _ _ _ outline h.reporter
  log := by
    have hlog := LogsApart.report e₁ e₂ h.log
    rw [← h.did₁.reporter, ← h.did₂.reporter] at hlog
    rw [log_emit, log_emit, reports_append, reports_append]
    exact hlog

/-- Both controls change in the same way. -/
theorem withControl (h : Beside alike r₁ r₂ start₁ start₂ acts₁ acts₂ sc₁ sc₂) (change : Control → Control) :
    Beside alike r₁ r₂ start₁ start₂ acts₁ acts₂ { sc₁ with control := change sc₁.control }
      { sc₂ with control := change sc₂.control } where
  did₁ := ⟨h.did₁.history, h.did₁.reporter⟩
  did₂ := ⟨h.did₂.history, h.did₂.reporter⟩
  surroundings := h.surroundings
  dumps := h.dumps
  control := by rw [h.control]
  reporter := h.reporter
  log := h.log

/-- Both queues change in the same way. -/
theorem withDumps (h : Beside alike r₁ r₂ start₁ start₂ acts₁ acts₂ sc₁ sc₂) (change : DumpQueue → DumpQueue) :
    Beside alike r₁ r₂ start₁ start₂ acts₁ acts₂ { sc₁ with dumps := change sc₁.dumps } { sc₂ with dumps := change sc₂.dumps } where
  did₁ := ⟨h.did₁.history, h.did₁.reporter⟩
  did₂ := ⟨h.did₂.history, h.did₂.reporter⟩
  surroundings := h.surroundings
  dumps := by rw [h.dumps]
  control := h.control
  reporter := h.reporter
  log := h.log

/-- Both write the same line. -/
theorem withLine (h : Beside alike r₁ r₂ start₁ start₂ acts₁ acts₂ sc₁ sc₂) (line : Log.Entry) :
    Beside alike r₁ r₂ start₁ start₂ acts₁ acts₂ { sc₁ with log := sc₁.log.push line } { sc₂ with log := sc₂.log.push line } where
  did₁ := ⟨h.did₁.history, h.did₁.reporter⟩
  did₂ := ⟨h.did₂.history, h.did₂.reporter⟩
  surroundings := h.surroundings
  dumps := h.dumps
  control := h.control
  reporter := h.reporter
  log := by
    rw [Array.push_eq_append, Array.push_eq_append]
    exact .lines _ h.log

/-- The rest of the process does the same beside both. -/
theorem act (h : Beside alike r₁ r₂ start₁ start₂ acts₁ acts₂ sc₁ sc₂) (i : Interlude σ) :
    Beside alike r₁ r₂ start₁ start₂ acts₁ acts₂ (i.act sc₁) (i.act sc₂) where
  did₁ := by simpa using h.did₁.trans (Interlude.did_act i r₁ sc₁)
  did₂ := by simpa using h.did₂.trans (Interlude.did_act i r₂ sc₂)
  surroundings := congrArg i.change h.surroundings
  dumps := by rw [Interlude.act, Interlude.act, h.dumps]
  control := by rw [Interlude.control_act, Interlude.control_act, h.control]
  reporter := h.reporter
  log := .lines i.log h.log

end Scene.Beside

/-! ## Sightings -/

/-- What is reported of a sighting depends on no more of the entry than its name and its allowance. -/
theorem Sighting.event_congr {e₁ e₂ : Monitor.Entry σ} (hname : e₂.name = e₁.name) (hmax : e₂.maxStrikes = e₁.maxStrikes)
    (f : Finding) (n : UInt32) : Sighting.event ⟨e₂, f, n⟩ = Sighting.event ⟨e₁, f, n⟩ := by
  cases f <;> simp [event, hname, hmax]

/-- Whether a sighting is a breach depends on no more of the entry either. -/
theorem Sighting.breach?_congr {e₁ e₂ : Monitor.Entry σ} (hname : e₂.name = e₁.name) (hmax : e₂.maxStrikes = e₁.maxStrikes)
    (f : Finding) (n : UInt32) : Sighting.breach? ⟨e₂, f, n⟩ = Sighting.breach? ⟨e₁, f, n⟩ := by
  cases f <;> simp [breach?, hname, hmax]

/-- What is reported of a sighting without a violation depends on no strikes. -/
theorem Sighting.event_of_not_violates {e : Monitor.Entry σ} {f : Finding} (h : f.violates = false) (n : UInt32) :
    Sighting.event ⟨e, f, n⟩ = f.told e.name := by
  cases f with
  | error text => rfl
  | ok v =>
    have hv : v.violated = false := h
    simp [event, Finding.told, hv]

/-- A sighting without a violation is no breach. -/
theorem Sighting.breach?_of_not_violates {e : Monitor.Entry σ} {f : Finding} (h : f.violates = false) (n : UInt32) :
    Sighting.breach? ⟨e, f, n⟩ = none := by
  cases f with
  | error text => rfl
  | ok v =>
    have hv : v.violated = false := h
    simp [breach?, hv]

/-- What is reported of a sighting is not about a call to the handler. -/
theorem Sighting.not_concernsHandler_event (x : Sighting σ) : (Act.reported x.event).concernsHandler = false := by
  obtain ⟨e, finding, n⟩ := x
  cases finding with
  | error text => rfl
  | ok v => cases hv : v.violated <;> simp [event, hv, Act.concernsHandler]

/-- The events that tell of two findings of one monitor have one outline. -/
theorem Finding.outline_told (monitor : String) (f g : Finding) : (g.told monitor).outline = (f.told monitor).outline := by
  cases f <;> cases g <;> rfl

/-- A finding that is no violation takes the strikes away. -/
theorem Strikes.score_of_not_violates (s : Strikes) (name : String) {f : Finding} (h : f.violates = false) :
    s.score name f = s.reset name := by
  simp [score, h]

/-- Whatever two calls to the handlers come to, the events that tell of them have one outline. -/
theorem Handler.Variant.outline_of_tells {h₁ h₂ : Handler σ} (h : h₁.Variant h₂) {monitor : String}
    {ending₁ ending₂ : Ending (Except HandlerError Unit)} {event₁ event₂ : Event} (tells₁ : h₁.Tells monitor ending₁ event₁)
    (tells₂ : h₂.Tells monitor ending₂ event₂) : event₂.outline = event₁.outline := by
  cases tells₁ <;> cases tells₂ <;> simp [Event.outline, h.name]

/-- The event after a call to the handler tells how the call ended. -/
theorem Configuration.tells_handlerEvent {ρ : Type} (c : Configuration σ ρ) (b : Breach) (ending : Ending (Except HandlerError Unit)) :
    c.handler.Tells b.monitor ending (c.handlerEvent b ending) := by
  cases ending with
  | panicked p => exact .panic p
  | returned value =>
    cases value with
    | error e => exact .error e
    | ok value => exact .success

/-- Variants of entries have the same names, in the same order. -/
theorem Stack.names_of_variant {replaces : Finding → Finding → Prop} {stack₁ stack₂ : Stack σ}
    (h : List.Forall₂ (Monitor.Entry.Variant replaces) stack₁ stack₂) : stack₂.names = stack₁.names := by
  induction h with
  | nil => rfl
  | cons he _ ih => rw [names, names, List.map_cons, List.map_cons, he.name, ← names, ← names, ih]

/-! ## Steps -/

namespace Watchdog

variable {replaces : Finding → Finding → Prop} {alike : ρ₁ → ρ₂ → Prop} {calledIn : σ → Prop} {w₁ : Watchdog σ ρ₁} {w₂ : Watchdog σ ρ₂}
  {start₁ : Scene σ ρ₁} {start₂ : Scene σ ρ₂}

/-- Scenes that two watchdogs left which did the same, but for what may be told in another way. -/
def Beside (replaces : Finding → Finding → Prop) (alike : ρ₁ → ρ₂ → Prop) (calledIn : σ → Prop) (w₁ : Watchdog σ ρ₁)
    (w₂ : Watchdog σ ρ₂) (start₁ : Scene σ ρ₁) (start₂ : Scene σ ρ₂) (sc₁ : Scene σ ρ₁) (sc₂ : Scene σ ρ₂) : Prop :=
  ∃ acts₁ acts₂, Scene.Beside alike w₁.reporter w₂.reporter start₁ start₂ acts₁ acts₂ sc₁ sc₂ ∧
    Retold replaces calledIn w₁.handler w₂.handler acts₁ acts₂

/-- Ticks on their way that left such scenes with the same ledger and breach. -/
structure TicksBeside (replaces : Finding → Finding → Prop) (alike : ρ₁ → ρ₂ → Prop) (calledIn : σ → Prop) (w₁ : Watchdog σ ρ₁)
    (w₂ : Watchdog σ ρ₂) (start₁ : Scene σ ρ₁) (start₂ : Scene σ ρ₂) (t₁ : Tick σ ρ₁) (t₂ : Tick σ ρ₂) : Prop where
  scene : Beside replaces alike calledIn w₁ w₂ start₁ start₂ t₁.scene t₂.scene
  strikes : t₂.strikes = t₁.strikes
  breach : t₂.breach = t₁.breach

/-- Two runs that start in one scene, each with its own reporter, start side by side. -/
theorem beside_withReporter (start : Scene σ ρ₁) {state : ρ₂} (h : alike start.reporter state) :
    Beside replaces alike calledIn w₁ w₂ start (start.withReporter state) start (start.withReporter state) :=
  ⟨[], [], ⟨Scene.Did.refl _, Scene.Did.refl _, rfl, rfl, rfl, h, .same _⟩, .nil⟩

/-- Both report the same event, which is not about a call to the handler. -/
theorem Beside.emit (v : w₁.Variant replaces alike w₂) {sc₁ : Scene σ ρ₁} {sc₂ : Scene σ ρ₂}
    (h : Beside replaces alike calledIn w₁ w₂ start₁ start₂ sc₁ sc₂) {e : Event} (he : (Act.reported e).concernsHandler = false) :
    Beside replaces alike calledIn w₁ w₂ start₁ start₂ (sc₁.emit w₁.reporter e) (sc₂.emit w₂.reporter e) := by
  obtain ⟨acts₁, acts₂, hscenes, hretold⟩ := h
  exact ⟨_, _, hscenes.emit v.reporter rfl, .same _ he hretold⟩

/-- Visits to variants of an entry leave ticks beside each other, if only findings without a violation are replaced. -/
theorem TicksBeside.visit (v : w₁.Variant replaces alike w₂)
    (hreplaces : ∀ f₁ f₂, replaces f₁ f₂ → f₁.violates = false ∧ f₂.violates = false) {e₁ e₂ : Monitor.Entry σ}
    (he : e₁.Variant replaces e₂) {t₁ : Tick σ ρ₁} {t₂ : Tick σ ρ₂} (h : TicksBeside replaces alike calledIn w₁ w₂ start₁ start₂ t₁ t₂) :
    TicksBeside replaces alike calledIn w₁ w₂ start₁ start₂ (w₁.visit t₁ e₁) (w₂.visit t₂ e₂) := by
  obtain ⟨acts₁, acts₂, hscenes, hretold⟩ := h.scene
  have hcalled := hscenes.receive (he.effects t₁.scene.surroundings)
  rw [Configuration.visit_eq, Configuration.visit_eq, h.strikes, h.breach, hscenes.surroundings]
  rcases he.finding t₁.scene.surroundings with hsame | hreplaced
  · -- The monitors found the same, and the same is told of it.
    have hevent := Sighting.event_congr he.name he.maxStrikes (e₁.find t₁.scene.surroundings)
      (nextCount (t₁.strikes.count e₁.name) (e₁.find t₁.scene.surroundings))
    have hbreach := Sighting.breach?_congr he.name he.maxStrikes (e₁.find t₁.scene.surroundings)
      (nextCount (t₁.strikes.count e₁.name) (e₁.find t₁.scene.surroundings))
    simp only [Monitor.Entry.sight, hsame, he.name]
    rw [hevent, hbreach]
    refine ⟨⟨_, _, (hcalled.note _ _ rfl rfl).emit v.reporter rfl, .same _ (Sighting.not_concernsHandler_event _) (.same _ rfl hretold)⟩, rfl, rfl⟩
  · obtain ⟨hfine₁, hfine₂⟩ := hreplaces _ _ hreplaced
    simp only [Monitor.Entry.sight, Sighting.event_of_not_violates, Sighting.breach?_of_not_violates,
      Strikes.score_of_not_violates, hfine₁, hfine₂, he.name]
    refine ⟨⟨_, _, (hcalled.note _ _ rfl rfl).emit v.reporter (Finding.outline_told _ _ _), ?_⟩, rfl, rfl⟩
    simpa using Retold.replaced e₁.name hreplaced hretold

/-- So do visits to two stacks of variants, entry by entry. -/
theorem TicksBeside.foldl_visit (v : w₁.Variant replaces alike w₂)
    (hreplaces : ∀ f₁ f₂, replaces f₁ f₂ → f₁.violates = false ∧ f₂.violates = false) {stack₁ stack₂ : Stack σ}
    (hstack : List.Forall₂ (Monitor.Entry.Variant replaces) stack₁ stack₂) {t₁ : Tick σ ρ₁} {t₂ : Tick σ ρ₂}
    (h : TicksBeside replaces alike calledIn w₁ w₂ start₁ start₂ t₁ t₂) :
    TicksBeside replaces alike calledIn w₁ w₂ start₁ start₂ (stack₁.foldl w₁.visit t₁) (stack₂.foldl w₂.visit t₂) := by
  induction hstack generalizing t₁ t₂ with
  | nil => exact h
  | cons he _ ih => exact ih (h.visit v hreplaces he)

/-- Both ask for a heap report or neither does. -/
theorem Beside.requestDump (v : w₁.Variant replaces alike w₂) {sc₁ : Scene σ ρ₁} {sc₂ : Scene σ ρ₂}
    (h : Beside replaces alike calledIn w₁ w₂ start₁ start₂ sc₁ sc₂) (b : Breach) :
    Beside replaces alike calledIn w₁ w₂ start₁ start₂ (w₁.requestDump b sc₁) (w₂.requestDump b sc₂) := by
  obtain ⟨acts₁, acts₂, hscenes, hretold⟩ := id h
  rw [Configuration.requestDump, Configuration.requestDump, v.writeHeapDumps]
  split
  · have hnoted := (hscenes.withDumps DumpQueue.enqueue).note (.dumpRequested b.monitor) (.dumpRequested b.monitor) rfl rfl
    exact Beside.emit v ⟨_, _, hnoted, .same _ rfl hretold⟩ rfl
  · exact h

/-- Calls to the two handlers in one state leave the scenes side by side; how each ended is told in its own event. -/
theorem Beside.callHandler (v : w₁.Variant replaces alike w₂) {sc₁ : Scene σ ρ₁} {sc₂ : Scene σ ρ₂}
    (h : Beside replaces alike calledIn w₁ w₂ start₁ start₂ sc₁ sc₂) (hin : calledIn sc₁.surroundings) (b : Breach) :
    Beside replaces alike calledIn w₁ w₂ start₁ start₂ (w₁.callHandler b sc₁) (w₂.callHandler b sc₂) := by
  obtain ⟨acts₁, acts₂, hscenes, hretold⟩ := h
  have hcalled := (hscenes.receive (v.handler.effects sc₁.surroundings)).note (.handlerCalled b.monitor)
    (.handlerCalled b.monitor) rfl rfl
  have htells₁ := Configuration.tells_handlerEvent w₁.toConfiguration b (w₁.handler.call sc₁.surroundings).ending
  have htells₂ := Configuration.tells_handlerEvent w₂.toConfiguration b (w₂.handler.call sc₁.surroundings).ending
  rw [Configuration.callHandler, Configuration.callHandler, hscenes.surroundings]
  refine ⟨_, _, hcalled.emit v.reporter (v.handler.outline_of_tells htells₁ htells₂), ?_⟩
  simpa using Retold.answered b.monitor hin htells₁ htells₂ hretold

/-- Both escalate the same breach. -/
theorem Beside.escalate (v : w₁.Variant replaces alike w₂) {sc₁ : Scene σ ρ₁} {sc₂ : Scene σ ρ₂}
    (h : Beside replaces alike calledIn w₁ w₂ start₁ start₂ sc₁ sc₂) (hin : calledIn sc₁.surroundings) (b : Breach) :
    Beside replaces alike calledIn w₁ w₂ start₁ start₂ (w₁.escalate b sc₁) (w₂.escalate b sc₂) := by
  have hbefore := Configuration.surroundings_beforeHandler w₁.toConfiguration b sc₁
  exact Beside.callHandler v (Beside.requestDump v (Beside.emit v h rfl) b) (hbefore ▸ hin) b

/-- Both end with the same outcome. -/
theorem Beside.finish (v : w₁.Variant replaces alike w₂) {sc₁ : Scene σ ρ₁} {sc₂ : Scene σ ρ₂}
    (h : Beside replaces alike calledIn w₁ w₂ start₁ start₂ sc₁ sc₂) (outcome : Outcome) :
    Beside replaces alike calledIn w₁ w₂ start₁ start₂ (w₁.finish outcome sc₁).2 (w₂.finish outcome sc₂).2 := by
  obtain ⟨acts₁, acts₂, hscenes, hretold⟩ := h
  exact Beside.emit v ⟨_, _, hscenes.withControl Control.finish, hretold⟩ rfl

/-- Ticks from scenes beside each other escalate the same monitor, or both none, and leave the same ledger. -/
theorem Beside.tick (v : w₁.Variant replaces alike w₂)
    (hreplaces : ∀ f₁ f₂, replaces f₁ f₂ → f₁.violates = false ∧ f₂.violates = false) (strikes : Strikes) {sc₁ : Scene σ ρ₁}
    {sc₂ : Scene σ ρ₂} (h : Beside replaces alike calledIn w₁ w₂ start₁ start₂ sc₁ sc₂)
    (hin : ∀ b, (w₁.evaluateAll strikes sc₁).breach = some b → calledIn (w₁.monitors.leave sc₁.surroundings)) :
    (w₂.tick strikes sc₂).1 = (w₁.tick strikes sc₁).1 ∧ (w₂.tick strikes sc₂).2.1 = (w₁.tick strikes sc₁).2.1 ∧
      Beside replaces alike calledIn w₁ w₂ start₁ start₂ (w₁.tick strikes sc₁).2.2 (w₂.tick strikes sc₂).2.2 := by
  have hall : TicksBeside replaces alike calledIn w₁ w₂ start₁ start₂ (w₁.evaluateAll strikes sc₁) (w₂.evaluateAll strikes sc₂) :=
    TicksBeside.foldl_visit v hreplaces v.monitors ⟨h, rfl, rfl⟩
  have hleft := (visited_evaluateAll w₁ strikes sc₁).surroundings
  simp only [Configuration.tick, hall.breach, hall.strikes]
  cases hb : (w₁.evaluateAll strikes sc₁).breach with
  | none => exact ⟨rfl, rfl, hall.scene⟩
  | some b => exact ⟨rfl, rfl, Beside.escalate v hall.scene (hleft ▸ hin b hb) b⟩

/-- Two wake-ups side by side progress alike and stay side by side. The handlers are called only in a breach that nobody forestalled by a
request to stop. -/
theorem Beside.wake (v : w₁.Variant replaces alike w₂)
    (hreplaces : ∀ f₁ f₂, replaces f₁ f₂ → f₁.violates = false ∧ f₂.violates = false) (strikes : Strikes) {sc₁ : Scene σ ρ₁}
    {sc₂ : Scene σ ρ₂} (h : Beside replaces alike calledIn w₁ w₂ start₁ start₂ sc₁ sc₂)
    (hin : sc₁.control.stopRequested = false → ∀ b, (w₁.evaluateAll strikes sc₁).breach = some b →
      calledIn (w₁.monitors.leave sc₁.surroundings)) :
    (w₂.wake strikes sc₂).1 = (w₁.wake strikes sc₁).1 ∧
      Beside replaces alike calledIn w₁ w₂ start₁ start₂ (w₁.wake strikes sc₁).2 (w₂.wake strikes sc₂).2 := by
  obtain ⟨_, _, hscenes, _⟩ := id h
  rw [Watchdog.wake, Watchdog.wake, hscenes.control]
  split
  · exact ⟨rfl, Beside.finish v h .stopped⟩
  · next hreq =>
    obtain ⟨hstrikes, hbreach, hticked⟩ := Beside.tick v hreplaces strikes h (hin (by simpa using hreq))
    rcases ht₁ : w₁.tick strikes sc₁ with ⟨strikes₁, breach₁, after₁⟩
    rcases ht₂ : w₂.tick strikes sc₂ with ⟨strikes₂, breach₂, after₂⟩
    rw [ht₁, ht₂] at hstrikes hbreach hticked
    obtain rfl : strikes₂ = strikes₁ := hstrikes
    obtain rfl : breach₂ = breach₁ := hbreach
    cases breach₂ with
    | none => exact ⟨rfl, hticked⟩
    | some monitor => exact ⟨rfl, Beside.finish v hticked (.handlerInvoked monitor)⟩

/-- Variants of watchdogs watch monitors of the same names. -/
theorem Variant.names (v : w₁.Variant replaces alike w₂) : w₂.monitors.names = w₁.monitors.names :=
  Stack.names_of_variant v.monitors

/-- So they report the same event when they start. -/
theorem Variant.startedEvent (v : w₁.Variant replaces alike w₂) : w₂.startedEvent = w₁.startedEvent := by
  rw [Watchdog.startedEvent, Watchdog.startedEvent, v.names, v.handler.name, v.interval, v.writeHeapDumps]

/-- Two starts side by side progress alike and stay side by side. -/
theorem Beside.start (v : w₁.Variant replaces alike w₂) {sc₁ : Scene σ ρ₁} {sc₂ : Scene σ ρ₂}
    (h : Beside replaces alike calledIn w₁ w₂ start₁ start₂ sc₁ sc₂) :
    (w₂.start sc₂).1 = (w₁.start sc₁).1 ∧ Beside replaces alike calledIn w₁ w₂ start₁ start₂ (w₁.start sc₁).2 (w₂.start sc₂).2 := by
  obtain ⟨acts₁, acts₂, hscenes, hretold⟩ := h
  have hstart : sc₂.control.start? = sc₁.control.start? := by rw [hscenes.control]
  have hstate : sc₂.control.state = sc₁.control.state := by rw [hscenes.control]
  simp only [Watchdog.start, hstart, hstate, v.startedEvent]
  cases sc₁.control.start? with
  | none => exact ⟨rfl, acts₁, acts₂, hscenes.withLine _, hretold⟩
  | some control => exact ⟨rfl, Beside.emit v ⟨acts₁, acts₂, hscenes.withControl fun _ => control, hretold⟩ rfl⟩

/-- The surroundings in which a run calls the handler: the run slept, and the monitors of the next tick, which ended it with a breach, left
them. -/
def HandlerCalledIn (w : Watchdog σ ρ₁) (between : Nat → Interlude σ) (start : Scene σ ρ₁) (s : σ) : Prop :=
  ∃ n strikes sc monitor, w.course between start n = (.sleeping strikes, sc) ∧
    (w.course between start (n + 1)).1 = .ended (.handlerInvoked monitor) ∧
    s = w.monitors.leave ((between n).change sc.surroundings)

/-- A wake-up of a sleeping run that finds no stop and a breach calls the handler in the surroundings that the monitors left. -/
theorem handlerCalledIn_of_breach {w : Watchdog σ ρ₁} {between : Nat → Interlude σ} {start : Scene σ ρ₁} {n : Nat} {strikes : Strikes}
    {sc : Scene σ ρ₁} {b : Breach} (hsleeping : w.course between start n = (.sleeping strikes, sc))
    (hreq : ((between n).act sc).control.stopRequested = false)
    (hbreach : (w.evaluateAll strikes ((between n).act sc)).breach = some b) :
    w.HandlerCalledIn between start (w.monitors.leave ((between n).act sc).surroundings) := by
  rw [breach_evaluateAll] at hbreach
  refine ⟨n, strikes, sc, b.monitor, hsleeping, ?_, rfl⟩
  rw [course, hsleeping, resume, wake_of_breach hreq hbreach]
  rfl

/-- Runs of variants that begin beside each other are at the same place after any number of wake-ups, with scenes beside each other. -/
theorem course_beside (v : w₁.Variant replaces alike w₂)
    (hreplaces : ∀ f₁ f₂, replaces f₁ f₂ → f₁.violates = false ∧ f₂.violates = false) (between : Nat → Interlude σ)
    (h : Beside replaces alike (w₁.HandlerCalledIn between start₁) w₁ w₂ start₁ start₂ start₁ start₂) (n : Nat) :
    (w₂.course between start₂ n).1 = (w₁.course between start₁ n).1 ∧
      Beside replaces alike (w₁.HandlerCalledIn between start₁) w₁ w₂ start₁ start₂ (w₁.course between start₁ n).2
        (w₂.course between start₂ n).2 := by
  induction n with
  | zero => exact Beside.start v h
  | succ n ih =>
    obtain ⟨hprogress, hbeside⟩ := ih
    rw [course, course]
    rcases hc₁ : w₁.course between start₁ n with ⟨progress₁, sc₁⟩
    rcases hc₂ : w₂.course between start₂ n with ⟨progress₂, sc₂⟩
    rw [hc₁, hc₂] at hprogress hbeside
    obtain rfl : progress₂ = progress₁ := hprogress
    cases progress₂ with
    | ended outcome => exact ⟨rfl, hbeside⟩
    | sleeping strikes =>
      obtain ⟨acts₁, acts₂, hscenes, hretold⟩ := hbeside
      exact Beside.wake v hreplaces strikes ⟨acts₁, acts₂, hscenes.act (between n), hretold⟩
        fun hreq _ hbreach => handlerCalledIn_of_breach hc₁ hreq hbreach

/-- The next ticks of such runs, from any ledger, leave the same ledger and escalate the same monitor, or both none. -/
theorem tick_course_beside (v : w₁.Variant replaces alike w₂)
    (hreplaces : ∀ f₁ f₂, replaces f₁ f₂ → f₁.violates = false ∧ f₂.violates = false) (between : Nat → Interlude σ)
    (h : Beside replaces alike (w₁.HandlerCalledIn between start₁) w₁ w₂ start₁ start₂ start₁ start₂) (n : Nat)
    (strikes : Strikes) :
    (w₂.tick strikes ((between n).act (w₂.course between start₂ n).2)).1 =
        (w₁.tick strikes ((between n).act (w₁.course between start₁ n).2)).1 ∧
      (w₂.tick strikes ((between n).act (w₂.course between start₂ n).2)).2.1 =
        (w₁.tick strikes ((between n).act (w₁.course between start₁ n).2)).2.1 := by
  obtain ⟨-, acts₁, acts₂, hscenes, hretold⟩ := course_beside v hreplaces between h n
  -- With a ledger that is not the run's the tick may call the handler where the run does not.
  have hanywhere : Retold replaces (fun _ => True) w₁.handler w₂.handler acts₁ acts₂ := hretold.mono fun _ _ => trivial
  have htick := Beside.tick v hreplaces strikes ⟨acts₁, acts₂, hscenes.act (between n), hanywhere⟩ fun _ _ => trivial
  exact ⟨htick.1, htick.2.1⟩

end Watchdog

end MemoryWatchdog
