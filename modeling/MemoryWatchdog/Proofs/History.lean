import MemoryWatchdog.Lifecycle
import MemoryWatchdog.Proofs.Lifetime

/-!
# The history of a supervised worker

What happens to a worker is a list of happenings, in any order: its hooks are called when it starts and when it stops, holders of
handles ask supervisors to stop, supervisors make their steps, somebody joins the one in the slot, and time passes, in which the rest of
the world may change. `Lifecycle.follow` is what becomes of the worker. Each operation has one statement that says all it can do:
`startsFrom_startWatchdog` for the hook at the start, `stopWatchdog_of_returns` for the one at the stop, `stepsFrom_step` for a step.
`Keeps.follow` is what holds of every supervisor after any history, and no happening makes a supervisor needed again that was stopping.
-/

namespace MemoryWatchdog

variable {σ ρ π : Type}

/-- The measurements of a probe return a value or an error; none panics. -/
structure Probe.Returns (probe : Probe σ) : Prop where
  resident : ∀ s p, (probe.resident s).1 ≠ .panicked p
  unique : ∀ s p, (probe.unique s).1 ≠ .panicked p
  heap : ∀ s p, (probe.heap s).1 ≠ .panicked p

/-- A process whose memory always measures the same. -/
def Probe.steady (amount : UInt64) : Probe σ where
  resident s := (.returned (.ok amount), s)
  unique s := (.returned (.ok amount), s)
  heap s := (.returned (.ok ⟨amount, amount⟩), s)

/-- No measurement of a steady process panics. -/
theorem Probe.returns_steady (amount : UInt64) : (steady amount : Probe σ).Returns :=
  ⟨nofun, nofun, nofun⟩

/-- A measurement that does not panic yields a value or is absent. -/
theorem HeapReport.measured_of_ne_panicked {α : Type} {reading : Reading α} (h : ∀ p, reading ≠ .panicked p) :
    ∃ value, measured reading = .returned value := by
  cases reading with
  | panicked p => exact absurd rfl (h p)
  | returned result => cases result <;> exact ⟨_, rfl⟩

/-- Where no measurement panics, capturing yields a report. -/
theorem HeapReport.capture_of_returns {probe : Probe σ} (hreturns : probe.Returns) (pid : Nat) (role : String) (writtenAt : Moment)
    (s : σ) : ∃ report s', capture probe pid role writtenAt s = (.returned report, s') := by
  obtain ⟨heap, hheap⟩ := measured_of_ne_panicked (hreturns.heap s)
  obtain ⟨resident, hresident⟩ := measured_of_ne_panicked (hreturns.resident (probe.heap s).2)
  obtain ⟨unique, hunique⟩ := measured_of_ne_panicked (hreturns.unique (probe.resident (probe.heap s).2).2)
  simp only [capture, hheap, hresident, hunique]
  exact ⟨_, _, rfl⟩

/-! ## Stopping for good -/

namespace Watchdog

variable {w : Watchdog σ ρ}

/-- No step of a call makes a watchdog that is stopping one that is not. -/
theorem isStopping_of_leads {q q' : Place σ × Scene σ ρ} (h : w.Leads q q') (hs : q.2.control.isStopping = true) :
    q'.2.control.isStopping = true := by
  induction h with
  | refl => exact hs
  | tail _ hmove ih =>
    rw [← hmove]
    exact (control_move w _ _).isStopping ih

/-- Nor does a start. -/
theorem isStopping_start (w : Watchdog σ ρ) {sc : Scene σ ρ} (h : sc.control.isStopping = true) : (w.start sc).2.control.isStopping = true := by
  obtain ⟨p, hleads, -⟩ := leads_start w sc
  exact isStopping_of_leads hleads h

/-- Nor does a wake-up. -/
theorem isStopping_wake (w : Watchdog σ ρ) {strikes : Strikes} {sc : Scene σ ρ} (h : sc.control.isStopping = true) :
    (w.wake strikes sc).2.control.isStopping = true := by
  obtain ⟨p, hleads, -⟩ := leads_wake w strikes sc
  exact isStopping_of_leads hleads h

end Watchdog

/-! ## Happenings -/

/-- What can happen in the life of a supervised worker. -/
inductive Happening (π : Type)
  /-- The worker starts: its hooks for that are called. -/
  | workerStarts
  /-- The worker stops: its hooks for that are called. -/
  | workerStops
  /-- A holder of a handle asks the supervisor at a position to stop. -/
  | asked (i : Nat)
  /-- The supervisor at a position begins its run or wakes up. -/
  | steps (i : Nat)
  /-- Somebody takes the supervisor out of the slot to wait for its end. -/
  | joined
  /-- Time passes: the host changes in some way, the clocks go on, and a runtime may come or go. -/
  | meanwhile (change : Host π → Host π) (now : Nat) (clock : Moment) (hasRuntime : Bool)

/-- The supervisor after a step of its watchdog at a moment. -/
def Supervisor.after (s : Supervisor π) (now : Nat) (step : Progress × Scene (Host π) Unit) : Supervisor π :=
  { s with control := step.2.control, run := some (Run.after s.watchdog now step.1), journal := step.2.journal }

/-- A supervisor has the outcome that its last step came to. -/
@[simp] theorem Supervisor.outcome?_after (s : Supervisor π) (now : Nat) (step : Progress × Scene (Host π) Unit) :
    (s.after now step).outcome? = step.1.outcome? := by
  obtain ⟨progress, sc⟩ := step
  cases progress <;> rfl

namespace Lifecycle

/-- The hooks of a worker that has only the two of the watchdog. -/
def hooks (settings : Settings) (role : Role) (probe : Probe (Host π)) : Hooks (Lifecycle π) :=
  install {} settings role probe

/-- The worker after a happening. -/
def after (hooks : Hooks (Lifecycle π)) (l : Lifecycle π) : Happening π → Lifecycle π
  | .workerStarts => (hooks.start l).2
  | .workerStops => (hooks.stop l).2
  | .asked i => l.stopAt i
  | .steps i => l.step i
  | .joined => l.join.2
  | .meanwhile change now clock hasRuntime => { l with host := change l.host, now, clock, hasRuntime }

/-- The worker after a history. -/
def follow (hooks : Hooks (Lifecycle π)) (history : List (Happening π)) (l : Lifecycle π) : Lifecycle π :=
  history.foldl (after hooks) l

/-- A worker for which no watchdog was ever started. -/
structure Fresh (l : Lifecycle π) : Prop where
  started : l.started = []
  slot : l.slot = none

/-- The supervisor at a position is not stopping. -/
def Live (l : Lifecycle π) (i : Nat) : Prop :=
  ∃ s, l.started[i]? = some s ∧ s.control.isStopping = false

/-- A supervisor is in the slot and is not stopping. -/
def Supervised (l : Lifecycle π) : Prop :=
  ∃ i, l.slot = some i ∧ l.Live i

/-- The slot is supervised if what can be found through it is not stopping. -/
theorem supervised_iff {l : Lifecycle π} : l.Supervised ↔ ∃ s, l.current? = some s ∧ s.control.isStopping = false := by
  simp only [Supervised, Live, current?, Option.bind_eq_some_iff]
  constructor
  · rintro ⟨i, hslot, s, hs, hlive⟩
    exact ⟨s, ⟨i, hslot, hs⟩, hlive⟩
  · rintro ⟨s, ⟨i, hslot, hs⟩, hlive⟩
    exact ⟨i, hslot, s, hs, hlive⟩

theorem follow_append (hooks : Hooks (Lifecycle π)) (history more : List (Happening π)) (l : Lifecycle π) :
    follow hooks (history ++ more) l = follow hooks more (follow hooks history l) :=
  List.foldl_append

/-- What every happening keeps, a history keeps. -/
theorem follow_keeps {hooks : Hooks (Lifecycle π)} {kept : Lifecycle π → Prop} {history : List (Happening π)} {l : Lifecycle π}
    (hafter : ∀ x ∈ history, ∀ l, kept l → kept (l.after hooks x)) (hl : kept l) : kept (follow hooks history l) := by
  induction history generalizing l with
  | nil => exact hl
  | cons x rest ih =>
    exact ih (fun y hy => hafter y (List.mem_cons_of_mem x hy)) (hafter x List.mem_cons_self l hl)

/-! ## The hooks -/

/-- The hooks at the start are the one that starts the watchdog. -/
theorem start_hooks (settings : Settings) (role : Role) (probe : Probe (Host π)) (l : Lifecycle π) :
    (hooks settings role probe).start l = startWatchdog settings role probe l :=
  Hooks.callAll_singleton (startWatchdog settings role probe) l

/-- The hooks at the stop are the one that stops it. -/
theorem stop_hooks (settings : Settings) (role : Role) (probe : Probe (Host π)) (l : Lifecycle π) :
    (hooks settings role probe).stop l = stopWatchdog settings role probe l :=
  Hooks.callAll_singleton (stopWatchdog settings role probe) l

/-- All that the hook at the start of a worker can do. -/
inductive StartsFrom (settings : Settings) (role : Role) (probe : Probe (Host π)) (l : Lifecycle π) : Ending Unit × Lifecycle π → Prop
  /-- The supervisor in the slot is still needed. -/
  | needless (log : Log) (supervised : l.Supervised) : StartsFrom settings role probe l (.returned (), { l with log })
  /-- The baseline cannot be sampled. -/
  | panicked (host : Host π) (log : Log) (p : Panic) (unsupervised : ¬ l.Supervised)
      (made : (settings.watchdog role probe l.host).ending = .panicked p) :
      StartsFrom settings role probe l (.panicked p, { l with host, log })
  /-- The settings are refused. -/
  | refused (host : Host π) (log : Log) (e : ConfigurationError) (unsupervised : ¬ l.Supervised)
      (made : (settings.watchdog role probe l.host).ending = .returned (.error e)) :
      StartsFrom settings role probe l (.returned (), { l with host, log })
  /-- There is nothing to run a watchdog on. -/
  | stranded (host : Host π) (log : Log) (w : Watchdog (Host π) Unit) (unsupervised : ¬ l.Supervised)
      (made : (settings.watchdog role probe l.host).ending = .returned (.ok w)) (missing : l.hasRuntime = false) :
      StartsFrom settings role probe l (.returned (), { l with host, log })
  /-- A new supervisor is started and put into the slot. -/
  | placed (host : Host π) (log : Log) (w : Watchdog (Host π) Unit) (unsupervised : ¬ l.Supervised)
      (made : (settings.watchdog role probe l.host).ending = .returned (.ok w)) (present : l.hasRuntime = true) :
      StartsFrom settings role probe l
        (.returned (), { l with host, log, started := l.started ++ [{ watchdog := w }], slot := some l.started.length })

/-- The hook at the start does one of these things. -/
theorem startsFrom_startWatchdog (settings : Settings) (role : Role) (probe : Probe (Host π)) (l : Lifecycle π) :
    StartsFrom settings role probe l (startWatchdog settings role probe l) := by
  unfold startWatchdog
  extract_lets roleField make
  have hmake : ∀ log, ¬ l.Supervised → StartsFrom settings role probe l (make { l with log }) := by
    intro log hunsupervised
    simp only [make, receive, write]
    cases hmade : (settings.watchdog role probe l.host).ending with
    | panicked p => exact .panicked _ _ p hunsupervised hmade
    | returned made =>
      cases made with
      | error e => exact .refused _ _ e hunsupervised hmade
      | ok w =>
        show StartsFrom settings role probe l (if l.hasRuntime = true then _ else _)
        by_cases hruntime : l.hasRuntime = true
        · rw [if_pos hruntime]
          exact .placed _ _ w hunsupervised hmade hruntime
        · rw [if_neg hruntime]
          exact .stranded _ _ w hunsupervised hmade (by simpa using hruntime)
  cases hcurrent : l.current? with
  | none =>
    exact hmake l.log (by simp [supervised_iff, hcurrent])
  | some s =>
    cases hstopping : s.control.isStopping with
    | false =>
      simp only [hstopping, Bool.false_eq_true, if_false]
      exact .needless _ (supervised_iff.mpr ⟨s, hcurrent, hstopping⟩)
    | true =>
      simp only [hstopping, if_true]
      exact hmake _ (by simp [supervised_iff, hcurrent, hstopping])

/-- Of the supervisors, the slot and the queue the hook at the start changes nothing, or it adds a supervisor and puts it into the slot. -/
theorem StartsFrom.unchanged_or_placed {settings : Settings} {role : Role} {probe : Probe (Host π)} {l l' : Lifecycle π}
    {ending : Ending Unit} (h : StartsFrom settings role probe l (ending, l')) :
    l'.dumps = l.dumps ∧
      ((l'.started = l.started ∧ l'.slot = l.slot) ∨
        (¬ l.Supervised ∧ ∃ w, (settings.watchdog role probe l.host).ending = .returned (.ok w) ∧
          l'.started = l.started ++ [{ watchdog := w }] ∧ l'.slot = some l.started.length)) := by
  cases h with
  | needless => exact ⟨rfl, .inl ⟨rfl, rfl⟩⟩
  | panicked => exact ⟨rfl, .inl ⟨rfl, rfl⟩⟩
  | refused => exact ⟨rfl, .inl ⟨rfl, rfl⟩⟩
  | stranded => exact ⟨rfl, .inl ⟨rfl, rfl⟩⟩
  | placed host log w unsupervised made => exact ⟨rfl, .inr ⟨unsupervised, w, made, rfl, rfl⟩⟩

/-- The line about an attempt to write a heap report. -/
def attemptLine : Except HeapReport.WriteError String → Log.Entry
  | .ok path => ⟨.info, "heap report written", [("path", .text path)]⟩
  | .error e => ⟨.error, "failed to write heap report", [("error", .text e.message)]⟩

/-- One attempt to write a heap report: the memory is captured once, what was captured is written once into the directory of the
reports, and one line of the log tells how the writing went. -/
def Attempted (settings : Settings) (role : Role) (probe : Probe (Host π)) (l l' : Lifecycle π) : Prop :=
  ∃ (report : HeapReport) (host : Host π),
    HeapReport.capture probe l.host.pid.toNat role.name l.clock l.host = (.returned report, host) ∧
      l' = { l with
        host := { host with files := (report.write settings.reportsDirectory host.files).2 }
        dumps := {}
        log := l.log.push (attemptLine (report.write settings.reportsDirectory host.files).1) }

/-- What was captured is written once; that it is written is told by the writing, that it is not is left to the caller to tell. -/
theorem captureAndWrite_of_capture {probe : Probe (Host π)} {role : String} {now : Moment} {h h' : Host π} {report : HeapReport}
    (hcapture : HeapReport.capture probe h.pid.toNat role now h = (.returned report, h')) (directory : String) :
    HeapReport.captureAndWrite probe directory role now h =
      { ending := .returned (report.write directory h'.files).1
        state := { h' with files := (report.write directory h'.files).2 }
        log := match (report.write directory h'.files).1 with
          | .ok path => #[attemptLine (.ok path)]
          | .error _ => #[] } := by
  simp only [HeapReport.captureAndWrite, hcapture]
  obtain ⟨result, files⟩ := report.write directory h'.files
  cases result <;> rfl

@[simp] theorem dumps_stopSlot (l : Lifecycle π) : l.stopSlot.dumps = l.dumps := by
  cases h : l.slot <;> simp [stopSlot, h, stopAt]

@[simp] theorem slot_stopSlot (l : Lifecycle π) : l.stopSlot.slot = l.slot := by
  cases h : l.slot <;> simp [stopSlot, h, stopAt]

/-- Writing a report leaves the supervisors and the slot as they are, also if it panics. -/
theorem started_writeReport (settings : Settings) (role : Role) (probe : Probe (Host π)) (l : Lifecycle π) :
    (l.writeReport settings role probe).2.started = l.started ∧ (l.writeReport settings role probe).2.slot = l.slot := by
  unfold writeReport
  obtain ⟨reply, dumps⟩ := HeapReport.writePending probe settings.reportsDirectory role.name l.clock l.dumps l.host
  dsimp only
  split <;> exact ⟨rfl, rfl⟩

/-- All that the hook at the stop of a worker does to the supervisors and the slot is that the one in the slot is asked to stop. -/
theorem started_stopWatchdog (settings : Settings) (role : Role) (probe : Probe (Host π)) (l : Lifecycle π) :
    (stopWatchdog settings role probe l).2.started = l.stopSlot.started ∧ (stopWatchdog settings role probe l).2.slot = l.slot := by
  unfold stopWatchdog
  dsimp only
  split
  · obtain ⟨hstarted, hslot⟩ := started_writeReport settings role probe l.stopSlot
    exact ⟨hstarted, hslot.trans l.slot_stopSlot⟩
  · exact ⟨rfl, l.slot_stopSlot⟩

/-- A report that is requested is attempted once, and only one that is requested; the queue is empty afterwards. -/
theorem writeReport_of_returns {probe : Probe (Host π)} (hreturns : probe.Returns) (settings : Settings) (role : Role)
    (l : Lifecycle π) :
    (l.writeReport settings role probe).1 = .returned () ∧
      if l.dumps.pending = true then Attempted settings role probe l (l.writeReport settings role probe).2
      else (l.writeReport settings role probe).2 = l := by
  cases hpending : l.dumps.pending with
  | false =>
    have hdumps : l.dumps = { pending := false } := congrArg DumpQueue.mk hpending
    simp [writeReport, HeapReport.writePending, DumpQueue.take, hpending, receive, ← hdumps]
  | true =>
    obtain ⟨report, host, hcapture⟩ := HeapReport.capture_of_returns hreturns l.host.pid.toNat role.name l.clock l.host
    have hreply := captureAndWrite_of_capture hcapture settings.reportsDirectory
    obtain ⟨hending, hleft⟩ : (l.writeReport settings role probe).1 = .returned () ∧
        (l.writeReport settings role probe).2 = { l with
          host := { host with files := (report.write settings.reportsDirectory host.files).2 }
          dumps := {}
          log := l.log.push (attemptLine (report.write settings.reportsDirectory host.files).1) } := by
      simp only [writeReport, HeapReport.writePending, DumpQueue.take, hpending, hreply]
      cases (report.write settings.reportsDirectory host.files).1 <;> simp [receive, write, attemptLine]
    exact ⟨hending, report, host, hcapture, hleft⟩

/-- The hook at the stop of a worker asks the supervisor in the slot to stop; if heap reports are wanted, it attempts to write one if
one is requested. -/
theorem stopWatchdog_of_returns {probe : Probe (Host π)} (hreturns : probe.Returns) (settings : Settings) (role : Role)
    (l : Lifecycle π) :
    (stopWatchdog settings role probe l).1 = .returned () ∧
      if settings.dumpHeap = true ∧ l.dumps.pending = true then
        Attempted settings role probe l.stopSlot (stopWatchdog settings role probe l).2
      else (stopWatchdog settings role probe l).2 = l.stopSlot := by
  cases hdumps : settings.dumpHeap with
  | false => simp [stopWatchdog, hdumps]
  | true => simpa [stopWatchdog, hdumps] using l.stopSlot.writeReport_of_returns hreturns settings role

/-! ## Steps -/

/-- Takes in a step that a supervisor's watchdog made. -/
def took (l : Lifecycle π) (i : Nat) (s : Supervisor π) (step : Progress × Scene (Host π) Unit) : Lifecycle π :=
  l.absorb i (Run.after s.watchdog l.now step.1) step.2

/-- All that a step of the supervisor at a position can do: nothing, if there is none or its run has ended; it begins its run; it wakes
up. -/
inductive StepsFrom (l : Lifecycle π) (i : Nat) : Lifecycle π → Prop
  | rests : StepsFrom l i l
  | begins (s : Supervisor π) (at_i : l.started[i]? = some s) (waiting : s.run = none) :
      StepsFrom l i (l.took i s (s.watchdog.start (l.sceneOf s)))
  | wakes (s : Supervisor π) (strikes : Strikes) (wakesAt : Nat) (at_i : l.started[i]? = some s)
      (asleep : s.run = some (.sleeping strikes wakesAt)) :
      StepsFrom l i (l.took i s (s.watchdog.wake strikes (l.sceneOf s)))

/-- A step does one of these things. -/
theorem stepsFrom_step (l : Lifecycle π) (i : Nat) : l.StepsFrom i (l.step i) := by
  unfold step
  cases hat : l.started[i]? with
  | none => exact .rests
  | some s =>
    cases hrun : s.run with
    | none =>
      simp only [hrun]
      exact .begins s hat hrun
    | some run =>
      cases run with
      | sleeping strikes wakesAt =>
        simp only [hrun]
        exact .wakes s strikes wakesAt hat hrun
      | ended outcome =>
        simp only [hrun]
        exact .rests

/-- A step that is taken in changes one supervisor. -/
theorem getElem?_took {l : Lifecycle π} {i : Nat} {s : Supervisor π} (hat : l.started[i]? = some s)
    (step : Progress × Scene (Host π) Unit) (j : Nat) :
    (l.took i s step).started[j]? = if i = j then some (s.after l.now step) else l.started[j]? := by
  simp only [took, absorb, List.getElem?_modify]
  split
  · next hij =>
    subst hij
    rw [hat]
    rfl
  · exact id_map' _

/-- So does a request to stop. -/
theorem getElem?_stopAt (l : Lifecycle π) (i j : Nat) :
    (l.stopAt i).started[j]? = (l.started[j]?).map fun s => if i = j then { s with control := s.control.stop } else s :=
  List.getElem?_modify ..

/-! ## What holds of every supervisor -/

/-- What holds of a supervisor that was just started and is kept by requests to stop and by the steps of watchdogs. -/
structure Keeps (settings : Settings) (role : Role) (probe : Probe (Host π)) (kept : Supervisor π → Prop) : Prop where
  placed : ∀ h w, (settings.watchdog role probe h).ending = .returned (.ok w) → kept { watchdog := w }
  stop : ∀ s, kept s → kept { s with control := s.control.stop }
  begins : ∀ (s : Supervisor π) (l : Lifecycle π), s.run = none → kept s → kept (s.after l.now (s.watchdog.start (l.sceneOf s)))
  wakes : ∀ (s : Supervisor π) (l : Lifecycle π) (strikes : Strikes) (wakesAt : Nat), s.run = some (.sleeping strikes wakesAt) →
    kept s → kept (s.after l.now (s.watchdog.wake strikes (l.sceneOf s)))

section
variable {settings : Settings} {role : Role} {probe : Probe (Host π)} {kept : Supervisor π → Prop} {l : Lifecycle π}

/-- A request to one supervisor keeps it of all. -/
theorem Keeps.stopAt (hkeeps : Keeps settings role probe kept) (h : ∀ s ∈ l.started, kept s) (i : Nat) :
    ∀ s ∈ (l.stopAt i).started, kept s := by
  intro s' hs'
  obtain ⟨j, hj⟩ := List.mem_iff_getElem?.mp hs'
  rw [getElem?_stopAt, Option.map_eq_some_iff] at hj
  obtain ⟨s, hs, rfl⟩ := hj
  have hkept : kept s := h s (List.mem_of_getElem? hs)
  split
  · exact hkeeps.stop s hkept
  · exact hkept

/-- So does a request to the one in the slot. -/
theorem Keeps.stopSlot (hkeeps : Keeps settings role probe kept) (h : ∀ s ∈ l.started, kept s) : ∀ s ∈ l.stopSlot.started, kept s := by
  unfold Lifecycle.stopSlot
  split
  · exact h
  · exact hkeeps.stopAt h _

/-- So does the hook at the start: a supervisor that is added begins with it. -/
theorem Keeps.start {l' : Lifecycle π} {ending : Ending Unit} (hkeeps : Keeps settings role probe kept)
    (hstarts : StartsFrom settings role probe l (ending, l')) (h : ∀ s ∈ l.started, kept s) : ∀ s ∈ l'.started, kept s := by
  obtain ⟨-, ⟨hsame, -⟩ | ⟨-, w, made, hadded, -⟩⟩ := hstarts.unchanged_or_placed
  · rw [hsame]
    exact h
  · intro s hs
    rw [hadded] at hs
    rcases List.mem_append.mp hs with hs | hs
    · exact h s hs
    · rw [List.mem_singleton.mp hs]
      exact hkeeps.placed l.host w made

/-- What holds of a supervisor after a step of its watchdog, and of the others before it, holds of all. -/
theorem forall_started_took {i : Nat} {s : Supervisor π} {step : Progress × Scene (Host π) Unit} (hat : l.started[i]? = some s)
    (hafter : kept (s.after l.now step)) (h : ∀ t ∈ l.started, kept t) : ∀ t ∈ (l.took i s step).started, kept t := by
  intro t ht
  obtain ⟨j, hj⟩ := List.mem_iff_getElem?.mp ht
  rw [getElem?_took hat] at hj
  split at hj
  · rw [← Option.some.inj hj]
    exact hafter
  · exact h t (List.mem_of_getElem? hj)

/-- So does a step of any supervisor. -/
theorem Keeps.step {l' : Lifecycle π} {i : Nat} (hkeeps : Keeps settings role probe kept) (hsteps : l.StepsFrom i l')
    (h : ∀ s ∈ l.started, kept s) : ∀ s ∈ l'.started, kept s := by
  cases hsteps with
  | rests => exact h
  | begins s at_i waiting =>
    have hkept := h s (List.mem_of_getElem? at_i)
    exact forall_started_took at_i (hkeeps.begins s l waiting hkept) h
  | wakes s strikes wakesAt at_i asleep =>
    have hkept := h s (List.mem_of_getElem? at_i)
    exact forall_started_took at_i (hkeeps.wakes s l strikes wakesAt asleep hkept) h

/-- One happening keeps it. -/
theorem Keeps.after (hkeeps : Keeps settings role probe kept) (x : Happening π) (h : ∀ s ∈ l.started, kept s) :
    ∀ s ∈ (l.after (hooks settings role probe) x).started, kept s := by
  cases x with
  | workerStarts =>
    simp only [Lifecycle.after, start_hooks]
    exact hkeeps.start (startsFrom_startWatchdog settings role probe l) h
  | workerStops =>
    simp only [Lifecycle.after, stop_hooks, (started_stopWatchdog settings role probe l).1]
    exact hkeeps.stopSlot h
  | asked i => exact hkeeps.stopAt h i
  | steps i => exact hkeeps.step (l.stepsFrom_step i) h
  | joined => exact h
  | meanwhile => exact h

/-- So it holds of every supervisor after any history. -/
theorem Keeps.follow (hkeeps : Keeps settings role probe kept) {fresh : Lifecycle π} (hfresh : fresh.Fresh)
    (history : List (Happening π)) : ∀ s ∈ (follow (hooks settings role probe) history fresh).started, kept s := by
  have hnone : ∀ s ∈ fresh.started, kept s := by simp [hfresh.started]
  exact follow_keeps (fun x _ l h => hkeeps.after (l := l) x h) hnone

end

/-! ## Supervisors that are not stopping -/

/-- No step makes a supervisor needed that was stopping. -/
theorem live_of_took {l : Lifecycle π} {i j : Nat} {s : Supervisor π} {step : Progress × Scene (Host π) Unit}
    (hat : l.started[i]? = some s) (hstays : s.control.isStopping = true → step.2.control.isStopping = true)
    (h : (l.took i s step).Live j) : l.Live j := by
  obtain ⟨t, ht, hlive⟩ := h
  rw [getElem?_took hat] at ht
  split at ht
  · next hij =>
    subst hij
    rw [← Option.some.inj ht] at hlive
    refine ⟨s, hat, Bool.eq_false_iff.mpr fun hstopping => ?_⟩
    exact Bool.eq_false_iff.mp hlive (hstays hstopping)
  · exact ⟨t, ht, hlive⟩

/-- What is needed after a step was needed before it. -/
theorem StepsFrom.live {l l' : Lifecycle π} {i j : Nat} (hsteps : l.StepsFrom i l') (h : l'.Live j) : l.Live j := by
  cases hsteps with
  | rests => exact h
  | begins s at_i waiting => exact live_of_took at_i (fun hstopping => s.watchdog.isStopping_start hstopping) h
  | wakes s strikes wakesAt at_i asleep => exact live_of_took at_i (fun hstopping => s.watchdog.isStopping_wake hstopping) h

/-- What is needed after a request to stop was needed before it. -/
theorem live_of_stopAt {l : Lifecycle π} {i j : Nat} (h : (l.stopAt i).Live j) : l.Live j := by
  obtain ⟨s', hs', hlive⟩ := h
  rw [getElem?_stopAt, Option.map_eq_some_iff] at hs'
  obtain ⟨s, hs, rfl⟩ := hs'
  split at hlive
  · simp at hlive
  · exact ⟨s, hs, hlive⟩

/-- What was asked to stop is stopping. -/
theorem not_live_stopAt (l : Lifecycle π) (i : Nat) : ¬ (l.stopAt i).Live i := by
  rintro ⟨s', hs', hlive⟩
  rw [getElem?_stopAt, Option.map_eq_some_iff] at hs'
  obtain ⟨s, -, rfl⟩ := hs'
  simp at hlive

/-- What is needed after a request to the one in the slot was needed before it. -/
theorem live_of_stopSlot {l : Lifecycle π} {j : Nat} (h : l.stopSlot.Live j) : l.Live j := by
  unfold stopSlot at h
  split at h
  · exact h
  · exact live_of_stopAt h

/-- Nobody is needed in a slot that was asked to stop. -/
theorem not_supervised_stopSlot (l : Lifecycle π) : ¬ l.stopSlot.Supervised := by
  rintro ⟨i, hslot, hlive⟩
  rw [slot_stopSlot] at hslot
  rw [stopSlot, hslot] at hlive
  exact l.not_live_stopAt i hlive

end Lifecycle

end MemoryWatchdog
