import MemoryWatchdog.Proofs.OneSupervisor

/-!
# When the hooks of a worker panic

A measurement that panics is held back during a tick, and nowhere else. The hook at the start panics exactly if the baseline of a web
worker's growth is sampled and that sample panics; the hook at the stop panics exactly if a report is captured and one of its measurements
panics. `hooks_panic_iff` says so for every state of the worker, and what the hooks have done by then: a panic at the start puts nobody
into the slot, and one at the stop comes after the supervisor in the slot was asked to stop. Workers that come to this exist:
`start_and_stop_panic`.
-/

namespace MemoryWatchdog

variable {σ π : Type}

/-! ## Measurements -/

/-- The first of the measurements of a report that does not return panics: that of the heap, of the resident memory, or of the unique
memory. -/
inductive Probe.CapturePanics (probe : Probe σ) (s : σ) (p : Panic) : Prop
  | heap (panicked : (probe.heap s).1 = .panicked p) : CapturePanics probe s p
  | resident (heap : Except MemoryError HeapStats) (returned : (probe.heap s).1 = .returned heap)
      (panicked : (probe.resident (probe.heap s).2).1 = .panicked p) : CapturePanics probe s p
  | unique (heap : Except MemoryError HeapStats) (returned : (probe.heap s).1 = .returned heap)
      (resident : Except MemoryError UInt64) (returned' : (probe.resident (probe.heap s).2).1 = .returned resident)
      (panicked : (probe.unique (probe.resident (probe.heap s).2).2).1 = .panicked p) : CapturePanics probe s p

/-- A capture does not panic if no measurement does. -/
theorem Probe.Returns.not_capturePanics {probe : Probe σ} (h : probe.Returns) (s : σ) (p : Panic) : ¬probe.CapturePanics s p := by
  intro hpanics
  cases hpanics with
  | heap panicked => exact h.heap _ _ panicked
  | resident _ _ panicked => exact h.resident _ _ panicked
  | unique _ _ _ _ panicked => exact h.unique _ _ panicked

namespace HeapReport

/-- What becomes of a measurement panics as the measurement does. -/
theorem measured_eq_panicked_iff {α : Type} {reading : Reading α} {p : Panic} :
    measured reading = .panicked p ↔ reading = .panicked p := by
  cases reading with
  | panicked q => simp [measured]
  | returned result => cases result <;> simp [measured]

theorem exists_measured {α : Type} (result : Except MemoryError α) : ∃ value, measured (.returned result) = .returned value := by
  refine measured_of_ne_panicked fun p h => ?_
  cases h

theorem exists_returned_of_measured {α : Type} {reading : Reading α} {value : Option α} (h : measured reading = .returned value) :
    ∃ result, reading = .returned result := by
  cases reading with
  | panicked q => cases h
  | returned result => exact ⟨result, rfl⟩

/-- A capture panics as the first of its measurements that does not return. -/
theorem capture_eq_panicked_iff {probe : Probe σ} {pid : Nat} {role : String} {writtenAt : Moment} {s : σ} {p : Panic} :
    (capture probe pid role writtenAt s).1 = .panicked p ↔ probe.CapturePanics s p := by
  constructor
  · intro h
    cases hheap : measured (probe.heap s).1 with
    | panicked q =>
      simp only [capture, hheap, Ending.panicked.injEq] at h
      subst h
      exact .heap (measured_eq_panicked_iff.mp hheap)
    | returned value =>
      obtain ⟨heap, hreturned⟩ := exists_returned_of_measured hheap
      cases hresident : measured (probe.resident (probe.heap s).2).1 with
      | panicked q =>
        simp only [capture, hheap, hresident, Ending.panicked.injEq] at h
        subst h
        exact .resident heap hreturned (measured_eq_panicked_iff.mp hresident)
      | returned value' =>
        obtain ⟨resident, hreturned'⟩ := exists_returned_of_measured hresident
        cases hunique : measured (probe.unique (probe.resident (probe.heap s).2).2).1 with
        | panicked q =>
          simp only [capture, hheap, hresident, hunique, Ending.panicked.injEq] at h
          subst h
          exact .unique heap hreturned resident hreturned' (measured_eq_panicked_iff.mp hunique)
        | returned value'' =>
          simp only [capture, hheap, hresident, hunique] at h
          cases h
  · intro h
    cases h with
    | heap panicked => simp [capture, panicked, measured]
    | resident heap returned panicked =>
      obtain ⟨value, hvalue⟩ := exists_measured heap
      simp only [capture, returned, hvalue, measured_eq_panicked_iff.mpr panicked]
    | unique heap returned resident returned' panicked =>
      obtain ⟨value, hvalue⟩ := exists_measured heap
      obtain ⟨value', hvalue'⟩ := exists_measured resident
      simp only [capture, returned, hvalue, returned', hvalue', measured_eq_panicked_iff.mpr panicked]

/-- Capturing and writing a report panics as the capture does; the writing never panics. -/
theorem ending_captureAndWrite_eq_panicked_iff {probe : Probe (Host π)} {directory role : String} {now : Moment} {h : Host π}
    {p : Panic} :
    (captureAndWrite probe directory role now h).ending = .panicked p ↔ probe.CapturePanics h p := by
  have hcaptured : (capture probe h.pid.toNat role now h).1 = .panicked p ↔ probe.CapturePanics h p := capture_eq_panicked_iff
  rw [← hcaptured]
  cases hcapture : capture probe h.pid.toNat role now h with
  | mk ending h' =>
    cases ending with
    | panicked q => simp [captureAndWrite, hcapture]
    | returned report =>
      cases hwritten : report.write directory h'.files with
      | mk result files => cases result <;> simp [captureAndWrite, hcapture, hwritten]

end HeapReport

/-! ## The hook at the start -/

/-- The sample of a baseline panics as its measurement does. -/
theorem Monitor.ending_sampleBaseline_eq_panicked_iff {probe : Probe σ} {s : σ} {p : Panic} :
    (sampleBaseline probe s).ending = .panicked p ↔ (probe.unique s).1 = .panicked p := by
  by_cases hreturns : ∀ q, (probe.unique s).1 ≠ .panicked q
  · rw [ending_sampleBaseline hreturns]
    exact iff_of_false nofun (hreturns p)
  · obtain ⟨q, hq⟩ := not_forall_not.mp hreturns
    simp [sampleBaseline, hq]

/-- Making a watchdog panics exactly as the sample of a web worker's baseline does, if one is taken. -/
theorem Settings.ending_watchdog_eq_panicked_iff {settings : Settings} {role : Role} {probe : Probe (Host π)} {h : Host π} {p : Panic} :
    (settings.watchdog role probe h).ending = .panicked p ↔
      role = .web ∧ settings.workerKillerDisabled = true ∧ (probe.unique h).1 = .panicked p := by
  cases role with
  | job => simp [watchdog_job]
  | web =>
    rw [← Monitor.ending_sampleBaseline_eq_panicked_iff]
    cases hdisabled : settings.workerKillerDisabled with
    | false => simp [watchdog, monitors, webMonitors, hdisabled]
    | true =>
      cases hsample : (Monitor.sampleBaseline probe h).ending with
      | panicked q => simp [watchdog, monitors, webMonitors, hdisabled, hsample]
      | returned baseline => simp [watchdog, monitors, webMonitors, hdisabled, hsample]

namespace Lifecycle

variable {settings : Settings} {role : Role} {probe : Probe (Host π)} {l : Lifecycle π} {p : Panic}

/-- The hook at the start panics exactly if it has to make a watchdog and that panics. -/
theorem startWatchdog_eq_panicked_iff :
    (startWatchdog settings role probe l).1 = .panicked p ↔
      ¬l.Supervised ∧ (settings.watchdog role probe l.host).ending = .panicked p := by
  have hstarts := startsFrom_startWatchdog settings role probe l
  generalize startWatchdog settings role probe l = started at hstarts
  cases hstarts with
  | needless log supervised => exact iff_of_false nofun fun h => h.1 supervised
  | panicked host log q unsupervised made => simp [made, unsupervised]
  | refused host log e unsupervised made => simp [made]
  | stranded host log w unsupervised made => simp [made]
  | placed host log w unsupervised made => simp [made]

/-! ## The hook at the stop -/

/-- Writing a pending report panics exactly as its capture does. -/
theorem writeReport_eq_panicked_iff :
    (l.writeReport settings role probe).1 = .panicked p ↔ l.dumps.pending = true ∧ probe.CapturePanics l.host p := by
  have hcaptured : (HeapReport.captureAndWrite probe settings.reportsDirectory role.name l.clock l.host).ending = .panicked p ↔
      probe.CapturePanics l.host p := HeapReport.ending_captureAndWrite_eq_panicked_iff
  rw [← hcaptured]
  cases hpending : l.dumps.pending with
  | false => simp [writeReport, HeapReport.writePending, DumpQueue.take, hpending]
  | true =>
    cases hwritten : (HeapReport.captureAndWrite probe settings.reportsDirectory role.name l.clock l.host).ending with
    | panicked q => simp [writeReport, HeapReport.writePending, DumpQueue.take, hpending, hwritten]
    | returned result =>
      cases result <;> simp [writeReport, HeapReport.writePending, DumpQueue.take, hpending, hwritten]

/-- Writing a pending report leaves the queue empty, also if it panics. -/
theorem dumps_writeReport : (l.writeReport settings role probe).2.dumps = {} := by
  simp only [writeReport, HeapReport.writePending, DumpQueue.take]
  cases hpending : l.dumps.pending with
  | false => rfl
  | true =>
    cases (HeapReport.captureAndWrite probe settings.reportsDirectory role.name l.clock l.host).ending with
    | panicked q => rfl
    | returned result => cases result <;> rfl

@[simp] theorem host_stopSlot (l : Lifecycle π) : l.stopSlot.host = l.host := by
  unfold stopSlot
  split <;> rfl

/-- The hook at the stop panics exactly if reports are wanted, one is requested, and its capture panics. -/
theorem stopWatchdog_eq_panicked_iff :
    (stopWatchdog settings role probe l).1 = .panicked p ↔
      settings.dumpHeap = true ∧ l.dumps.pending = true ∧ probe.CapturePanics l.host p := by
  cases hdumps : settings.dumpHeap with
  | false => simp [stopWatchdog, hdumps]
  | true => simp [stopWatchdog, hdumps, writeReport_eq_panicked_iff]

/-! ## Both hooks -/

/-- When the hooks of a worker panic, in every state of the worker, and what they have done whether or not they do. The one at the start
panics exactly if no supervisor is needed already and the baseline of a web worker's growth is sampled and panics, and then neither the
supervisors nor the slot nor the queue have changed. The one at the stop panics exactly if a report is requested and wanted and its
capture panics; it has asked the supervisor in the slot to stop, and taken the request if reports are wanted, even so. With a probe that
only fails, neither panics. -/
theorem hooks_panic_iff (settings : Settings) (role : Role) (probe : Probe (Host π)) (l : Lifecycle π) :
    let watched := hooks settings role probe
    (∀ p, (watched.start l).1 = .panicked p ↔
        ¬l.Supervised ∧ role = .web ∧ settings.workerKillerDisabled = true ∧ (probe.unique l.host).1 = .panicked p)
      ∧ (∀ p, (watched.start l).1 = .panicked p →
          (watched.start l).2.started = l.started ∧ (watched.start l).2.slot = l.slot ∧ (watched.start l).2.dumps = l.dumps)
      ∧ (∀ p, (watched.stop l).1 = .panicked p ↔
          settings.dumpHeap = true ∧ l.dumps.pending = true ∧ probe.CapturePanics l.host p)
      ∧ (watched.stop l).2.started = l.stopSlot.started ∧ (watched.stop l).2.slot = l.slot
      ∧ (settings.dumpHeap = true → (watched.stop l).2.dumps = {})
      ∧ (probe.Returns → (watched.start l).1 = .returned () ∧ (watched.stop l).1 = .returned ()) := by
  intro watched
  have hstart : ∀ p, (watched.start l).1 = .panicked p ↔
      ¬l.Supervised ∧ role = .web ∧ settings.workerKillerDisabled = true ∧ (probe.unique l.host).1 = .panicked p := by
    intro p
    rw [start_hooks, startWatchdog_eq_panicked_iff, Settings.ending_watchdog_eq_panicked_iff]
  have hstop : ∀ p, (watched.stop l).1 = .panicked p ↔
      settings.dumpHeap = true ∧ l.dumps.pending = true ∧ probe.CapturePanics l.host p := by
    intro p
    rw [stop_hooks, stopWatchdog_eq_panicked_iff]
  obtain ⟨hstarted, hslot⟩ := started_stopWatchdog settings role probe l
  refine ⟨hstart, fun p hpanicked => ?_, hstop, ?_, ?_, fun hdumps => ?_, fun hreturns => ⟨?_, ?_⟩⟩
  · have hstarts := startsFrom_startWatchdog settings role probe l
    rw [start_hooks] at hpanicked ⊢
    generalize startWatchdog settings role probe l = reply at hstarts hpanicked
    cases hstarts with
    | panicked => exact ⟨rfl, rfl, rfl⟩
    | _ => cases hpanicked
  · rw [stop_hooks, hstarted]
  · rw [stop_hooks, hslot]
  · rw [stop_hooks, stopWatchdog]
    simp only [hdumps, if_true, dumps_writeReport]
  · cases hending : (watched.start l).1 with
    | returned => rfl
    | panicked p => exact absurd ((hstart p).mp hending).2.2.2 (hreturns.unique _ _)
  · cases hending : (watched.stop l).1 with
    | returned => rfl
    | panicked p => exact absurd ((hstop p).mp hending).2.2 (hreturns.not_capturePanics _ _)

/-- A process whose unique memory cannot be measured without a panic. -/
def brokenProbe : Probe (Host Unit) where
  resident h := (.returned (.ok 1), h)
  unique h := (.panicked .wordless, h)
  heap h := (.returned (.ok ⟨1, 1⟩), h)

/-- Both hooks can panic: that at the start of a web worker whose memory growth is to be watched, and that at the stop of one that wants
heap reports and has exceeded its limit. -/
theorem start_and_stop_panic :
    let worker : Lifecycle Unit := { host := { memory := (), pid := 1 } }
    let strict : Settings := { dumpHeap := true, webMaxMegabytes := 0 }
    let watched := hooks strict .web brokenProbe
    ((hooks { workerKillerDisabled := true } .web brokenProbe).start worker).1 = .panicked .wordless
      ∧ (watched.stop (follow watched [.workerStarts, .steps 0, .steps 0] worker)).1 = .panicked .wordless :=
  ⟨rfl, by decide +kernel⟩

end Lifecycle

end MemoryWatchdog
