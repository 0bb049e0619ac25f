import MemoryWatchdog.Proofs.SideBySide

/-!
# Failures that change nothing

A monitor that fails or panics counts like one that is within its limit, and a handler that fails or panics counts like one that
succeeds. Two watchdogs that differ only in such results take the same course: the same strikes, the same end at the same tick, the
same calls, and the same requests for heap reports. Only the events that tell of these results differ (`failures_are_neutral`).
-/

namespace MemoryWatchdog

variable {σ ρ₁ ρ₂ : Type}

/-- Both findings are no violations: each is a verdict within the limit, an error or a panic. -/
def Finding.Harmless (f₁ f₂ : Finding) : Prop :=
  f₁.violates = false ∧ f₂.violates = false

/-- What an act does, apart from what comes of it and from reports. -/
inductive Deed
  | called (monitor : String)
  | dumpRequested (monitor : String)
  | handlerCalled (monitor : String)
  deriving DecidableEq, Repr

def Act.deed? : Act → Option Deed
  | .evaluated monitor _ => some (.called monitor)
  | .dumpRequested monitor => some (.dumpRequested monitor)
  | .handlerCalled monitor => some (.handlerCalled monitor)
  | .reported _ => none

/-- The deeds among acts: which monitors were called, whether a heap report was requested and whether the handler was called, in
order. -/
def deeds (acts : List Act) : List Deed :=
  acts.filterMap Act.deed?

theorem deeds_append (acts more : List Act) : deeds (acts ++ more) = deeds acts ++ deeds more :=
  List.filterMap_append

/-- Acts that are retold have the same deeds. -/
theorem Retold.deeds_eq {replaces : Finding → Finding → Prop} {calledIn : σ → Prop} {h₁ h₂ : Handler σ} {acts₁ acts₂ : List Act}
    (retold : Retold replaces calledIn h₁ h₂ acts₁ acts₂) : deeds acts₂ = deeds acts₁ := by
  induction retold with
  | nil => rfl
  | same act _ _ ih => rw [deeds_append, deeds_append, ih]
  | replaced monitor _ _ ih | answered monitor _ _ _ _ ih =>
    rw [deeds_append, deeds_append, ih]
    rfl

namespace Watchdog

/-- Failures of monitors and of the handler change nothing but what is told of them. Let two watchdogs differ only in findings that are
no violations, at whatever monitors and in whatever surroundings, and in how the calls to the handler end; and let their reporters ask
for stops alike. After any number of wake-ups the run of the one is where the run of the other is, with the same strikes or the same
outcome; the next tick leaves the same strikes and escalates the same monitor, or none; the surroundings, the requests for heap reports
and the control are the same. Their acts are the same one by one, but for the findings that differ, each with the event that tells of
it, and for the event after the call to the handler. This tells how the handler's call ended in the surroundings that the last tick
left: that it was invoked if the call returned, and that it failed if the call returned an error or panicked. So the deeds are the
same. -/
theorem failures_are_neutral {alike : ρ₁ → ρ₂ → Prop} {w₁ : Watchdog σ ρ₁} {w₂ : Watchdog σ ρ₂}
    (v : w₁.Variant Finding.Harmless alike w₂) (between : Nat → Interlude σ) (start : Scene σ ρ₁) (state : ρ₂)
    (hstate : alike start.reporter state) (n : Nat) :
    let run := w₁.course between start n
    let other := w₂.course between (start.withReporter state) n
    other.1 = run.1 ∧
    (∀ strikes, (w₂.tick strikes ((between n).act other.2)).1 = (w₁.tick strikes ((between n).act run.2)).1 ∧
      (w₂.tick strikes ((between n).act other.2)).2.1 = (w₁.tick strikes ((between n).act run.2)).2.1) ∧
    other.2.surroundings = run.2.surroundings ∧ other.2.dumps = run.2.dumps ∧ other.2.control = run.2.control ∧
    ∃ acts₁ acts₂, Scene.Did w₁.reporter acts₁ start run.2 ∧ Scene.Did w₂.reporter acts₂ (start.withReporter state) other.2 ∧
      Retold Finding.Harmless (w₁.HandlerCalledIn between start) w₁.handler w₂.handler acts₁ acts₂ ∧ deeds acts₂ = deeds acts₁ := by
  intro run other
  have hstart : Beside Finding.Harmless alike (w₁.HandlerCalledIn between start) w₁ w₂ start (start.withReporter state) start
      (start.withReporter state) := beside_withReporter start hstate
  obtain ⟨hprogress, acts₁, acts₂, hscenes, hretold⟩ := course_beside v (fun _ _ h => h) between hstart n
  exact ⟨hprogress, tick_course_beside v (fun _ _ h => h) between hstart n, hscenes.surroundings, hscenes.dumps,
    hscenes.control, acts₁, acts₂, hscenes.did₁, hscenes.did₂, hretold, hretold.deeds_eq⟩

end Watchdog

/-- A monitor that panics at each moment at which the script says nothing else. -/
def Monitor.frail (name : String) (violated stops : Nat → Bool) : Monitor Nat where
  name
  check moment :=
    { ending := if violated moment then .returned (.ok ⟨true, []⟩) else .panicked .wordless
      state := moment
      stops := stops moment }

/-- The pair, but with monitors and a handler that panic. -/
def Watchdog.frailPair (stops : Nat → Bool) : Watchdog Nat Unit :=
  { pair stops with
    handler := { name := "null", call := fun s => { Handler.null.call s with ending := .panicked .wordless } }
    monitors := [(Monitor.frail "steady" (fun _ => true) fun _ => false).entry 1, (Monitor.frail "late" (· == 2) stops).entry 0]
    names_nodup := by simp [Stack.names, Monitor.entry, Monitor.frail] }

/-- A monitor that fails where the other is content is a variant of it. -/
theorem Monitor.variant_frail (name : String) (violated stops : Nat → Bool) (maxStrikes : UInt32) :
    ((scripted name violated stops).entry maxStrikes).Variant Finding.Harmless ((frail name violated stops).entry maxStrikes) where
  name := rfl
  maxStrikes := rfl
  effects _ := ⟨rfl, rfl, rfl⟩
  finding moment := by
    cases h : violated moment with
    | true => exact .inl (by simp [Entry.find, Monitor.entry, scripted, frail, h])
    | false => exact .inr (by simp [Finding.Harmless, Finding.violates, Entry.find, Monitor.entry, scripted, frail, h, Ending.finding])

/-- So the pair that fails is a variant of the pair. -/
theorem Watchdog.variant_frailPair (stops : Nat → Bool) :
    (pair stops).Variant Finding.Harmless (fun _ _ => True) (frailPair stops) where
  interval := rfl
  writeHeapDumps := rfl
  monitors := .cons (Monitor.variant_frail ..) (.cons (Monitor.variant_frail ..) .nil)
  handler := ⟨rfl, fun _ => ⟨rfl, rfl, rfl⟩⟩
  reporter := Reporter.askAlike_of_never (fun _ _ => rfl) fun _ _ => rfl

/-- Where the pair escalates a monitor, the pair that panics whenever it may does so too. The same was done, and the event after the call
to each handler tells how that call ended. -/
theorem Watchdog.pair_escalates_frail :
    ((frailPair fun _ => false).course (fun _ => .moment) (Scene.beginning.withReporter ()) 2).1.outcome? =
        some (.handlerInvoked "steady") ∧
      ∃ acts₁ acts₂, Scene.Did (pair fun _ => false).reporter acts₁ .beginning
          ((pair fun _ => false).course (fun _ => .moment) .beginning 2).2 ∧
        Scene.Did (frailPair fun _ => false).reporter acts₂ (Scene.beginning.withReporter ())
          ((frailPair fun _ => false).course (fun _ => .moment) (Scene.beginning.withReporter ()) 2).2 ∧
        Retold Finding.Harmless ((pair fun _ => false).HandlerCalledIn (fun _ => .moment) .beginning) (pair fun _ => false).handler
          (frailPair fun _ => false).handler acts₁ acts₂ ∧
        deeds acts₂ = deeds acts₁ := by
  have h := failures_are_neutral (variant_frailPair fun _ => false) (fun _ => .moment) .beginning () trivial 2
  obtain ⟨hprogress, -, -, -, -, acts₁, acts₂, hdid₁, hdid₂, hretold, hdeeds⟩ := h
  exact ⟨(congrArg Progress.outcome? hprogress).trans rfl, acts₁, acts₂, hdid₁, hdid₂, hretold, hdeeds⟩

end MemoryWatchdog
