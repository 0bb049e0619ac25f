import MemoryWatchdog.Watchdog.Scene

/-!
# What a stretch of a run did

`Scene.Did r acts before after` says that a watchdog which reports to `r` did exactly the acts given on its way from one scene to
another: the journal grew by them, and the reporter received the events among them, each once and in their order, and nothing else.
Stretches compose. The calls among the acts are those to monitors and to the handler.
-/

namespace MemoryWatchdog

/-- The event of an act that is a report. -/
def Act.event? : Act → Option Event
  | .reported event => some event
  | _ => none

/-- Whether an act is a call to a monitor or to the handler. -/
def Act.isCall : Act → Bool
  | .evaluated .. => true
  | .handlerCalled _ => true
  | _ => false

/-- The events among acts. -/
def reports (acts : List Act) : List Event :=
  acts.filterMap Act.event?

/-- The calls among acts. -/
def calls (acts : List Act) : List Act :=
  acts.filter Act.isCall

theorem reports_append (acts more : List Act) : reports (acts ++ more) = reports acts ++ reports more :=
  List.filterMap_append

theorem calls_append (acts more : List Act) : calls (acts ++ more) = calls acts ++ calls more :=
  List.filter_append ..

namespace Scene

variable {σ ρ : Type} {r : Reporter ρ}

/-- Between two scenes exactly these acts were done, and the reporter received the events among them. -/
structure Did (r : Reporter ρ) (acts : List Act) (before after : Scene σ ρ) : Prop where
  history : after.history = before.history ++ acts
  reporter : after.reporter = (reports acts).foldl r.take before.reporter

theorem Did.refl (sc : Scene σ ρ) : Did r [] sc sc :=
  ⟨by simp, rfl⟩

theorem Did.trans {acts more : List Act} {sc₁ sc₂ sc₃ : Scene σ ρ} (h : Did r acts sc₁ sc₂) (h' : Did r more sc₂ sc₃) :
    Did r (acts ++ more) sc₁ sc₃ where
  history := by rw [h'.history, h.history, List.append_assoc]
  reporter := by rw [h'.reporter, h.reporter, reports_append, List.foldl_append]

/-- A report is one act. -/
theorem did_emit (r : Reporter ρ) (e : Event) (sc : Scene σ ρ) : Did r [.reported e] sc (sc.emit r e) :=
  ⟨history_emit r e sc, rfl⟩

/-- An act that is no report leaves the reporter as it is. -/
theorem did_note {act : Act} (h : act.event? = none) (sc : Scene σ ρ) : Did r [act] sc (sc.note act) :=
  ⟨history_note act sc, by simp [reports, h]⟩

/-- Taking in a reply is no act. -/
theorem did_receive {α : Type} (reply : Reply σ α) (sc : Scene σ ρ) : Did r [] sc (sc.receive reply) :=
  ⟨by simp, rfl⟩

end Scene

end MemoryWatchdog
