import MemoryWatchdog.Json
import MemoryWatchdog.Memory

/-!
# Monitors

A monitor looks at one resource of the process and says whether its limit is violated, with a payload for reports. It may also fail
or panic, change the surroundings, and ask for the watchdog that called it to stop. A stack is the list of monitors of a watchdog,
each with the name its strikes are counted under and the strikes that it allows. `firstDuplicate?` finds a name that is used twice,
and is nothing exactly when the names are distinct.
-/

namespace MemoryWatchdog

/-- What a call to code outside the watchdog's control leaves: how it ended, the surroundings, what it logged, and whether it asked
for the watchdog to stop. -/
structure Reply (σ α : Type) where
  ending : Ending α
  state : σ
  log : Log := #[]
  stops : Bool := false

/-- What a monitor says about its resource. -/
structure Verdict where
  violated : Bool
  payload : Payload

/-- Why a monitor says nothing. -/
inductive MonitorError
  | measurement (cause : MemoryError)
  | missingBaseline (reason : String)
  deriving DecidableEq, Repr

/-- The text of an error. -/
def MonitorError.message : MonitorError → String
  | .measurement cause => "measurement failed: " ++ cause.message
  | .missingBaseline reason => "no baseline available: " ++ reason

/-- The text of what caused an error, if something else did. -/
def MonitorError.cause : MonitorError → Option String
  | .measurement cause => some cause.message
  | .missingBaseline _ => none

/-- A health check over one resource of the process. -/
structure Monitor (σ : Type) where
  name : String
  check : σ → Reply σ (Except MonitorError Verdict)

/-- A monitor in a stack. -/
structure Monitor.Entry (σ : Type) where
  name : String
  maxStrikes : UInt32
  monitor : Monitor σ

/-- A monitor in a stack under its own name. -/
def Monitor.entry {σ : Type} (m : Monitor σ) (maxStrikes : UInt32) : Monitor.Entry σ :=
  ⟨m.name, maxStrikes, m⟩

/-- The monitors of a watchdog, in the order in which they are evaluated. -/
abbrev Stack (σ : Type) := List (Monitor.Entry σ)

namespace Stack

/-- The names that strikes are counted under. -/
def names {σ : Type} (stack : Stack σ) : List String :=
  stack.map (·.name)

/-- The first of the names that is among those seen or repeats an earlier one. -/
def duplicateAfter? (seen : List String) : List String → Option String
  | [] => none
  | name :: rest => if name ∈ seen then some name else duplicateAfter? (name :: seen) rest

/-- The first name that repeats an earlier one. -/
def firstDuplicate? {σ : Type} (stack : Stack σ) : Option String :=
  duplicateAfter? [] stack.names

/-- How diagnostics show a stack. -/
def debugText {σ : Type} (stack : Stack σ) : String :=
  let entries := stack.map fun e =>
    "MonitorEntry \x7b name: " ++ Text.quoted e.name ++ ", max_strikes: " ++ toString e.maxStrikes.toNat ++ ", .. \x7d"
  "MonitorStack \x7b entries: [" ++ ", ".intercalate entries ++ "] \x7d"

/-- Nothing is found among distinct names that were not seen before, and only among such. -/
theorem duplicateAfter?_eq_none_iff {seen names : List String} :
    duplicateAfter? seen names = none ↔ names.Nodup ∧ ∀ name ∈ names, name ∉ seen := by
  induction names generalizing seen with
  | nil => simp [duplicateAfter?]
  | cons name rest ih =>
    by_cases h : name ∈ seen
    · simp [duplicateAfter?, h]
    · simp only [duplicateAfter?, h, if_false, ih, List.nodup_cons, List.mem_cons, not_or, forall_eq_or_imp,
        not_false_eq_true, true_and]
      constructor
      · rintro ⟨hn, hm⟩
        exact ⟨⟨fun hmem => (hm name hmem).1 rfl, hn⟩, fun m hmem => (hm m hmem).2⟩
      · rintro ⟨⟨hname, hn⟩, hm⟩
        exact ⟨hn, fun m hmem => ⟨fun hEq => hname (hEq ▸ hmem), hm m hmem⟩⟩

/-- No name is found exactly when the names are distinct. -/
theorem firstDuplicate?_eq_none_iff {σ : Type} {stack : Stack σ} : stack.firstDuplicate? = none ↔ stack.names.Nodup := by
  simp [firstDuplicate?, duplicateAfter?_eq_none_iff]

end Stack

end MemoryWatchdog
