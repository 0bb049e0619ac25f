import MemoryWatchdog.Log

/-!
# Hooks

The host of a worker calls hooks when the worker starts and when it stops, in the order in which they were registered. A hook may
panic, which nobody holds back: the hooks after it are not called.
-/

namespace MemoryWatchdog

/-- Code that the host calls, with an effect on the state. -/
abbrev Hook (σ : Type) := σ → Ending Unit × σ

/-- The hooks of a worker. -/
structure Hooks (σ : Type) where
  atStart : List (Hook σ) := []
  atStop : List (Hook σ) := []

namespace Hooks

variable {σ : Type}

/-- Registers a hook for the start of the worker. -/
def onStart (hooks : Hooks σ) (hook : Hook σ) : Hooks σ :=
  { hooks with atStart := hooks.atStart ++ [hook] }

/-- Registers a hook for the stop of the worker. -/
def onStop (hooks : Hooks σ) (hook : Hook σ) : Hooks σ :=
  { hooks with atStop := hooks.atStop ++ [hook] }

/-- Calls hooks one after the other until one panics. -/
def callAll : List (Hook σ) → σ → Ending Unit × σ
  | [], s => (.returned (), s)
  | hook :: hooks, s =>
    match hook s with
    | (.returned _, s) => callAll hooks s
    | (.panicked p, s) => (.panicked p, s)

/-- One hook alone is all that is called. -/
theorem callAll_singleton (hook : Hook σ) (s : σ) : callAll [hook] s = hook s := by
  simp only [callAll]
  rcases hook s with ⟨ending, s'⟩
  cases ending <;> rfl

/-- The worker starts. -/
def start (hooks : Hooks σ) (s : σ) : Ending Unit × σ :=
  callAll hooks.atStart s

/-- The worker stops. -/
def stop (hooks : Hooks σ) (s : σ) : Ending Unit × σ :=
  callAll hooks.atStop s

end Hooks

end MemoryWatchdog
