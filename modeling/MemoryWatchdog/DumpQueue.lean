/-!
# Requests for heap reports

A queue that holds one request or none: several requests before the next look count once.
-/

namespace MemoryWatchdog

/-- Whether a heap report was asked for and not yet written. -/
structure DumpQueue where
  pending : Bool := false
  deriving DecidableEq, Repr

namespace DumpQueue

/-- Asks for a report. -/
def enqueue (_ : DumpQueue) : DumpQueue :=
  { pending := true }

/-- Takes the request, if there is one, and leaves none. -/
def take (q : DumpQueue) : Bool × DumpQueue :=
  (q.pending, { pending := false })

@[simp] theorem pending_enqueue (q : DumpQueue) : q.enqueue.pending = true := rfl

@[simp] theorem take_fst (q : DumpQueue) : q.take.1 = q.pending := rfl

@[simp] theorem pending_take (q : DumpQueue) : q.take.2.pending = false := rfl

end DumpQueue

end MemoryWatchdog
