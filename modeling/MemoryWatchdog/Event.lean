import MemoryWatchdog.Json
import MemoryWatchdog.Log

/-!
# Events

What a watchdog reports: its start, the outcome of each evaluation, each step of an escalation, and its end. As JSON an event is an
object whose first field is a tag, the name of the event's variant in small letters; the attributes are what is left of this object when
the tag is taken away, in the order of the names.
-/

namespace MemoryWatchdog

/-- Something that a watchdog reports. -/
inductive Event
  | started (monitors : List String) (handler : String) (sleepSeconds : Binary64) (writeHeapDumps : Bool)
  | monitorOk (monitor : String) (payload : Payload)
  | monitorError (monitor error : String)
  | strikeRecorded (monitor : String) (strikes maxStrikes : UInt32) (payload : Payload)
  | thresholdExceeded (monitor : String) (strikes maxStrikes : UInt32) (payload : Payload)
  | heapDumpRequested (monitor : String)
  | handlerInvoked (monitor handler : String)
  | handlerFailed (monitor handler error : String)
  | stopped (reason : String)

namespace Event

/-- The kind of an event. -/
def kind : Event → String
  | .started .. => "started"
  | .monitorOk .. => "monitor_ok"
  | .monitorError .. => "monitor_error"
  | .strikeRecorded .. => "strike_recorded"
  | .thresholdExceeded .. => "threshold_exceeded"
  | .heapDumpRequested _ => "heap_dump_requested"
  | .handlerInvoked .. => "handler_invoked"
  | .handlerFailed .. => "handler_failed"
  | .stopped _ => "stopped"

/-- The name of an event's variant. -/
def variant : Event → String
  | .started .. => "Started"
  | .monitorOk .. => "MonitorOk"
  | .monitorError .. => "MonitorError"
  | .strikeRecorded .. => "StrikeRecorded"
  | .thresholdExceeded .. => "ThresholdExceeded"
  | .heapDumpRequested _ => "HeapDumpRequested"
  | .handlerInvoked .. => "HandlerInvoked"
  | .handlerFailed .. => "HandlerFailed"
  | .stopped _ => "Stopped"

/-- A name in small letters. An underscore stands before each letter that was a capital, except before the first. -/
def snakeCase (name : String) : String :=
  .ofList (name.toList.zipIdx.flatMap fun (c, i) => if 0 < i ∧ c.isUpper then ['_', c.toLower] else [c.toLower])

/-- The fields about strikes. -/
def strikeFields (monitor : String) (strikes maxStrikes : UInt32) (payload : Payload) : List (String × Json) :=
  [("monitor", .string monitor), ("strikes", .integer strikes.toNat), ("max_strikes", .integer maxStrikes.toNat),
    ("payload", .object payload)]

/-- The fields of an event, without its tag. -/
def fields : Event → List (String × Json)
  | .started monitors handler sleepSeconds writeHeapDumps =>
    [("monitors", .array (monitors.map .string)), ("handler", .string handler),
      ("sleep_interval_secs", .ofBinary64 sleepSeconds), ("write_heap_dumps", .boolean writeHeapDumps)]
  | .monitorOk monitor payload => [("monitor", .string monitor), ("payload", .object payload)]
  | .monitorError monitor error => [("monitor", .string monitor), ("error", .string error)]
  | .strikeRecorded monitor strikes maxStrikes payload => strikeFields monitor strikes maxStrikes payload
  | .thresholdExceeded monitor strikes maxStrikes payload => strikeFields monitor strikes maxStrikes payload
  | .heapDumpRequested monitor => [("monitor", .string monitor)]
  | .handlerInvoked monitor handler => [("monitor", .string monitor), ("handler", .string handler)]
  | .handlerFailed monitor handler error =>
    [("monitor", .string monitor), ("handler", .string handler), ("error", .string error)]
  | .stopped reason => [("reason", .string reason)]

/-- The event as a JSON object, its tag first. -/
def toJson (e : Event) : Json :=
  .object (("event", .string (snakeCase e.variant)) :: e.fields)

/-- The attributes of an event: its JSON object without the tag, in the order of the names. -/
def attributes (e : Event) : Payload :=
  match e.toJson with
  | .object fields => (Json.sorted fields).filter fun f => f.1 != "event"
  | _ => []

/-- How important the log line of an event is. -/
def level : Event → Log.Level
  | .monitorOk .. => .debug
  | .started .. => .info
  | .stopped _ => .info
  | .monitorError .. => .error
  | .handlerFailed .. => .error
  | _ => .warn

end Event

end MemoryWatchdog
