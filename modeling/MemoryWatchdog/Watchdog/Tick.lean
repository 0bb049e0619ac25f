import MemoryWatchdog.Watchdog.Scene
import MemoryWatchdog.Watchdog.Strikes

/-!
# Ticks

In a tick every monitor is evaluated once, in the order of the stack, and its strikes are brought up to date: a violation adds one,
and a monitor that is within its limit, fails or panics starts anew. Only then the first monitor in the stack whose strikes exceed
what it allows is escalated: a heap report is requested if the configuration says so, and the handler is called.
-/

namespace MemoryWatchdog

/-- A monitor that has more strikes than it allows. -/
structure Breach where
  monitor : String
  strikes : UInt32
  maxStrikes : UInt32
  payload : Payload

/-- A tick on its way through the stack. -/
structure Tick (σ ρ : Type) where
  scene : Scene σ ρ
  strikes : Strikes
  breach : Option Breach := none

namespace Configuration

variable {σ ρ : Type}

/-- Evaluates a monitor; a failure or a panic is reported at once. -/
def evaluate (c : Configuration σ ρ) (e : Monitor.Entry σ) (sc : Scene σ ρ) : Finding × Scene σ ρ :=
  let reply := e.monitor.check sc.surroundings
  let finding := reply.ending.finding "monitor panicked" MonitorError.message
  let sc := (sc.receive reply).note (.evaluated e.name finding)
  match finding with
  | .ok v => (.ok v, sc)
  | .error text => (.error text, sc.emit c.reporter (.monitorError e.name text))

/-- Evaluates a monitor and brings its strikes up to date. The first breach of a tick is kept. -/
def visit (c : Configuration σ ρ) : Tick σ ρ → Monitor.Entry σ → Tick σ ρ
  | ⟨sc, strikes, breach⟩, e =>
    match c.evaluate e sc with
    | (.error _, sc) => { scene := sc, strikes := strikes.reset e.name, breach }
    | (.ok v, sc) =>
      if v.violated then
        let strikes := strikes.record e.name
        let n := strikes.count e.name
        { scene := sc.emit c.reporter (.strikeRecorded e.name n e.maxStrikes v.payload)
          strikes
          breach := breach <|> if e.maxStrikes < n then some ⟨e.name, n, e.maxStrikes, v.payload⟩ else none }
      else
        { scene := sc.emit c.reporter (.monitorOk e.name v.payload)
          strikes := strikes.reset e.name
          breach }

/-- Asks for a heap report, if the configuration says so. -/
def requestDump (c : Configuration σ ρ) (b : Breach) (sc : Scene σ ρ) : Scene σ ρ :=
  if c.writeHeapDumps then
    ({ sc with dumps := sc.dumps.enqueue }.note (.dumpRequested b.monitor)).emit c.reporter (.heapDumpRequested b.monitor)
  else sc

/-- What is reported of a call to the handler. -/
def handlerEvent (c : Configuration σ ρ) (b : Breach) (ending : Ending (Except HandlerError Unit)) : Event :=
  match ending.finding "handler panicked" HandlerError.message with
  | .ok _ => .handlerInvoked b.monitor c.handler.name
  | .error text => .handlerFailed b.monitor c.handler.name text

/-- Calls the handler and reports how that went. -/
def callHandler (c : Configuration σ ρ) (b : Breach) (sc : Scene σ ρ) : Scene σ ρ :=
  let reply := c.handler.call sc.surroundings
  let sc := (sc.receive reply).note (.handlerCalled b.monitor)
  sc.emit c.reporter (c.handlerEvent b reply.ending)

/-- What follows a breach. -/
def escalate (c : Configuration σ ρ) (b : Breach) (sc : Scene σ ρ) : Scene σ ρ :=
  let sc := sc.emit c.reporter (.thresholdExceeded b.monitor b.strikes b.maxStrikes b.payload)
  c.callHandler b (c.requestDump b sc)

/-- All evaluations of a tick. -/
def evaluateAll (c : Configuration σ ρ) (strikes : Strikes) (sc : Scene σ ρ) : Tick σ ρ :=
  c.monitors.foldl c.visit { scene := sc, strikes }

/-- A whole tick: the strikes after it, the monitor that was escalated, if any, and the scene. -/
def tick (c : Configuration σ ρ) (strikes : Strikes) (sc : Scene σ ρ) : Strikes × Option String × Scene σ ρ :=
  let t := c.evaluateAll strikes sc
  match t.breach with
  | none => (t.strikes, none, t.scene)
  | some b => (t.strikes, some b.monitor, c.escalate b t.scene)

end Configuration

end MemoryWatchdog
