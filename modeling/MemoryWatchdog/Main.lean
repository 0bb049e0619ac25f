import MemoryWatchdog.CommandLine
import MemoryWatchdog.Log.Line
import MemoryWatchdog.Memory.Accounting
import Std.Async.Signal
import Std.Time.DateTime.Timestamp

/-!
# Input and output of the program

Reads the files that the library looks at, tells it about signals and the time, prints its log, and writes the reports that it made.
-/

namespace MemoryWatchdog

namespace Main

/-- The tree with the file or directory that is really at a path, if there is one. -/
def look (path : String) (files : FileTree) : IO FileTree := do
  let place := (← IO.currentDir) / path
  if ← place.isDir then return (files.makeDirectories path).2
  else if ← place.pathExists then
    let content ← IO.FS.readBinFile path
    let parent := "/".intercalate (path.splitOn "/").dropLast
    return ((files.makeDirectories parent).2.writeFile path content).2
  else return files

/-- The path and the directories above it, from the top down. -/
def prefixes (path : String) : List String :=
  let parts := path.splitOn "/"
  ((List.range parts.length).map fun i => "/".intercalate (parts.take (i + 1))).filter (· != "")

/-- Where the system keeps the accounts of this process. -/
def accounts : String := "/proc/self"

/-- The tree with the present accounts of this process. -/
def lookAtAccounts (files : FileTree) : IO FileTree := do
  look (Accounting.rollupPath accounts) (← look (Accounting.statusPath accounts) files)

/-- The number of this process. -/
def readPid : IO Int := do
  let text ← IO.FS.readFile (accounts ++ "/stat")
  return ((Text.readUnsigned? UInt32.size (Text.firstToken text.toList)).getD 0 : Nat)

/-- The time of day. -/
def readClock : IO Moment := do
  let ns : Int := (← Std.Time.Timestamp.now).toNanosecondsSinceUnixEpoch.val
  return ⟨ns / 1000000000, (ns % 1000000000).toNat⟩

/-- Prints the entries of a log that are important enough. -/
def printLog (options : CommandLine.Options) (log : Log) : IO Unit := do
  let date := (← readClock).text
  for e in log.atLeast options.logLevel do
    IO.println (if options.json then e.jsonLine date else e.textLine date)

/-- The path that a location stands for. -/
def pathOf (files : FileTree) (loc : Location) : String :=
  if files.home.isPrefixOf loc then "/".intercalate (loc.drop files.home.length) else "/" ++ "/".intercalate loc

/-- Makes the files and directories that one tree has and another has not. -/
def writeNew (before after : FileTree) : IO Unit := do
  for (loc, node) in after.nodes do
    if before.node? loc |>.isNone then
      let path := pathOf after loc
      match node with
      | .directory => IO.FS.createDirAll path
      | .file content =>
        let draft := path ++ ".tmp"
        IO.FS.writeBinFile draft content
        IO.FS.rename draft path

/-- A signal that is waited for. -/
structure Listener where
  signal : Signal
  arrival : Std.Async.AsyncTask Int

/-- Starts to wait for the signals that ask the worker to stop. -/
def listen : IO (List Listener) := do
  let interrupt ← Std.Async.Signal.Waiter.mk .sigint false
  let terminate ← Std.Async.Signal.Waiter.mk .sigterm false
  return [⟨.interrupt, ← interrupt.wait⟩, ⟨.terminate, ← terminate.wait⟩]

/-- The lifecycle with the signals that arrived, the present accounts and the present time. -/
def refresh (listeners : List Listener) (l : Lifecycle Unit) : IO (Lifecycle Unit) := do
  let mut signals := l.host.signals
  for listener in listeners do
    if ← IO.hasFinished listener.arrival then
      signals := signals.raise listener.signal
  let files ← lookAtAccounts l.host.files
  return { l with host := { l.host with files, signals }, clock := ← readClock }

/-- Prints the log and goes on with an empty one. -/
def flush (options : CommandLine.Options) (l : Lifecycle Unit) : IO (Lifecycle Unit) := do
  printLog options l.log
  return { l with log := #[] }

/-- Supervises until there is a cause to stop. -/
partial def supervise (options : CommandLine.Options) (listeners : List Listener) (began : Nat) (l : Lifecycle Unit) :
    IO (CommandLine.Cause × Lifecycle Unit) := do
  let l ← refresh listeners l
  let l := l.advance ((← IO.monoMsNow) - began)
  let l ← flush options l
  match CommandLine.cause? l.host with
  | some cause => return (cause, l)
  | none =>
    IO.sleep 20
    supervise options listeners began l

/-- Carries out a plan. -/
def carryOut (plan : CommandLine.Plan) (h : Host Unit) : IO UInt32 := do
  match plan with
  | .finish exit =>
    IO.print exit.output
    IO.eprint exit.errors
    return .ofNat exit.code
  | .supervise options settings =>
    let listeners ← listen
    let hooks := Lifecycle.install {} settings options.role (Accounting.probe accounts)
    let began ← IO.monoMsNow
    let (_, l) := CommandLine.begin options.role hooks { host := h }
    let (cause, l) ← supervise options listeners began l
    let files ← (prefixes settings.reportsDirectory).foldlM (fun files path => look path files) l.host.files
    let l ← refresh [] { l with host := { l.host with files } }
    let before := l.host.files
    let (_, l) := CommandLine.stop cause hooks l
    writeNew before l.host.files
    let _ ← flush options (CommandLine.conclude l)
    return 0

/-- Runs the program with its arguments. -/
def run (arguments : List String) : IO UInt32 := do
  let environment ← Settings.Field.all.filterMapM fun f => do
    return (← IO.getEnv f.environmentName).map fun value => (f.environmentName, value)
  let options := match CommandLine.Request.ofArguments arguments with
    | .ok (.run options) => options
    | _ => {}
  let files ← look options.config { home := ["worker"], nodes := [(["worker"], .directory)] }
  let files ← lookAtAccounts files
  let h : Host Unit := { files, memory := (), pid := ← readPid }
  let (plan, log) := CommandLine.plan arguments (environment.lookup ·) (Accounting.probe accounts) h
  printLog options log
  carryOut plan h

end Main

end MemoryWatchdog

/-- The program. -/
def main (arguments : List String) : IO UInt32 :=
  MemoryWatchdog.Main.run arguments
