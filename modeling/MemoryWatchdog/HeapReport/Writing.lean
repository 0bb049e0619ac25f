import MemoryWatchdog.DumpQueue
import MemoryWatchdog.HeapReport
import MemoryWatchdog.Host
import MemoryWatchdog.Monitor

/-!
# Writing heap reports

A report is written in three steps: the directory is made, the text is written to a draft beside the final file, and the draft is
moved to its place. Each step can fail, and what the steps before it did stays done. A pending request is taken from the queue before
anything is measured, so a request whose report cannot be written is gone.
-/

namespace MemoryWatchdog

namespace HeapReport

/-- Which step of writing a report failed. -/
inductive WriteError
  | createDirectory (path : String) (cause : IoError)
  | write (path : String) (cause : IoError)
  | rename (source destination : String) (cause : IoError)
  deriving DecidableEq, Repr

/-- What the file system refused with. -/
def WriteError.cause : WriteError → IoError
  | .createDirectory _ cause => cause
  | .write _ cause => cause
  | .rename _ _ cause => cause

/-- The text of an error. -/
def WriteError.message (e : WriteError) : String :=
  match e with
  | .createDirectory path cause => "failed to create reports dir " ++ path ++ ": " ++ cause.message
  | .write path cause => "failed to write " ++ path ++ ": " ++ cause.message
  | .rename source destination cause => "failed to rename " ++ source ++ " to " ++ destination ++ ": " ++ cause.message

/-- Where a report goes. -/
def finalPath (directory : String) (r : HeapReport) : String :=
  FileTree.join directory r.fileName

/-- Where a report is drafted. -/
def draftPath (directory : String) (r : HeapReport) : String :=
  FileTree.join directory r.draftName

/-- Writes a report into a directory and answers with its path. -/
def write (directory : String) (r : HeapReport) (files : FileTree) : Except WriteError String × FileTree :=
  match files.makeDirectories directory with
  | (.error cause, files) => (.error (.createDirectory directory cause), files)
  | (.ok _, files) =>
    let draft := r.draftPath directory
    let final := r.finalPath directory
    match files.writeFile draft r.text.toUTF8 with
    | (.error cause, files) => (.error (.write draft cause), files)
    | (.ok _, files) =>
      match files.rename draft final with
      | (.error cause, files) => (.error (.rename draft final cause), files)
      | (.ok _, files) => (.ok final, files)

/-- Captures a report and writes it. -/
def captureAndWrite {π : Type} (probe : Probe (Host π)) (directory role : String) (now : Moment) (h : Host π) :
    Reply (Host π) (Except WriteError String) :=
  match capture probe h.pid.toNat role now h with
  | (.panicked p, h) => { ending := .panicked p, state := h }
  | (.returned report, h) =>
    match report.write directory h.files with
    | (.error e, files) => { ending := .returned (.error e), state := { h with files } }
    | (.ok path, files) =>
      { ending := .returned (.ok path)
        state := { h with files }
        log := #[⟨.info, "heap report written", [("path", .text path)]⟩] }

/-- Writes a report if one was asked for, and leaves the queue empty. -/
def writePending {π : Type} (probe : Probe (Host π)) (directory role : String) (now : Moment) (queue : DumpQueue) (h : Host π) :
    Reply (Host π) (Except WriteError (Option String)) × DumpQueue :=
  match queue.take with
  | (false, queue) => ({ ending := .returned (.ok none), state := h }, queue)
  | (true, queue) =>
    let reply := captureAndWrite probe directory role now h
    let ending : Ending (Except WriteError (Option String)) :=
      match reply.ending with
      | .returned (.ok path) => .returned (.ok (some path))
      | .returned (.error e) => .returned (.error e)
      | .panicked p => .panicked p
    ({ ending, state := reply.state, log := reply.log }, queue)

end HeapReport

end MemoryWatchdog
