import MemoryWatchdog.CommandLine.Options
import MemoryWatchdog.Json

/-!
# Help and diagnostics of the command line

The program's name and version, its help in a short and a full form, and the messages about arguments that are refused.
-/

namespace MemoryWatchdog

namespace CommandLine

def programName : String := "memwatch"

def versionText : String :=
  programName ++ " 0.1.0\n"

/-- What the program is for. -/
def purpose : String :=
  "In-process memory watchdog: periodic health monitors, strike accounting and escalation handlers"

/-- How the program is used, with the options given or with any. -/
def usage (used : List Switch) : String :=
  "Usage: " ++ programName ++ " " ++
    if used.isEmpty then "[OPTIONS]" else " ".intercalate (used.map Switch.display)

namespace Switch

/-- What an option is for, in the short or the full help. -/
def purpose (full : Bool) : Switch → String
  | .role => "Kind of worker being supervised"
  | .config => "Config file path (environment variables override it)"
  | .dryRun => "Print the resolved watchdog configuration and exit"
  | .verbose => "Log every monitor check, not just strikes and escalations"
  | .json => "Emit logs as JSON lines"
  | .help => if full then "Print help (see a summary with '-h')" else "Print help (see more with '--help')"
  | .version => "Print version"

/-- The value of an option that is not given. -/
def default? : Switch → Option String
  | .role => some ({} : Options).role.name
  | .config => some ({} : Options).config
  | _ => none

/-- The names of an option, as help texts list them. -/
def heading (s : Switch) : String :=
  (match s.short? with
    | none => "      "
    | some c => "  -" ++ c.toString ++ ", ") ++ s.display

end Switch

/-- The admitted values of an option, in brackets. -/
def possibleValues : String :=
  "[possible values: " ++ ", ".intercalate (Role.all.map Role.name) ++ "]"

/-- The value of an option that is not given, in brackets. -/
def defaultNote (s : Switch) : Option String :=
  s.default?.map fun value => "[default: " ++ value ++ "]"

/-- The width of the column with the names of the options. -/
def headingWidth : Nat :=
  ((Switch.all.map fun s => s.heading.length).foldl max 0) + 2

/-- The line about an option in the short help. -/
def shortEntry (s : Switch) : String :=
  let heading := s.heading
  let notes := (defaultNote s).toList ++ if s = .role then [possibleValues] else []
  heading ++ String.ofList (List.replicate (headingWidth - heading.length) ' ')
    ++ " ".intercalate (s.purpose false :: notes) ++ "\n"

/-- The paragraph about an option in the full help. -/
def fullEntry (s : Switch) : String :=
  let indent := "          "
  let values := if s = .role then
      "\n" ++ indent ++ "Possible values:\n"
        ++ String.join (Role.all.map fun r => indent ++ "- " ++ r.name ++ ": " ++ r.purpose ++ "\n")
    else ""
  let note := match defaultNote s with
    | none => ""
    | some note => indent ++ "\n" ++ indent ++ note ++ "\n"
  s.heading ++ "\n" ++ indent ++ s.purpose true ++ "\n" ++ values ++ note

/-- The help text. -/
def helpText (full : Bool) : String :=
  purpose ++ "\n\n" ++ usage [] ++ "\n\nOptions:\n" ++
    if full then "\n".intercalate (Switch.all.map fullEntry) else String.join (Switch.all.map shortEntry)

/-- What a message about an argument ends with. -/
def helpHint : String := "For more information, try '--help'.\n"

/-- The message about arguments that are refused. -/
def UsageError.message : UsageError → String
  | .unexpected argument similar used =>
    "error: unexpected argument '" ++ argument ++ "' found\n\n"
      ++ (match similar with
        | none => ""
        | some s => "  tip: a similar argument exists: '--" ++ s.long ++ "'\n\n")
      ++ usage used ++ "\n\n" ++ helpHint
  | .unexpectedValue value s used =>
    "error: unexpected value '" ++ value ++ "' for '" ++ s.display ++ "' found; no more were expected\n\n"
      ++ usage used ++ "\n\n" ++ helpHint
  | .missingValue s =>
    "error: a value is required for '" ++ s.display ++ "' but none was supplied\n"
      ++ (if s = .role then "  " ++ possibleValues ++ "\n" else "") ++ "\n" ++ helpHint
  | .invalidRole value =>
    "error: invalid value '" ++ value ++ "' for '" ++ Switch.role.display ++ "'\n  " ++ possibleValues ++ "\n\n"
      ++ (match Text.mostSimilar? value (Role.all.map Role.name) with
        | none => ""
        | some name => "  tip: a similar value exists: '" ++ name ++ "'\n\n")
      ++ helpHint
  | .repeated s =>
    "error: the argument '" ++ s.display ++ "' cannot be used multiple times\n\n" ++ usage [] ++ "\n\n" ++ helpHint

end CommandLine

end MemoryWatchdog
