import MemoryWatchdog.Role
import MemoryWatchdog.Text.Similarity

/-!
# Options

The grammar of the command line. Options have a long name and most also a short one; short ones can be joined, and a value follows its
option as the next argument, after an equals sign or, for a short option, directly. Each option may be given once. Arguments are read
from left to right. A value is judged when the next option is read or all arguments are, so an argument that is not known is told
before an earlier value that is wrong; help and version end the reading where they stand.
-/

namespace MemoryWatchdog

namespace CommandLine

/-- What the arguments ask for. -/
structure Options where
  role : Role := .web
  config : String := "memwatch.toml"
  dryRun : Bool := false
  verbose : Bool := false
  json : Bool := false
  deriving DecidableEq, Repr

/-- The options by name. -/
inductive Switch where
  | role
  | config
  | dryRun
  | verbose
  | json
  | help
  | version
  deriving DecidableEq, Repr

namespace Switch

/-- All options, in the order in which help texts list them. -/
def all : List Switch :=
  [.role, .config, .dryRun, .verbose, .json, .help, .version]

def long : Switch → String
  | .role => "role"
  | .config => "config"
  | .dryRun => "dry-run"
  | .verbose => "verbose"
  | .json => "json"
  | .help => "help"
  | .version => "version"

def short? : Switch → Option Char
  | .role => some 'r'
  | .config => some 'c'
  | .verbose => some 'v'
  | .help => some 'h'
  | .version => some 'V'
  | .dryRun => none
  | .json => none

/-- What stands for the value of an option that takes one. -/
def placeholder? : Switch → Option String
  | .role => some "<ROLE>"
  | .config => some "<CONFIG>"
  | _ => none

def takesValue (s : Switch) : Bool :=
  s.placeholder?.isSome

/-- The option as messages show it. -/
def display (s : Switch) : String :=
  "--" ++ s.long ++ match s.placeholder? with
    | none => ""
    | some p => " " ++ p

def ofLong? (name : String) : Option Switch :=
  all.find? (·.long == name)

def ofShort? (c : Char) : Option Switch :=
  all.find? (·.short? == some c)

end Switch

/-- Why arguments are refused. Where a message shows how the program is used, the options that it shows come along. -/
inductive UsageError where
  | unexpected (argument : String) (similar : Option Switch) (used : List Switch)
  | unexpectedValue (value : String) (switch : Switch) (used : List Switch)
  | missingValue (switch : Switch)
  | invalidRole (value : String)
  | repeated (switch : Switch)
  deriving DecidableEq, Repr

/-- What the arguments come to. -/
inductive Request where
  | run (options : Options)
  | help (full : Bool)
  | version
  deriving DecidableEq, Repr

/-- An option whose value is still to be judged: it follows, or it was the last argument. -/
structure Pending where
  switch : Switch
  value : Option String := none
  deriving DecidableEq, Repr

/-- What was read so far: the options with the values judged, which ones were used, in order, and one that is not judged yet. -/
structure Reading where
  options : Options := {}
  used : List Switch := []
  pending : Option Pending := none
  deriving DecidableEq, Repr

namespace Reading

/-- Judges the value of an option. -/
def assign (r : Reading) (s : Switch) (value : String) : Except UsageError Reading :=
  if value.isEmpty then .error (.missingValue s)
  else match s with
    | .role =>
      match Role.ofName? false value with
      | some role => .ok { r with options := { r.options with role } }
      | none => .error (.invalidRole value)
    | .config => .ok { r with options := { r.options with config := value } }
    | _ => .ok r

/-- Marks an option as used, unless it was already. -/
def use (r : Reading) (s : Switch) : Except UsageError Reading :=
  if s ∈ r.used then .error (.repeated s) else .ok { r with used := r.used ++ [s] }

/-- Judges the pending option. -/
def resolve (r : Reading) : Except UsageError Reading :=
  match r.pending with
  | none => .ok r
  | some ⟨s, none⟩ => .error (.missingValue s)
  | some ⟨s, some value⟩ => do
    let r ← { r with pending := none }.use s
    r.assign s value

/-- The options that count as used when the pending one is given up: it does if it has a value, whatever that is, and an option that
was used before does no longer. -/
def usedAnyway (r : Reading) : List Switch :=
  match r.pending with
  | some ⟨s, some _⟩ => if s ∈ r.used then r.used.erase s else r.used ++ [s]
  | _ => r.used

/-- Reads an option that takes no value. -/
def takeFlag (r : Reading) (s : Switch) : Except UsageError Reading := do
  let r ← (← r.resolve).use s
  return match s with
    | .dryRun => { r with options := { r.options with dryRun := true } }
    | .verbose => { r with options := { r.options with verbose := true } }
    | .json => { r with options := { r.options with json := true } }
    | _ => r

/-- Reads an option that takes a value, with the value if it is attached. -/
def takeOption (r : Reading) (s : Switch) (attached : Option String) : Except UsageError Reading := do
  let r ← r.resolve
  match attached with
  | none => return { r with pending := some ⟨s, none⟩ }
  | some value => (← r.use s).assign s value

end Reading

/-- What reading an argument leads to: it goes on, or it ends with a request. -/
inductive Step where
  | goesOn (r : Reading)
  | ends (request : Request)

/-- Reads an argument of two dashes, a name and possibly an equals sign and a value. -/
def readLong (r : Reading) (name : String) (attached : Option String) : Except UsageError Step :=
  match Switch.ofLong? name with
  | none =>
    let similar := (Text.mostSimilar? name (Switch.all.map Switch.long)).bind Switch.ofLong?
    let used := match similar with
      | some s => if s ∈ r.usedAnyway then r.usedAnyway else r.usedAnyway ++ [s]
      | none => r.usedAnyway
    .error (.unexpected ("--" ++ name) similar used)
  | some s =>
    if s.takesValue then (r.takeOption s attached).map .goesOn
    else match attached with
      | some value => .error (.unexpectedValue value s (if s ∈ r.used then r.used else r.used ++ [s]))
      | none =>
        match s with
        | .help => do let _ ← r.resolve; return .ends (.help true)
        | .version => do let _ ← r.resolve; return .ends .version
        | s => (r.takeFlag s).map .goesOn

/-- Reads short options that are joined. -/
def readShort (r : Reading) : List Char → Except UsageError Step
  | [] => .ok (.goesOn r)
  | c :: rest =>
    match Switch.ofShort? c with
    | none => .error (.unexpected (String.ofList ['-', c]) none [])
    | some .help => do let _ ← r.resolve; return .ends (.help false)
    | some .version => do let _ ← r.resolve; return .ends .version
    | some s =>
      if s.takesValue then
        let attached := match rest with
          | [] => none
          | '=' :: value => some (String.ofList value)
          | value => some (String.ofList value)
        (r.takeOption s attached).map .goesOn
      else do readShort (← r.takeFlag s) rest

/-- A name and what follows an equals sign, if there is one. -/
def splitValue (cs : List Char) : String × Option String :=
  let name := cs.takeWhile (· != '=')
  match cs.dropWhile (· != '=') with
  | [] => (String.ofList name, none)
  | _ :: value => (String.ofList name, some (String.ofList value))

/-- Reads arguments. After two dashes alone, or without an option that waits for a value, nothing but options is expected. -/
def readAll (r : Reading) : List String → Except UsageError Request
  | [] => do
    let r ← r.resolve
    return .run r.options
  | argument :: rest =>
    match argument.toList with
    | ['-', '-'] =>
      match rest with
      | [] => do
        let r ← r.resolve
        return .run r.options
      | next :: _ => .error (.unexpected next none [])
    | '-' :: '-' :: name =>
      let (name, attached) := splitValue name
      match readLong r name attached with
      | .error e => .error e
      | .ok (.ends request) => .ok request
      | .ok (.goesOn r) => readAll r rest
    | '-' :: c :: more =>
      match readShort r (c :: more) with
      | .error e => .error e
      | .ok (.ends request) => .ok request
      | .ok (.goesOn r) => readAll r rest
    | _ =>
      match r.pending with
      | some ⟨s, none⟩ => readAll { r with pending := some ⟨s, some argument⟩ } rest
      | _ => .error (.unexpected argument none [])

/-- Reads the arguments of the program. -/
def Request.ofArguments (arguments : List String) : Except UsageError Request :=
  readAll {} arguments

end CommandLine

end MemoryWatchdog
