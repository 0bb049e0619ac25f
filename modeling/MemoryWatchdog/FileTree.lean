/-!
# Files and directories

A file tree maps locations, which are lists of names from the root down, to files and directories. Paths are texts; a path is
looked up name by name, from the working directory or, if it starts with a slash, from the root. Every operation answers with a
tree, also when it fails: what was done before the failure stays done. What is refused follows from the tree and the path alone; a tree
never runs out of room. Errors are told apart by cause, and `IoError.message` gives their texts.
-/

namespace MemoryWatchdog

/-- Why a file operation fails. -/
inductive IoError
  | notFound
  | alreadyExists
  | notADirectory
  | isADirectory
  | nameTooLong
  | nulInName
  | notUtf8
  | incompleteTree
  | other (text : String)
  deriving DecidableEq, Repr

/-- The text of an error, as the operating system words it where it is the one that refuses. -/
def IoError.message : IoError → String
  | .notFound => "No such file or directory (os error 2)"
  | .alreadyExists => "File exists (os error 17)"
  | .notADirectory => "Not a directory (os error 20)"
  | .isADirectory => "Is a directory (os error 21)"
  | .nameTooLong => "File name too long (os error 36)"
  | .nulInName => "file name contained an unexpected NUL byte"
  | .notUtf8 => "stream did not contain valid UTF-8"
  | .incompleteTree => "failed to create whole tree"
  | .other text => text

/-- The names from the root down to a file or a directory. -/
abbrev Location := List String

/-- A file with its bytes, or a directory. -/
inductive Node
  | file (content : ByteArray)
  | directory

/-- The files and directories below the root, in the order of their locations, and the working directory. The root itself is always
there and is a directory. -/
structure FileTree where
  nodes : List (Location × Node) := []
  home : Location := []

namespace FileTree

/-- The entries with one more, in order; an entry at the same location is replaced. -/
def insert (loc : Location) (node : Node) : List (Location × Node) → List (Location × Node)
  | [] => [(loc, node)]
  | (l, n) :: rest =>
    if loc = l then (loc, node) :: rest
    else if loc < l then (loc, node) :: (l, n) :: rest
    else (l, n) :: insert loc node rest

/-- What is at a location. -/
def node? (t : FileTree) (loc : Location) : Option Node :=
  if loc = [] then some .directory else t.nodes.lookup loc

/-- The tree with a file or a directory at a location. -/
def put (t : FileTree) (loc : Location) (node : Node) : FileTree :=
  { t with nodes := insert loc node t.nodes }

/-- The tree with nothing at a location. -/
def erase (t : FileTree) (loc : Location) : FileTree :=
  { t with nodes := t.nodes.filter fun e => e.1 != loc }

/-- The longest name, in bytes. -/
def maxName : Nat := 255

/-- The longest path, in bytes. -/
def maxPath : Nat := 4095

/-- The names between the slashes of a path. -/
def components (path : String) : List String :=
  (path.splitOn "/").filter (· != "")

def isAbsolute (path : String) : Bool :=
  path.startsWith "/"

def endsInSlash (path : String) : Bool :=
  path.endsWith "/"

/-- Where the look-up of a path starts. -/
def start (t : FileTree) (path : String) : Location :=
  if isAbsolute path then [] else t.home

/-- Refuses a text that can be no path. -/
def checkPath (path : String) : Except IoError Unit :=
  if path.toList.any (· == '\x00') then .error .nulInName
  else if path.isEmpty then .error .notFound
  else if maxPath < path.utf8ByteSize then .error .nameTooLong
  else .ok ()

/-- The directory that names lead to from a directory: each name but the dots must be that of a directory. -/
def walk (t : FileTree) (loc : Location) : List String → Except IoError Location
  | [] => .ok loc
  | name :: rest =>
    if name = "." then walk t loc rest
    else if name = ".." then walk t loc.dropLast rest
    else if maxName < name.utf8ByteSize then .error .nameTooLong
    else match t.node? (loc ++ [name]) with
      | none => .error .notFound
      | some (.file _) => .error .notADirectory
      | some .directory => walk t (loc ++ [name]) rest

/-- What the last name of a path is about: an entry of a directory, which may or may not exist, or a directory reached by dots. -/
inductive Target
  | entry (loc : Location)
  | dots (loc : Location)

/-- Looks up all names but the last. -/
def target (t : FileTree) (origin : Location) (names : List String) : Except IoError Target :=
  match names.getLast? with
  | none => .ok (.dots origin)
  | some last => do
    let parent ← walk t origin names.dropLast
    if last = "." then .ok (.dots parent)
    else if last = ".." then .ok (.dots parent.dropLast)
    else if maxName < last.utf8ByteSize then .error .nameTooLong
    else .ok (.entry (parent ++ [last]))

/-- Looks up a path. -/
def find (t : FileTree) (path : String) : Except IoError Target := do
  checkPath path
  target t (t.start path) (components path)

/-- Whether names lead to a directory. -/
def namesDirectory (t : FileTree) (origin : Location) (names : List String) : Bool :=
  match walk t origin names with
  | .ok _ => true
  | .error _ => false

/-- Whether there is anything at a path. A path that ends in a slash can only be that of a directory. -/
def pathExists (t : FileTree) (path : String) : Bool :=
  match t.find path with
  | .error _ => false
  | .ok (.dots _) => true
  | .ok (.entry loc) =>
    match t.node? loc with
    | none => false
    | some .directory => true
    | some (.file _) => !endsInSlash path

/-- The bytes of the file at a path. -/
def readBytes (t : FileTree) (path : String) : Except IoError ByteArray := do
  match ← t.find path with
  | .dots _ => .error .isADirectory
  | .entry loc =>
    match t.node? loc with
    | none => .error .notFound
    | some .directory => .error .isADirectory
    | some (.file content) => if endsInSlash path then .error .notADirectory else .ok content

/-- The text of the file at a path. -/
def readText (t : FileTree) (path : String) : Except IoError String := do
  match String.fromUTF8? (← t.readBytes path) with
  | some text => .ok text
  | none => .error .notUtf8

/-- Makes one directory. -/
def makeDirectory (t : FileTree) (origin : Location) (names : List String) : Except IoError FileTree := do
  match ← target t origin names with
  | .dots _ => .error .alreadyExists
  | .entry loc =>
    match t.node? loc with
    | some _ => .error .alreadyExists
    | none => .ok (t.put loc .directory)

/-- Makes one directory, after `above` has made those above it if one of them is missing. A directory that is there already is as
good as a new one. -/
def makeWithParents (t : FileTree) (origin : Location) (names : List String) (above : Except IoError Unit × FileTree) :
    Except IoError Unit × FileTree :=
  match t.makeDirectory origin names with
  | .ok made => (.ok (), made)
  | .error .notFound =>
    match above with
    | (.error e, t) => (.error e, t)
    | (.ok _, t) =>
      match t.makeDirectory origin names with
      | .ok made => (.ok (), made)
      | .error e => if t.namesDirectory origin names then (.ok (), t) else (.error e, t)
  | .error e => if t.namesDirectory origin names then (.ok (), t) else (.error e, t)

/-- Makes the directory that the names, last first, lead to, and those above it. -/
def makeAll (t : FileTree) (origin : Location) : List String → Except IoError Unit × FileTree
  | [] => (.ok (), t)
  | name :: above => t.makeWithParents origin (name :: above).reverse (makeAll t origin above)

/-- The names of a path without the dots that stand for the same directory; one that leads a relative path is kept. -/
def plainComponents (path : String) : List String :=
  match components path with
  | [] => []
  | name :: rest =>
    if name = "." && !isAbsolute path then name :: rest.filter (· != ".") else (name :: rest).filter (· != ".")

/-- Makes a directory and those above it that are missing. -/
def makeDirectories (t : FileTree) (path : String) : Except IoError Unit × FileTree :=
  if path.isEmpty then (.ok (), t)
  else match checkPath path with
    | .error e => (.error e, t)
    | .ok _ =>
      let origin := t.start path
      t.makeWithParents origin (components path) (t.makeAll origin (plainComponents path).reverse.tail)

/-- Writes a file, which replaces the file that was there. A write that is refused leaves the tree as it was: here a tree has room for
whatever is written, while a disk can fill up during a write and then keeps an empty file or the beginning of the content. -/
def writeFile (t : FileTree) (path : String) (content : ByteArray) : Except IoError Unit × FileTree :=
  match t.find path with
  | .error e => (.error e, t)
  | .ok (.dots _) => (.error .isADirectory, t)
  | .ok (.entry loc) =>
    if endsInSlash path then (.error .isADirectory, t)
    else match t.node? loc with
      | some .directory => (.error .isADirectory, t)
      | _ => (.ok (), t.put loc (.file content))

/-- Moves a file to another path, where it replaces the file that was there. -/
def rename (t : FileTree) (source destination : String) : Except IoError Unit × FileTree :=
  match t.find source, t.find destination with
  | .error e, _ => (.error e, t)
  | _, .error e => (.error e, t)
  | .ok (.entry here), .ok (.entry there) =>
    match t.node? here, t.node? there with
    | some (.file _), some .directory => (.error .isADirectory, t)
    | some (.file content), _ => (.ok (), (t.erase here).put there (.file content))
    | none, _ => (.error .notFound, t)
    | some .directory, _ => (.error .isADirectory, t)
  | _, _ => (.error .isADirectory, t)

/-- Deletes a file. -/
def removeFile (t : FileTree) (path : String) : Except IoError Unit × FileTree :=
  match t.find path with
  | .error e => (.error e, t)
  | .ok (.dots _) => (.error .isADirectory, t)
  | .ok (.entry loc) =>
    match t.node? loc with
    | none => (.error .notFound, t)
    | some .directory => (.error .isADirectory, t)
    | some (.file _) => (.ok (), t.erase loc)

/-- A path with a further relative path below it. -/
def join (path rest : String) : String :=
  if isAbsolute rest then rest
  else if path.isEmpty || endsInSlash path then path ++ rest
  else path ++ "/" ++ rest

/-- What lies below a directory, each with its names from there down, in order. -/
def below (t : FileTree) (loc : Location) : List (List String × Node) :=
  t.nodes.filterMap fun e =>
    if loc.isPrefixOf e.1 && e.1 != loc then some (e.1.drop loc.length, e.2) else none

end FileTree

end MemoryWatchdog
