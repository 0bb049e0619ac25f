import MemoryWatchdog.Toml.Scalar

/-!
# Values and tables

A table is a list of fields in the order in which their keys first appear. How a table came about decides what may be added to it
later: a table with a header is closed to dotted keys, one in braces is closed to everything, one that only dotted keys made takes
further dotted keys, and one that a longer header implies may still get a header of its own. `Fields.within` holds these rules; a
document and an inline table are both built with it.
-/

namespace MemoryWatchdog.Toml

/-- How a table came about. -/
inductive Origin where
  | header
  | dotted
  | implied
  | braces
  deriving DecidableEq, Repr

/-- A key as written, without the tables in front of it. -/
structure Key where
  text : String
  span : Span
  deriving DecidableEq, Repr

/-- A value. A field of a table has the stretch of its value if that has one; a table that is implied or made by dotted keys has
none. Dates and times are known to be there and no more. -/
inductive Value where
  | string (text : String)
  | integer (n : Int)
  | real (x : Binary64)
  | boolean (b : Bool)
  | dateTime
  | array (items : List Value)
  | table (origin : Origin) (fields : List (Key × Option Span × Value))
  | tables (elements : List (List (Key × Option Span × Value)))

/-- The fields of a table, in order. -/
abbrev Fields := List (Key × Option Span × Value)

namespace Fields

/-- Changes what a key holds; a new key goes to the end. -/
def alter (key : Key) (change : Option (Option Span × Value) → Option (Option Span × Value)) : Fields → Option Fields
  | [] => (change none).map fun held => [(key, held)]
  | (k, held) :: rest =>
    if k.text = key.text then (change (some held)).map fun held => (k, held) :: rest
    else (alter key change rest).map ((k, held) :: ·)

/-- What a key holds. -/
def get? (text : String) (fields : Fields) : Option (Option Span × Value) :=
  (fields.find? (·.1.text == text)).map Prod.snd

/-- The fields without a key. -/
def erase (text : String) (fields : Fields) : Fields :=
  fields.filter (·.1.text != text)

/-- Changes the table at the end of a path: tables that `enters` refuses stop it, an array of tables stands for its last, and
where nothing is, a table of origin `fresh` is made. -/
def within (fresh : Origin) (enters : Origin → Bool) (change : Origin → Fields → Option Fields) :
    List Key → Origin → Fields → Option Fields
  | [], origin, fields => change origin fields
  | key :: path, _, fields => alter key (fun held =>
      match held with
      | none => (within fresh enters change path fresh []).map fun inner => (none, .table fresh inner)
      | some (span, .table origin inner) =>
        if enters origin then (within fresh enters change path origin inner).map fun inner => (span, .table origin inner) else none
      | some (span, .tables elements) =>
        match elements.getLast? with
        | none => none
        | some inner =>
          (within fresh enters change path .header inner).map fun inner => (span, .tables (elements.dropLast ++ [inner]))
      | some _ => none) fields

/-- A key that is not there yet gets a value. -/
def insertNew (key : Key) (held : Option Span × Value) (fields : Fields) : Option Fields :=
  fields.alter key fun
    | none => some held
    | some _ => none

/-- A dotted key gets a value. The tables that it names must come from dotted keys, but those in the middle may also be implied. -/
def insert (path : List Key) (key : Key) (held : Option Span × Value) (origin : Origin) (fields : Fields) : Option Fields :=
  within .dotted (fun o => o == .dotted || o == .implied)
    (fun o inner => if (o == .dotted) == path.isEmpty then none else inner.insertNew key held) path origin fields

end Fields

/-- A dotted key and its value. -/
structure Entry where
  path : List Key
  key : Key
  span : Span
  value : Value

/-- The fields with further entries, unless one of them is refused. -/
def Fields.insertAll (origin : Origin) : List Entry → Fields → Option Fields
  | [], fields => some fields
  | e :: entries, fields => do
    let fields ← fields.insert e.path e.key (some e.span, e.value) origin
    insertAll origin entries fields

/-- A header, with one pair of brackets or with two. -/
structure Header where
  path : List Key
  key : Key
  span : Span
  repeats : Bool

/-- A header and the entries up to the next one. -/
structure Section where
  header : Header
  entries : List Entry

/-- The stretch from the header to the last value. -/
def Section.span (s : Section) : Span :=
  ⟨s.header.span.start, match s.entries.getLast? with
    | none => s.header.span.stop
    | some e => e.span.stop⟩

/-- Adds the table of a section. With one pair of brackets the key must be new or the table only implied, and it goes to the end;
with two, the table joins those that the key holds. -/
def Section.addTo (s : Section) (fields : Fields) : Option Fields :=
  fields.within .implied (· != .braces) (fun _ parent =>
    if s.header.repeats then do
      let table ← Fields.insertAll .header s.entries []
      parent.alter s.header.key fun
        | none => some (some s.span, .tables [table])
        | some (span, .tables elements) =>
          some (some ⟨(span.getD s.span).start, s.span.stop⟩, .tables (elements ++ [table]))
        | some _ => none
    else do
      let inner ← match parent.get? s.header.key.text with
        | none => some []
        | some (_, .table .implied inner) => some inner
        | some _ => none
      let table ← Fields.insertAll .header s.entries inner
      return parent.erase s.header.key.text ++ [(s.header.key, some s.span, .table .header table)])
    s.header.path .header

end MemoryWatchdog.Toml
