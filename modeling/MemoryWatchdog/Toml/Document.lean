import MemoryWatchdog.Toml.Table

/-!
# Documents

The grammar above single values: arrays, inline tables, keys, and the statements of a document, each on lines of its own.
`fieldsOf?` reads a whole text. A text that the grammar refuses, or whose keys contradict each other, has no fields.
-/

namespace MemoryWatchdog.Toml

open Reader

/-- How deep arrays and inline tables may stand in one another, and how many keys a dotted key may join. -/
def deepest : Nat := 79

/-- Blanks, line ends and comments. -/
def gap : Reader Unit := do
  let _ ← repeated ((do let _ ← satisfying isInlineBlank) <|> lineEnd <|> (do comment; lineEnd))

def isKeyCharacter (c : Char) : Bool :=
  c.isAlphanum || c == '_' || c == '-'

/-- A key in quotes or bare. -/
def simpleKey : Reader String :=
  basicString <|> literalString <|> do
    let first ← satisfying isKeyCharacter
    let more ← whileTrue isKeyCharacter
    return String.ofList (first :: more)

/-- A key with blanks around it. -/
def keyBetweenBlanks (size : Nat) : Reader Key := do
  inlineBlanks
  let (text, span) ← located size simpleKey
  inlineBlanks
  return ⟨text, span⟩

/-- A dotted key: the keys in front of the last one, and the last one. -/
def dottedKey (size : Nat) : Reader (List Key × Key) := do
  let keys ← separatedBy (exactly '.') (keyBetweenBlanks size)
  if keys.length ≤ deepest then
    match keys.getLast? with
    | some last => return (keys.dropLast, last)
    | none => failure
  else failure

/-- A dotted key, an equals sign and a value. -/
def entry (size : Nat) (value : Reader (Value × Span)) : Reader Entry := do
  let (path, key) ← dottedKey size
  exactly '='
  inlineBlanks
  let (value, span) ← value
  return ⟨path, key, span, value⟩

/-- The items of an array: over several lines if need be, with a comma after the last one allowed. -/
def items (value : Reader (Value × Span)) : Reader (List Value) := do
  exactly '['
  gap
  let read ← (separatedBy (exactly ',') do gap; let (item, _) ← value; gap; return item) <|> pure []
  if !read.isEmpty then
    let _ ← optional (exactly ',')
  gap
  exactly ']'
  return read

/-- The fields of an inline table, on one line. -/
def inlineFields (size : Nat) (value : Reader (Value × Span)) : Reader Fields := do
  exactly '\x7b'
  let entries ← (separatedBy (exactly ',') do let e ← entry size value; inlineBlanks; return e) <|> pure []
  inlineBlanks
  exactly '\x7d'
  (Fields.insertAll .braces entries [] : Option Fields)

/-- A value that holds no others. -/
def scalar : Reader Value :=
  .string <$> string
    <|> (do dateTime; return .dateTime)
    <|> .real <$> real
    <|> .integer <$> integer
    <|> .boolean <$> boolean

/-- A value that may hold others to the given depth, with its stretch. -/
def value (size : Nat) : Nat → Reader (Value × Span)
  | 0 => located size scalar
  | depth + 1 => located size <|
      scalar
        <|> .array <$> items (value size depth)
        <|> .table .braces <$> inlineFields size (value size depth)

/-- The rest of a line after a statement. -/
def lineRest : Reader Unit := do
  inlineBlanks
  let _ ← optional comment
  lineEnd <|> atEnd

/-- A table header. -/
def header (size : Nat) : Reader Header := do
  let ((repeats, path, key), span) ← located size <|
    (do
      word "[["
      let (path, key) ← dottedKey size
      word "]]"
      return (true, path, key))
    <|> (do
      exactly '['
      let (path, key) ← dottedKey size
      exactly ']'
      return (false, path, key))
  return ⟨path, key, span, repeats⟩

/-- What a line says. -/
inductive Statement where
  | nothing
  | entry (e : Entry)
  | header (h : Header)

/-- A statement and the blanks in front of the next. -/
def statement (size : Nat) : Reader Statement := do
  let said ←
    (do lineEnd; return .nothing)
    <|> (do comment; lineEnd <|> atEnd; return .nothing)
    <|> (do let h ← header size; lineRest; return .header h)
    <|> (do let e ← entry size (value size deepest); lineRest; return .entry e)
  inlineBlanks
  return said

/-- The statements of a document. -/
def statements (size : Nat) : Reader (List Statement) := do
  let _ ← optional (exactly '\ufeff')
  inlineBlanks
  let read ← repeated (statement size)
  atEnd
  return read

/-- The entries in front of the first header, and the sections. -/
def sectionsOf : List Statement → List Entry × List Section
  | [] => ([], [])
  | .nothing :: rest => sectionsOf rest
  | .entry e :: rest =>
    let (entries, sections) := sectionsOf rest
    (e :: entries, sections)
  | .header h :: rest =>
    let (entries, sections) := sectionsOf rest
    ([], ⟨h, entries⟩ :: sections)

/-- The fields with the tables of further sections, unless one of them is refused. -/
def addSections : List Section → Fields → Option Fields
  | [], fields => some fields
  | s :: sections, fields => do
    let fields ← s.addTo fields
    addSections sections fields

/-- The fields of a document, if it is one. -/
def fieldsOf? (text : String) : Option Fields := do
  let cs := text.toList
  let (read, _) ← statements cs.length cs
  let (entries, sections) := sectionsOf read
  let fields ← Fields.insertAll .header entries []
  addSections sections fields

end MemoryWatchdog.Toml
