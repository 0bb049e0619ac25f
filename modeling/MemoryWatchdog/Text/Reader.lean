import MemoryWatchdog.Text.Blank

/-!
# Reading from the front of a text

A reader takes characters off the front and answers with a value and the rest, or refuses. `repeated` reads as often as a reader
succeeds and gets on, which makes it total.
-/

namespace MemoryWatchdog

/-- A reader of values off the front of a list of characters. -/
abbrev Reader := StateT (List Char) Option

namespace Reader

/-- One character that the test accepts. -/
def satisfying (accepts : Char → Bool) : Reader Char := fun cs =>
  match cs with
  | [] => none
  | c :: rest => if accepts c then some (c, rest) else none

/-- The given character. -/
def exactly (c : Char) : Reader Unit := do
  let _ ← satisfying (· == c)

/-- The given characters, one after the other. -/
def word (w : String) : Reader Unit := fun cs =>
  (Text.afterBeginning? w.toList cs).map fun rest => ((), rest)

/-- The characters in front of the first that the test refuses. -/
def whileTrue (accepts : Char → Bool) : Reader (List Char) := fun cs =>
  some (cs.takeWhile accepts, cs.dropWhile accepts)

/-- The values read and the rest, when a reader is used as often as it succeeds and leaves less than it was given. -/
def repeatedly {α : Type} (read : Reader α) (cs : List Char) : List α × List Char :=
  match read cs with
  | none => ([], cs)
  | some (a, rest) =>
    if _shorter : rest.length < cs.length then
      let more := repeatedly read rest
      (a :: more.1, more.2)
    else ([], cs)
termination_by cs.length
decreasing_by assumption

/-- As many values as there are. -/
def repeated {α : Type} (read : Reader α) : Reader (List α) := fun cs =>
  some (repeatedly read cs)

/-- Values with a separator between each two, at least one. -/
def separatedBy {α : Type} (separator : Reader Unit) (read : Reader α) : Reader (List α) := do
  let first ← read
  let more ← repeated (do separator; read)
  return first :: more

/-- How many characters are left. -/
def remaining : Reader Nat := fun cs =>
  some (cs.length, cs)

/-- Succeeds at the end of the text only. -/
def atEnd : Reader Unit := fun cs =>
  if cs.isEmpty then some ((), []) else none

end Reader

/-- A stretch of the text, as the counts of characters in front of its first character and of the one after its last. -/
structure Span where
  start : Nat
  stop : Nat
  deriving DecidableEq, Repr

/-- Reads a value together with the stretch that it was read from, in a text of the given length. -/
def Reader.located {α : Type} (size : Nat) (read : Reader α) : Reader (α × Span) := do
  let before ← Reader.remaining
  let a ← read
  let after ← Reader.remaining
  return (a, ⟨size - before, size - after⟩)

end MemoryWatchdog
