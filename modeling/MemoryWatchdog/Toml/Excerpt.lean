import MemoryWatchdog.Text.Reader

/-!
# Excerpts

A diagnostic names the line and the column of a stretch of the text, both counted from one, and shows the line behind a gutter as
wide as its number, with carets below the stretch as far as the line goes.
-/

namespace MemoryWatchdog.Toml

/-- The bytes that characters take. -/
def byteCount (cs : List Char) : Nat :=
  (String.ofList cs).utf8ByteSize

/-- Writes the head of a diagnostic and the excerpt. -/
def excerpt (text : String) (span : Span) : String :=
  let cs := text.toList
  let before := cs.take span.start
  let line := (before.filter (· == '\n')).length
  let column := (before.reverse.takeWhile (· != '\n')).length
  let content := (cs.drop (span.start - column)).takeWhile (· != '\n')
  let marked := byteCount ((cs.drop span.start).take (span.stop - span.start))
  let carets := max 1 (min marked (byteCount content - column))
  let number := toString (line + 1)
  let gutter := String.ofList (List.replicate (number.length + 1) ' ') ++ "|"
  "TOML parse error at line " ++ number ++ ", column " ++ toString (column + 1) ++ "\n"
    ++ gutter ++ "\n"
    ++ number ++ " | " ++ String.ofList content ++ "\n"
    ++ gutter ++ String.ofList (List.replicate (column + 1) ' ') ++ String.ofList (List.replicate carets '^') ++ "\n"

end MemoryWatchdog.Toml
