import MemoryWatchdog.Text.Unprintable

/-!
# Quoted text

Messages show a free text between quotes so that its ends and its odd characters can be seen. A quote and a backslash are
written after a backslash, the usual controls as a letter after one, and every other unprintable or combining character as its
code point in braces.
-/

namespace MemoryWatchdog.Text

/-- The number in lower-case hexadecimal digits. -/
def hex (n : Nat) : String :=
  String.ofList (Nat.toDigits 16 n)

/-- How a character stands inside quotes. -/
def escape (c : Char) : String :=
  match c with
  | '\x00' => "\\0"
  | '\t' => "\\t"
  | '\r' => "\\r"
  | '\n' => "\\n"
  | '"' => "\\\""
  | '\\' => "\\\\"
  | c => if isUnprintable c then "\\u\x7b" ++ hex c.toNat ++ "\x7d" else c.toString

/-- The text between quotes, each of its characters escaped where needed. -/
def quoted (s : String) : String :=
  "\"" ++ String.join (s.toList.map escape) ++ "\""

end MemoryWatchdog.Text
