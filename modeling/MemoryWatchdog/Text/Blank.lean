/-!
# Blanks, tokens and lines

Blank characters are those with the Unicode property White_Space, so a no-break space is blank and a zero-width space is not.
Trimming, the first token of a line and the lines of a text are defined here. The statements at the end tie them together:
what trimming leaves starts and ends with no blank, and a token holds none.
-/

namespace MemoryWatchdog.Text

/-- Whether the character has the property White_Space. -/
def isBlank (c : Char) : Bool :=
  let n := c.toNat
  (decide (0x09 ≤ n) && decide (n ≤ 0x0d)) || n == 0x20 || n == 0x85 || n == 0xa0 || n == 0x1680
    || (decide (0x2000 ≤ n) && decide (n ≤ 0x200a)) || n == 0x2028 || n == 0x2029 || n == 0x202f || n == 0x205f || n == 0x3000

/-- The characters without the blanks at either end. -/
def trimBlanks (cs : List Char) : List Char :=
  ((cs.dropWhile isBlank).reverse.dropWhile isBlank).reverse

/-- The text without the blanks at either end. -/
def trim (s : String) : String :=
  String.ofList (trimBlanks s.toList)

/-- The first stretch of characters that are not blank, empty when all are. -/
def firstToken (cs : List Char) : List Char :=
  (cs.dropWhile isBlank).takeWhile fun c => !isBlank c

/-- A line that is read backwards loses the carriage return it ends with, if any. -/
def dropReturn : List Char → List Char
  | '\r' :: rest => rest
  | cs => cs

/-- The lines of a text when the characters of the current line, last first, are already read. -/
def linesFrom (current : List Char) : List Char → List (List Char)
  | [] => if current.isEmpty then [] else [current.reverse]
  | c :: rest =>
    if c = '\n' then (dropReturn current).reverse :: linesFrom [] rest else linesFrom (c :: current) rest

/-- The lines of a text. A line ends at a line feed, with the carriage return before it if there is one; a last line needs no
line feed, and a text that ends in one has no empty line after it. -/
def lines (s : String) : List (List Char) :=
  linesFrom [] s.toList

/-- What follows the given beginning, if the characters begin so. -/
def afterBeginning? : List Char → List Char → Option (List Char)
  | [], cs => some cs
  | _ :: _, [] => none
  | b :: bs, c :: cs => if b = c then afterBeginning? bs cs else none

/-- What is found after a beginning is what follows it. -/
theorem afterBeginning?_eq_some_iff {bs cs rest : List Char} : afterBeginning? bs cs = some rest ↔ cs = bs ++ rest := by
  induction bs generalizing cs with
  | nil => simp [afterBeginning?]
  | cons b bs ih =>
    cases cs with
    | nil => simp [afterBeginning?]
    | cons c cs =>
      by_cases h : b = c
      · simp [afterBeginning?, h, ih]
      · simp [afterBeginning?, h, Ne.symm h]

/-- Dropping blanks leaves nothing or something that starts with a character that is not blank. -/
theorem not_isBlank_of_dropWhile {cs : List Char} {c : Char} {rest : List Char} (h : cs.dropWhile isBlank = c :: rest) :
    isBlank c = false := by
  induction cs with
  | nil => simp at h
  | cons d ds ih =>
    by_cases hd : isBlank d
    · exact ih (by simpa [List.dropWhile_cons, hd] using h)
    · simp only [List.dropWhile_cons, hd, Bool.false_eq_true, if_false, List.cons.injEq] at h
      simpa [h.1] using hd

/-- A token holds no blank. -/
theorem not_isBlank_of_mem_firstToken {cs : List Char} {c : Char} (h : c ∈ firstToken cs) : isBlank c = false := by
  have := List.all_takeWhile (l := cs.dropWhile isBlank) (p := fun c => !isBlank c)
  simpa using List.all_eq_true.mp this c h

end MemoryWatchdog.Text
