import MemoryWatchdog.Binary64

/-!
# Similar words

How similar two words are, as a number from 0 to 1: characters match if they are equal and not too far apart, each with at most one
partner, and the measure is the mean of the shares of matched characters in either word and of the share of matches that are in the
same order. Every step of the computation is rounded. A word is a good guess for another if the measure is above 0.7.
-/

namespace MemoryWatchdog.Text

/-- Finds the first free position from the given one on, before the bound, that holds the character. -/
def findFree (c : Char) (low high : Nat) : Nat → List (Char × Bool) → Option Nat
  | _, [] => none
  | i, (d, taken) :: rest =>
    if i < high ∧ low ≤ i ∧ c = d ∧ taken = false then some i else findFree c low high (i + 1) rest

/-- The characters of the first word that have a match, in order, and the second word with its matched characters marked. -/
def matching (range : Nat) : Nat → List Char → List (Char × Bool) → List Char × List (Char × Bool)
  | _, [], marked => ([], marked)
  | i, c :: cs, marked =>
    match findFree c (i - range) (i + range + 1) 0 marked with
    | none => matching range (i + 1) cs marked
    | some j =>
      let (matched, marked) := matching range (i + 1) cs (marked.modify j fun e => (e.1, true))
      (c :: matched, marked)

/-- The similarity of two words. -/
def similarity (a b : List Char) : Rat :=
  if a.isEmpty && b.isEmpty then 1
  else if a.isEmpty || b.isEmpty then 0
  else
    let (first, marked) := matching (max a.length b.length / 2 - 1) 0 a (b.map fun c => (c, false))
    let second := (marked.filter (·.2)).map (·.1)
    let paired := first.length
    if paired = 0 then 0
    else
      let moved := ((first.zip second).filter fun e => e.1 != e.2).length / 2
      let share (n total : Nat) : Rat := Binary64.nearest ((n : Rat) / (total : Rat))
      let sum := Binary64.nearest (share paired a.length + share paired b.length)
      Binary64.nearest (Binary64.nearest (sum + share (paired - moved) paired) / 3)

/-- The word that is most similar to a given one, if any is similar enough. Of several the last is taken. -/
def mostSimilar? (word : String) (known : List String) : Option String :=
  let threshold := Binary64.nearest (7 / 10)
  let scored := known.map fun k => (similarity word.toList k.toList, k)
  let best := (scored.filter fun e => decide (threshold < e.1)).foldl
    (fun best e => match best with
      | none => some e
      | some b => if b.1 ≤ e.1 then some e else some b) none
  best.map Prod.snd

end MemoryWatchdog.Text
