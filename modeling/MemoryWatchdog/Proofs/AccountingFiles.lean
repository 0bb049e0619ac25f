import Mathlib.Data.List.Forall2
import Mathlib.Logic.Relation
import MemoryWatchdog.Memory.Accounting
import MemoryWatchdog.Proofs.EnvironmentLayer
import MemoryWatchdog.Proofs.FileOperations

/-!
# What accounting files state

A field states a number of units, or it is missing, or its token is refused (`States`), and it is read as what it states
(`readField_of_states`). Nothing but the tokens of the three fields matters (`token?_of_edits`): the other lines, the blanks around a
token, what follows it and the carriage returns at the ends of lines can change and no amount of memory does (`amounts_of_lines`).
-/

namespace MemoryWatchdog

namespace Text

/-! ## Tokens and lines -/

/-- Blanks, the token, and then nothing or a blank and anything. There is no token only if all is blank. -/
def FirstToken (cs token : List Char) : Prop :=
  ∃ blanks tail, cs = blanks ++ (token ++ tail) ∧ (∀ c ∈ blanks, isBlank c = true) ∧ (∀ c ∈ token, isBlank c = false) ∧
    (∀ c ∈ tail.head?, isBlank c = true) ∧ (token = [] → tail = [])

/-- The first token that is found is the one that a text has. -/
theorem firstToken_eq_iff {cs token : List Char} : firstToken cs = token ↔ FirstToken cs token := by
  constructor
  · rintro rfl
    refine ⟨cs.takeWhile isBlank, (cs.dropWhile isBlank).dropWhile fun c => !isBlank c, ?_, ?_,
      fun c => not_isBlank_of_mem_firstToken, ?_, ?_⟩
    · rw [firstToken, List.takeWhile_append_dropWhile, List.takeWhile_append_dropWhile]
    · intro c hc
      exact List.mem_takeWhile_imp hc
    · intro c hc
      have hstops := List.head?_dropWhile_not (fun c => !isBlank c) (cs.dropWhile isBlank)
      rw [Option.mem_def.mp hc] at hstops
      simpa using hstops
    · intro hempty
      cases hrest : cs.dropWhile isBlank with
      | nil => rfl
      | cons c rest =>
        simp [firstToken, hrest, not_isBlank_of_dropWhile hrest] at hempty
  · rintro ⟨blanks, tail, rfl, hblanks, htoken, htail, hempty⟩
    rw [firstToken, List.dropWhile_append_of_pos hblanks]
    cases token with
    | nil =>
      rw [hempty rfl]
      rfl
    | cons c token =>
      have hc : isBlank c = false := htoken c List.mem_cons_self
      have hstops : tail.takeWhile (fun c => !isBlank c) = [] := by
        cases tail with
        | nil => rfl
        | cons d tail => simp [htail d rfl]
      have hall : ∀ d ∈ c :: token, (!isBlank d) = true := by simpa using htoken
      rw [List.cons_append, List.dropWhile_cons_of_neg (by simp [hc]), ← List.cons_append, List.takeWhile_append_of_pos hall, hstops,
        List.append_nil]

/-- A blank more at the end leaves the first token. -/
theorem FirstToken.concat {cs token : List Char} {b : Char} (h : FirstToken cs token) (hb : isBlank b = true) :
    FirstToken (cs ++ [b]) token := by
  obtain ⟨blanks, tail, rfl, hblanks, htoken, htail, hempty⟩ := h
  by_cases hnone : token = []
  · subst hnone
    rw [hempty rfl]
    refine ⟨blanks ++ [b], [], by simp, ?_, htoken, by simp, fun _ => rfl⟩
    simpa [or_imp, forall_and, hb] using hblanks
  · refine ⟨blanks, tail ++ [b], by simp, hblanks, htoken, ?_, fun h => absurd h hnone⟩
    cases tail with
    | nil => simpa using hb
    | cons d tail => simpa using htail

/-- So the token that is found stays. -/
theorem firstToken_concat {cs : List Char} {b : Char} (hb : isBlank b = true) : firstToken (cs ++ [b]) = firstToken cs :=
  firstToken_eq_iff.mpr ((firstToken_eq_iff.mp rfl).concat hb)

/-- Nothing is cut off a text that begins otherwise. -/
theorem afterBeginning?_eq_none_iff {bs cs : List Char} : afterBeginning? bs cs = none ↔ ¬bs <+: cs := by
  rw [Option.eq_none_iff_forall_ne_some]
  constructor
  · rintro h ⟨rest, hrest⟩
    exact h rest (afterBeginning?_eq_some_iff.mpr hrest.symm)
  · intro h rest hrest
    exact h ⟨rest, (afterBeginning?_eq_some_iff.mp hrest).symm⟩

theorem afterBeginning?_append (bs rest : List Char) : afterBeginning? bs (bs ++ rest) = some rest :=
  afterBeginning?_eq_some_iff.mpr rfl

/-- One more character at the end only matters to a beginning that has it. -/
theorem afterBeginning?_concat {bs cs : List Char} {c : Char} (hc : c ∉ bs) :
    afterBeginning? bs (cs ++ [c]) = (afterBeginning? bs cs).map (· ++ [c]) := by
  induction bs generalizing cs with
  | nil => rfl
  | cons b bs ih =>
    rw [List.mem_cons, not_or] at hc
    cases cs with
    | nil => simp [afterBeginning?, Ne.symm hc.1]
    | cons d cs =>
      by_cases hd : b = d
      · simp [afterBeginning?, hd, ih hc.2]
      · simp [afterBeginning?, hd]

/-- Everything else is refused. -/
theorem readUnsigned?_eq_none_iff {bound : Nat} {cs : List Char} :
    readUnsigned? bound cs = none ↔ ∀ n < bound, ¬Unsigned cs n := by
  simp only [Option.eq_none_iff_forall_ne_some, ne_eq, readUnsigned?_eq_some_iff, not_and']

/-- Some line feeds get a carriage return in front of them. -/
inductive Returns : List Char → List Char → Prop
  | nil : Returns [] []
  | same (c : Char) {cs cs' : List Char} (rest : Returns cs cs') : Returns (c :: cs) (c :: cs')
  | added {cs cs' : List Char} (rest : Returns cs cs') : Returns ('\n' :: cs) ('\r' :: '\n' :: cs')

/-- A line is the same, or has a carriage return more. -/
def SameButReturn (line line' : List Char) : Prop :=
  line' = line ∨ line' = line ++ ['\r']

/-- Line by line, such a text is the same or has a carriage return more. -/
theorem linesFrom_of_returns {cs cs' : List Char} (h : Returns cs cs') (current : List Char) :
    List.Forall₂ SameButReturn (linesFrom current cs) (linesFrom current cs') := by
  induction h generalizing current with
  | nil => exact List.forall₂_same.mpr fun _ _ => .inl rfl
  | same c _ ih =>
    rw [linesFrom, linesFrom]
    split
    · exact .cons (.inl rfl) (ih [])
    · exact ih (c :: current)
  | added _ ih =>
    rw [linesFrom, if_pos rfl, linesFrom, if_neg (by decide), linesFrom, if_pos rfl]
    refine .cons ?_ (ih [])
    cases current with
    | nil => exact .inl rfl
    | cons c current =>
      by_cases hc : c = '\r'
      · subst hc
        exact .inr (by simp [dropReturn])
      · exact .inl (by simp [dropReturn, hc])

end Text

namespace Accounting

open Relation Text

/-! ## What a field states -/

/-- What follows the name of a field on the first line that starts with it. -/
def OnFirst (text field : String) (rest : List Char) : Prop :=
  ∃ above below, lines text = above ++ (field.toList ++ rest) :: below ∧ ∀ line ∈ above, ¬field.toList <+: line

/-- A field is missing, or its token is a numeral of a number that fits, or it is not. -/
inductive States (path text field : String) : Except MemoryError Nat → Prop
  | missing (nowhere : ∀ line ∈ lines text, ¬field.toList <+: line) : States path text field (.error (.missingField path field))
  | number {rest token : List Char} {n : Nat} (first : OnFirst text field rest) (at_token : FirstToken rest token)
      (numeral : Unsigned token n) (fits : n < 2 ^ 64) : States path text field (.ok n)
  | refused {rest token : List Char} (first : OnFirst text field rest) (at_token : FirstToken rest token)
      (no_numeral : ∀ n < 2 ^ 64, ¬Unsigned token n) :
      States path text field (.error (.notANumber path field (String.ofList token)))

/-- What is found of a field stands on the first line that starts with its name. -/
theorem fieldText?_eq_some_iff {text field : String} {rest : List Char} :
    fieldText? text field = some rest ↔ OnFirst text field rest := by
  rw [fieldText?, List.findSome?_eq_some_iff]
  simp only [afterBeginning?_eq_some_iff, afterBeginning?_eq_none_iff]
  constructor
  · rintro ⟨above, line, below, hlines, rfl, habove⟩
    exact ⟨above, below, hlines, habove⟩
  · rintro ⟨above, below, hlines, habove⟩
    exact ⟨above, _, below, hlines, rfl, habove⟩

/-- Nothing is found if no line does. -/
theorem fieldText?_eq_none_iff {text field : String} :
    fieldText? text field = none ↔ ∀ line ∈ lines text, ¬field.toList <+: line := by
  simp only [fieldText?, List.findSome?_eq_none_iff, afterBeginning?_eq_none_iff]

/-- A field states the number at the token of the first line that starts with it. -/
theorem States.of_line {path text field : String} {above below : List (List Char)} {rest : List Char} {n : Nat}
    (hlines : lines text = above ++ (field.toList ++ rest) :: below) (habove : ∀ line ∈ above, ¬field.toList <+: line)
    (hread : readUnsigned? UInt64.size (firstToken rest) = some n) : States path text field (.ok n) := by
  obtain ⟨numeral, fits⟩ := readUnsigned?_eq_some_iff.mp hread
  exact .number ⟨above, below, hlines, habove⟩ (firstToken_eq_iff.mp rfl) numeral fits

/-- A field is read as what it states. -/
theorem states_readField (path text field : String) : States path text field ((readField path text field).map UInt64.toNat) := by
  unfold readField
  cases htext : fieldText? text field with
  | none => exact .missing (fieldText?_eq_none_iff.mp htext)
  | some rest =>
    have hfirst := fieldText?_eq_some_iff.mp htext
    have htoken := firstToken_eq_iff.mp (Eq.refl (firstToken rest))
    simp only
    cases hread : readUnsigned? UInt64.size (firstToken rest) with
    | none => exact .refused hfirst htoken (readUnsigned?_eq_none_iff.mp hread)
    | some n =>
      obtain ⟨numeral, fits⟩ := readUnsigned?_eq_some_iff.mp hread
      have hn : (UInt64.ofNat n).toNat = n := UInt64.toNat_ofNat_of_lt' fits
      simp only [Except.map, hn]
      exact .number hfirst htoken numeral fits

/-- It states nothing else. -/
theorem readField_of_states {path text field : String} {stated : Except MemoryError Nat} (h : States path text field stated) :
    (readField path text field).map UInt64.toNat = stated := by
  cases h with
  | missing nowhere =>
    rw [readField, fieldText?_eq_none_iff.mpr nowhere]
    rfl
  | @number rest token n first at_token numeral fits =>
    have hread : readUnsigned? UInt64.size token = some n := readUnsigned?_eq_some_iff.mpr ⟨numeral, fits⟩
    rw [readField, fieldText?_eq_some_iff.mpr first]
    simp only [firstToken_eq_iff.mpr at_token, hread]
    exact congrArg Except.ok (UInt64.toNat_ofNat_of_lt' fits)
  | @refused rest token first at_token no_numeral =>
    have hread : readUnsigned? UInt64.size token = none := readUnsigned?_eq_none_iff.mpr no_numeral
    rw [readField, fieldText?_eq_some_iff.mpr first]
    simp only [firstToken_eq_iff.mpr at_token, hread]
    rfl

/-! ## The amounts -/

/-- A number of units of 1024 bytes, or the greatest number of bytes. -/
def inBytes (units : Nat) : UInt64 :=
  .ofNat (min (1024 * units) (2 ^ 64 - 1))

/-- A number of units comes to its number of bytes. -/
theorem saturatingMul_unit (n : UInt64) : saturatingMul n unit = inBytes n.toNat := by
  rw [inBytes, Nat.mul_comm]
  rfl

/-- A sum that stays in bounds comes to the same number of bytes as the sum that does not. -/
theorem saturatingMul_saturatingAdd_unit (a b : UInt64) : saturatingMul (saturatingAdd a b) unit = inBytes (a.toNat + b.toNat) := by
  have hsize : UInt64.size = 2 ^ 64 := rfl
  rw [saturatingMul_unit, toNat_saturatingAdd, inBytes, inBytes]
  congr 1
  omega

/-- The resident memory in a text is what the text states of it. -/
theorem residentIn_eq {path text : String} {stated : Except MemoryError Nat} (h : States path text "VmRSS:" stated) :
    residentIn path text = stated.map inBytes := by
  obtain rfl := readField_of_states h
  unfold residentIn
  cases readField path text "VmRSS:" with
  | error e => rfl
  | ok n => exact congrArg Except.ok (saturatingMul_unit n)

/-- The memory of the process alone in a text is the sum of what the text states of its two fields. -/
theorem uniqueIn_eq {path text : String} {clean dirty : Except MemoryError Nat} (hclean : States path text "Private_Clean:" clean)
    (hdirty : States path text "Private_Dirty:" dirty) :
    uniqueIn path text = do return inBytes ((← clean) + (← dirty)) := by
  obtain rfl := readField_of_states hclean
  obtain rfl := readField_of_states hdirty
  unfold uniqueIn
  cases readField path text "Private_Clean:" with
  | error e => rfl
  | ok c =>
    cases readField path text "Private_Dirty:" with
    | error e => rfl
    | ok d => exact congrArg Except.ok (saturatingMul_saturatingAdd_unit c d)

/-! ## What does not matter -/

/-- The fields that are read. -/
def fields : List String :=
  ["VmRSS:", "Private_Clean:", "Private_Dirty:"]

/-- A change to a text that leaves the tokens of the fields: another line comes or moves, the blanks around a token or what follows
them change, or some lines end in a carriage return more. -/
inductive Edit (text text' : String) : Prop
  | insert {above below : List (List Char)} {line : List Char} (other : ∀ field ∈ fields, ¬field.toList <+: line)
      (before : lines text = above ++ below) (after : lines text' = above ++ line :: below)
  | move {above between below : List (List Char)} {line : List Char} (other : ∀ field ∈ fields, ¬field.toList <+: line)
      (before : lines text = above ++ line :: (between ++ below)) (after : lines text' = above ++ (between ++ line :: below))
  | respace {above below : List (List Char)} {field : String} {rest rest' token : List Char} (read : field ∈ fields)
      (token_before : FirstToken rest token) (token_after : FirstToken rest' token)
      (before : lines text = above ++ (field.toList ++ rest) :: below)
      (after : lines text' = above ++ (field.toList ++ rest') :: below)
  | returns (added : Returns text.toList text'.toList)

/-- The token of a field on a line that starts with it. -/
def tokenOn? (field line : List Char) : Option (List Char) :=
  (afterBeginning? field line).map firstToken

/-- The token of a field in a text. -/
def token? (text field : String) : Option (List Char) :=
  (lines text).findSome? (tokenOn? field.toList)

/-- The token of a field is the first token of what is found of it. -/
theorem map_firstToken_fieldText? (text field : String) : (fieldText? text field).map firstToken = token? text field := by
  rw [fieldText?, List.map_findSome?]
  rfl

/-- Of a text, reading a field only sees the token. -/
theorem readField_congr {text text' field : String} (h : token? text field = token? text' field) (path : String) :
    readField path text field = readField path text' field := by
  rw [← map_firstToken_fieldText?, ← map_firstToken_fieldText?] at h
  unfold readField
  cases htext : fieldText? text field with
  | none =>
    cases htext' : fieldText? text' field with
    | none => rfl
    | some rest' => simp [htext, htext'] at h
  | some rest =>
    cases htext' : fieldText? text' field with
    | none => simp [htext, htext'] at h
    | some rest' =>
      have htokens : firstToken rest = firstToken rest' := by simpa [htext, htext'] using h
      simp only [htokens]

/-- A line that does not start with a field has no token of it. -/
theorem tokenOn?_eq_none {field line : List Char} (h : ¬field <+: line) : tokenOn? field line = none := by
  rw [tokenOn?, afterBeginning?_eq_none_iff.mpr h]
  rfl

/-- No name of a field begins another. -/
theorem eq_of_begins {field other : String} (hfield : field ∈ fields) (hother : other ∈ fields)
    (h : field.toList <+: other.toList) : field = other := by
  have hnames : ∀ f ∈ fields, ∀ g ∈ fields, f.toList <+: g.toList → f = g := by decide
  exact hnames field hfield other hother h

/-- Other blanks and another rest of a line leave the token on it, of whatever field. -/
theorem tokenOn?_respace {field other : String} {rest rest' token : List Char} (hfield : field ∈ fields) (hother : other ∈ fields)
    (h : FirstToken rest token) (h' : FirstToken rest' token) :
    tokenOn? field.toList (other.toList ++ rest) = tokenOn? field.toList (other.toList ++ rest') := by
  by_cases heq : field = other
  · subst heq
    simp only [tokenOn?, afterBeginning?_append, Option.map_some, firstToken_eq_iff.mpr h, firstToken_eq_iff.mpr h']
  · have hnot : ∀ after, ¬field.toList <+: other.toList ++ after := by
      intro after hprefix
      rcases List.prefix_or_prefix_of_prefix hprefix (List.prefix_append _ after) with h | h
      · exact heq (eq_of_begins hfield hother h)
      · exact heq (eq_of_begins hother hfield h).symm
    rw [tokenOn?_eq_none (hnot rest), tokenOn?_eq_none (hnot rest')]

/-- So does a carriage return at the end. -/
theorem tokenOn?_sameButReturn {field line line' : List Char} (hfield : '\r' ∉ field) (h : SameButReturn line line') :
    tokenOn? field line' = tokenOn? field line := by
  rcases h with rfl | rfl
  · rfl
  · rw [tokenOn?, tokenOn?, afterBeginning?_concat hfield, Option.map_map]
    congr 1
    funext rest
    exact firstToken_concat (by decide)

/-- So do carriage returns at the ends of any lines. -/
theorem findSome?_tokenOn?_sameButReturn {field : List Char} {ls ls' : List (List Char)} (hfield : '\r' ∉ field)
    (h : List.Forall₂ SameButReturn ls ls') : ls'.findSome? (tokenOn? field) = ls.findSome? (tokenOn? field) := by
  induction h with
  | nil => rfl
  | cons hline _ ih => rw [List.findSome?_cons, List.findSome?_cons, tokenOn?_sameButReturn hfield hline, ih]

/-- One change leaves the token of each field. -/
theorem token?_of_edit {text text' field : String} (hfield : field ∈ fields) (h : Edit text text') :
    token? text field = token? text' field := by
  unfold token?
  cases h with
  | insert other before after =>
    rw [before, after]
    simp [List.findSome?_append, tokenOn?_eq_none (other field hfield)]
  | move other before after =>
    rw [before, after]
    simp [List.findSome?_append, tokenOn?_eq_none (other field hfield)]
  | respace read token_before token_after before after =>
    rw [before, after]
    simp only [List.findSome?_append, List.findSome?_cons, tokenOn?_respace hfield read token_before token_after]
  | returns added =>
    have hreturn : ∀ f ∈ fields, '\r' ∉ f.toList := by decide
    exact (findSome?_tokenOn?_sameButReturn (hreturn field hfield) (linesFrom_of_returns added [])).symm

/-- So do any number of changes, made or taken back. -/
theorem token?_of_edits {text text' field : String} (hfield : field ∈ fields) (h : EqvGen Edit text text') :
    token? text field = token? text' field := by
  induction h with
  | rel _ _ hedit => exact token?_of_edit hfield hedit
  | refl _ => rfl
  | symm _ _ _ ih => exact ih.symm
  | trans _ _ _ _ _ ih ih' => exact ih.trans ih'

theorem readFile_of_readText {α : Type} {files : FileTree} {path text : String} (h : files.readText path = .ok text)
    (read : String → Except MemoryError α) : readFile files path read = read text := by
  rw [readFile, h]

/-- The resident memory is what its field states, and the memory of the process alone is the sum of what its two fields state, if both
state a number; either is the greatest number of bytes if there are more. The files of two trees state the same if they differ by
nothing that matters. -/
theorem amounts_of_lines (directory : String) (files files' : FileTree) :
    (∀ path text field, ∃ stated, States path text field stated) ∧
    (∀ text, files.readText (statusPath directory) = .ok text →
      (∀ stated, States (statusPath directory) text "VmRSS:" stated → resident files directory = stated.map inBytes) ∧
      ∀ text', files'.readText (statusPath directory) = .ok text' → EqvGen Edit text text' →
        resident files' directory = resident files directory) ∧
    ∀ text, files.readText (rollupPath directory) = .ok text →
      (∀ clean dirty, States (rollupPath directory) text "Private_Clean:" clean →
        States (rollupPath directory) text "Private_Dirty:" dirty →
        unique files directory = do return inBytes ((← clean) + (← dirty))) ∧
      ∀ text', files'.readText (rollupPath directory) = .ok text' → EqvGen Edit text text' →
        unique files' directory = unique files directory := by
  refine ⟨fun path text field => ⟨_, states_readField path text field⟩, fun text htext => ⟨fun stated h => ?_, ?_⟩,
    fun text htext => ⟨fun clean dirty hclean hdirty => ?_, ?_⟩⟩
  · rw [resident, readFile_of_readText htext, residentIn_eq h]
  · intro text' htext' hedits
    rw [resident, resident, readFile_of_readText htext, readFile_of_readText htext', residentIn, residentIn,
      readField_congr (token?_of_edits (by decide : "VmRSS:" ∈ fields) hedits)]
  · rw [unique, readFile_of_readText htext, uniqueIn_eq hclean hdirty]
  · intro text' htext' hedits
    rw [unique, unique, readFile_of_readText htext, readFile_of_readText htext', uniqueIn, uniqueIn,
      readField_congr (token?_of_edits (by decide : "Private_Clean:" ∈ fields) hedits),
      readField_congr (token?_of_edits (by decide : "Private_Dirty:" ∈ fields) hedits)]

/-- The text of a file that states twelve units of resident memory. -/
def twelveStatus : String :=
  "VmRSS:\t12 kB"

/-- The same text below a line with the name of the process. -/
def twelveStatusNamed : String :=
  "Name:\tweb\nVmRSS:\t12 kB"

/-- The text of a file that states four and eight units of the process alone. -/
def twelveRollup : String :=
  "Private_Clean: 4 kB\nPrivate_Dirty: 8 kB"

/-- The same text with other blanks and without the name of the unit on its first line. -/
def twelveRollupRespaced : String :=
  "Private_Clean:\t 4\nPrivate_Dirty: 8 kB"

/-- The two files of a process, in the working directory. -/
def accounts (status rollup : String) : FileTree :=
  { nodes := [(["status"], .file status.toUTF8), (["smaps_rollup"], .file rollup.toUTF8)] }

/-- Both files are read. -/
theorem readText_accounts (status rollup : String) :
    (accounts status rollup).readText (statusPath "") = .ok status ∧
      (accounts status rollup).readText (rollupPath "") = .ok rollup := by
  have hstatus : statusPath "" = "status" := by decide +kernel
  have hrollup : rollupPath "" = "smaps_rollup" := by decide +kernel
  have hfindStatus : (accounts status rollup).find "status" = .ok (.entry ["status"]) :=
    FileTree.find_of_name (c := 's') (by decide) (by decide) (by decide) (by decide) (by decide)
  have hfindRollup : (accounts status rollup).find "smaps_rollup" = .ok (.entry ["smaps_rollup"]) :=
    FileTree.find_of_name (c := 's') (by decide) (by decide) (by decide) (by decide) (by decide)
  rw [hstatus, hrollup]
  exact ⟨FileTree.readText_of_find hfindStatus (by decide +kernel) rfl,
    FileTree.readText_of_find hfindRollup (by decide +kernel) rfl⟩

/-- Naming the process in the one text is an edit. -/
theorem edit_twelveStatus : Edit twelveStatus twelveStatusNamed := by
  have hbefore : lines twelveStatus = [] ++ [twelveStatus.toList] := by decide +kernel
  have hafter : lines twelveStatusNamed = [] ++ "Name:\tweb".toList :: [twelveStatus.toList] := by decide +kernel
  exact .insert (by decide) hbefore hafter

/-- So is setting the blanks in the other. -/
theorem edit_twelveRollup : Edit twelveRollup twelveRollupRespaced := by
  have hbefore : lines twelveRollup = [] ++ ("Private_Clean:".toList ++ " 4 kB".toList) :: ["Private_Dirty: 8 kB".toList] := by
    decide +kernel
  have hafter : lines twelveRollupRespaced = [] ++ ("Private_Clean:".toList ++ "\t 4".toList) :: ["Private_Dirty: 8 kB".toList] := by
    decide +kernel
  have htoken : firstToken " 4 kB".toList = ['4'] := by decide +kernel
  have htoken' : firstToken "\t 4".toList = ['4'] := by decide +kernel
  exact .respace (by decide) (firstToken_eq_iff.mp htoken) (firstToken_eq_iff.mp htoken') hbefore hafter

/-- Twelve units of either memory, and the same of files that differ by an edit. -/
theorem amounts_twelve :
    resident (accounts twelveStatus twelveRollup) "" = .ok 12288 ∧
      unique (accounts twelveStatus twelveRollup) "" = .ok 12288 ∧
      resident (accounts twelveStatusNamed twelveRollupRespaced) "" = .ok 12288 ∧
      unique (accounts twelveStatusNamed twelveRollupRespaced) "" = .ok 12288 := by
  obtain ⟨hstatus, hrollup⟩ := readText_accounts twelveStatus twelveRollup
  obtain ⟨hstatus', hrollup'⟩ := readText_accounts twelveStatusNamed twelveRollupRespaced
  have hstatusLines : lines twelveStatus = [] ++ ("VmRSS:".toList ++ "\t12 kB".toList) :: [] := by decide +kernel
  have hcleanLines : lines twelveRollup = [] ++ ("Private_Clean:".toList ++ " 4 kB".toList) :: ["Private_Dirty: 8 kB".toList] := by
    decide +kernel
  have hdirtyLines : lines twelveRollup = ["Private_Clean: 4 kB".toList] ++ ("Private_Dirty:".toList ++ " 8 kB".toList) :: [] := by
    decide +kernel
  have hresident : States (statusPath "") twelveStatus "VmRSS:" (.ok 12) := .of_line hstatusLines (by simp) (by decide +kernel)
  have hclean : States (rollupPath "") twelveRollup "Private_Clean:" (.ok 4) := .of_line hcleanLines (by simp) (by decide +kernel)
  have hdirty : States (rollupPath "") twelveRollup "Private_Dirty:" (.ok 8) := .of_line hdirtyLines (by decide) (by decide +kernel)
  obtain ⟨-, hstated, hsummed⟩ :=
    amounts_of_lines "" (accounts twelveStatus twelveRollup) (accounts twelveStatusNamed twelveRollupRespaced)
  have hfirst : resident (accounts twelveStatus twelveRollup) "" = .ok 12288 := by
    rw [(hstated _ hstatus).1 _ hresident]
    decide
  have hsecond : unique (accounts twelveStatus twelveRollup) "" = .ok 12288 := by
    rw [(hsummed _ hrollup).1 _ _ hclean hdirty]
    decide
  refine ⟨hfirst, hsecond, ?_, ?_⟩
  · rw [(hstated _ hstatus).2 _ hstatus' (.rel _ _ edit_twelveStatus), hfirst]
  · rw [(hsummed _ hrollup).2 _ hrollup' (.rel _ _ edit_twelveRollup), hsecond]

end Accounting

end MemoryWatchdog
