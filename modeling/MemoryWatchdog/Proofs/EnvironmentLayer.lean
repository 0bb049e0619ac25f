import Mathlib.Data.List.DropRight
import Mathlib.Data.Nat.Digits.Defs
import MemoryWatchdog.Settings.Environment

/-!
# The layer of the environment

What each kind of setting admits as text, said without the reading: `Kind.read?_trim_eq_some_iff`. A variable that is set to more than
blanks overrides its own field with the value that its text is admitted as, and each field then has that value or the one that it had
(`get_applyEnvironment`).
-/

namespace MemoryWatchdog

/-! ## Texts without blanks around them -/

namespace Text

theorem trimBlanks_eq (cs : List Char) : trimBlanks cs = (cs.dropWhile isBlank).rdropWhile isBlank := rfl

/-- What trimming leaves has no blanks at its ends, so that trimming it again does nothing. -/
theorem trimBlanks_trimBlanks (cs : List Char) : trimBlanks (trimBlanks cs) = trimBlanks cs := by
  have hstart : (trimBlanks cs).dropWhile isBlank = trimBlanks cs := by
    obtain ⟨rest, hrest⟩ : trimBlanks cs <+: cs.dropWhile isBlank := List.rdropWhile_prefix ..
    cases htrimmed : trimBlanks cs with
    | nil => rfl
    | cons c more =>
      rw [htrimmed, List.cons_append] at hrest
      simp [not_isBlank_of_dropWhile hrest.symm]
  rw [trimBlanks_eq (trimBlanks cs), hstart, trimBlanks_eq]
  exact List.rdropWhile_idempotent ..

/-- A text without blanks around it stays as it is. -/
theorem trimBlanks_toList_trim (text : String) : trimBlanks (trim text).toList = (trim text).toList := by
  rw [trim, String.toList_ofList, trimBlanks_trimBlanks]

/-- What a digit stands for. -/
def digitValue (c : Char) : Nat :=
  c.toNat - 48

/-- An unsigned numeral: ASCII digits, at least one, after an optional plus, which denote a number in base ten. -/
def Unsigned (cs : List Char) (n : Nat) : Prop :=
  ∃ digits, (cs = digits ∨ cs = '+' :: digits) ∧ digits ≠ [] ∧ (∀ c ∈ digits, c.isDigit = true) ∧
    n = Nat.ofDigits 10 (digits.reverse.map digitValue)

/-- Digits are read in base ten, the last one first. -/
theorem appendDigits_zero (digits : List Char) : appendDigits 0 digits = Nat.ofDigits 10 (digits.reverse.map digitValue) := by
  induction digits using List.reverseRecOn with
  | nil => rfl
  | append_singleton digits c ih =>
    rw [List.reverse_append, List.reverse_singleton, List.singleton_append, List.map_cons, Nat.ofDigits_cons, ← ih]
    simp only [appendDigits, List.foldl_append, List.foldl_cons, List.foldl_nil, digitValue]
    omega

/-- Exactly the numerals of numbers below the bound are read. -/
theorem readUnsigned?_eq_some_iff {bound n : Nat} {cs : List Char} : readUnsigned? bound cs = some n ↔ Unsigned cs n ∧ n < bound := by
  have hread : ∀ ds : List Char, (!ds.isEmpty && ds.all Char.isDigit && decide (appendDigits 0 ds < bound)) = true ∧
      appendDigits 0 ds = n ↔ (ds ≠ [] ∧ (∀ c ∈ ds, c.isDigit = true) ∧ n = Nat.ofDigits 10 (ds.reverse.map digitValue)) ∧ n < bound := by
    intro ds
    simp only [appendDigits_zero, Bool.and_eq_true, Bool.not_eq_true', List.isEmpty_eq_false_iff, List.all_eq_true, decide_eq_true_eq]
    constructor
    · rintro ⟨⟨⟨hne, hdigits⟩, hlt⟩, rfl⟩
      exact ⟨⟨hne, hdigits, rfl⟩, hlt⟩
    · rintro ⟨⟨hne, hdigits, rfl⟩, hlt⟩
      exact ⟨⟨⟨hne, hdigits⟩, hlt⟩, rfl⟩
  have hplus : ('+').isDigit = false := by decide
  unfold readUnsigned? Unsigned
  simp only [Option.ite_none_right_eq_some, Option.some.injEq]
  rw [hread]
  refine and_congr_left fun _ => ?_
  split
  · next rest =>
    constructor
    · exact fun h => ⟨rest, .inr rfl, h⟩
    · rintro ⟨digits, rfl | hcs, hne, hdigits, hn⟩
      · have hsign := hdigits '+' List.mem_cons_self
        rw [hplus] at hsign
        cases hsign
      · obtain rfl := (List.cons.inj hcs).2
        exact ⟨hne, hdigits, hn⟩
  · next hnot =>
    constructor
    · exact fun h => ⟨cs, .inl rfl, h⟩
    · rintro ⟨digits, rfl | rfl, h⟩
      · exact h
      · exact absurd rfl (hnot digits)

end Text

namespace Settings

/-! ## What is admitted -/

/-- A text is one of some words, whatever the case of its ASCII letters. -/
def IsOneOf (words : List String) (text : String) : Prop :=
  ∃ word ∈ words, text.toList.map Char.toLower = word.toList

/-- A text is admitted as a value of a kind: a word for a truth value, a numeral of an unsigned number in the range of the kind, a
numeral of a real that is finite and not negative, or any text where a path is wanted. -/
inductive Kind.Admits : (k : Kind) → String → k.Carrier → Prop
  | yes (text : String) (word : IsOneOf ["1", "true", "yes", "on"] text) : Admits .flag text true
  | no (text : String) (word : IsOneOf ["0", "false", "no", "off"] text) : Admits .flag text false
  | number (text : String) (n : UInt64) (numeral : Text.Unsigned text.toList n.toNat) : Admits .number text n
  | count (text : String) (n : UInt32) (numeral : Text.Unsigned text.toList n.toNat) : Admits .count text n
  | ratio (text : String) (negative : Bool) (magnitude : Rat) (numeral : Text.readReal? text.toList = some (.finite negative magnitude))
      (nonnegative : 0 ≤ Binary64.signed negative magnitude) : Admits .ratio text (.finite negative magnitude)
  | path (text : String) : Admits .path text text

/-- A text is one of some words if it is after its letters are lowered. -/
theorem isOneOf_iff {words : List String} {text : String} :
    IsOneOf words text ↔ String.ofList (text.toList.map Char.toLower) ∈ words := by
  unfold IsOneOf
  constructor
  · rintro ⟨word, hword, hsame⟩
    rwa [hsame, String.ofList_toList]
  · intro hword
    exact ⟨_, hword, (String.toList_ofList ..).symm⟩

/-- A truth value is read from the words for it, and from no other text without blanks around it. -/
theorem readFlag?_trim (text : String) :
    let word := String.ofList ((Text.trim text).toList.map Char.toLower)
    readFlag? (Text.trim text) =
      if word ∈ ["1", "true", "yes", "on"] then some true else if word ∈ ["0", "false", "no", "off"] then some false else none := by
  intro word
  unfold readFlag?
  rw [Text.trimBlanks_toList_trim]
  split <;> simp_all [word]

/-- What the reading of a flag accepts, and what it reads it as. -/
theorem readFlag?_trim_eq_some_iff {text : String} {b : Bool} :
    readFlag? (Text.trim text) = some b ↔ Kind.Admits .flag (Text.trim text) b := by
  rw [readFlag?_trim]
  constructor
  · intro h
    split at h
    · next hyes =>
      obtain rfl := Option.some.inj h
      exact .yes _ (isOneOf_iff.mpr hyes)
    · split at h
      · next hno =>
        obtain rfl := Option.some.inj h
        exact .no _ (isOneOf_iff.mpr hno)
      · cases h
  · intro h
    cases h with
    | yes _ word => rw [if_pos (isOneOf_iff.mp word)]
    | no _ word =>
      have hno := isOneOf_iff.mp word
      have hyes : String.ofList ((Text.trim text).toList.map Char.toLower) ∉ ["1", "true", "yes", "on"] := by
        intro hyes
        have hdisjoint : ∀ w ∈ ["1", "true", "yes", "on"], w ∉ ["0", "false", "no", "off"] := by decide
        exact hdisjoint _ hyes hno
      rw [if_neg hyes, if_pos hno]

/-- What a text without blanks around it is read as is what it is admitted as. -/
theorem Kind.read?_trim_eq_some_iff {k : Kind} {text : String} {v : k.Carrier} :
    k.read? (Text.trim text) = some v ↔ k.Admits (Text.trim text) v := by
  cases k with
  | flag =>
    rw [read?]
    exact readFlag?_trim_eq_some_iff
  | number =>
    simp only [read?, Option.map_eq_some_iff, Text.readUnsigned?_eq_some_iff]
    constructor
    · rintro ⟨n, ⟨hnumeral, hlt⟩, rfl⟩
      rw [← UInt64.toNat_ofNat_of_lt' hlt] at hnumeral
      exact .number _ _ hnumeral
    · intro h
      cases h with
      | number _ n numeral => exact ⟨v.toNat, ⟨numeral, v.toNat_lt_size⟩, UInt64.ofNat_toNat⟩
  | count =>
    simp only [read?, Option.map_eq_some_iff, Text.readUnsigned?_eq_some_iff]
    constructor
    · rintro ⟨n, ⟨hnumeral, hlt⟩, rfl⟩
      rw [← UInt32.toNat_ofNat_of_lt' hlt] at hnumeral
      exact .count _ _ hnumeral
    · intro h
      cases h with
      | count _ n numeral => exact ⟨v.toNat, ⟨numeral, v.toNat_lt_size⟩, UInt32.ofNat_toNat⟩
  | ratio =>
    simp only [read?, Option.filter_eq_some_iff]
    constructor
    · rintro ⟨hnumeral, husable⟩
      cases v with
      | finite negative magnitude => exact .ratio _ negative magnitude hnumeral (of_decide_eq_true husable)
      | _ => cases husable
    · intro h
      cases h with
      | ratio _ negative magnitude numeral nonnegative => exact ⟨numeral, decide_eq_true nonnegative⟩
  | path =>
    simp only [read?, Option.some.injEq]
    constructor
    · rintro rfl
      exact .path _
    · intro h
      cases h with
      | path => rfl

/-! ## Overrides -/

/-- The environment overrides a field with a value: its variable is set to more than blanks, and what is left without the blanks
around it is admitted as the value. -/
def Overrides (lookup : String → Option String) (f : Field) (v : f.kind.Carrier) : Prop :=
  ∃ text, lookup f.environmentName = some text ∧ Text.trim text ≠ "" ∧ f.kind.Admits (Text.trim text) v

/-- The value that the environment overrides a field with, if it does. -/
def override? (lookup : String → Option String) (f : Field) : Option f.kind.Carrier :=
  (textOf lookup f).bind f.kind.read?

/-- The override that is found is the value that the environment admits for the field. -/
theorem override?_eq_some_iff {lookup : String → Option String} {f : Field} {v : f.kind.Carrier} :
    override? lookup f = some v ↔ Overrides lookup f v := by
  simp only [override?, textOf, Overrides, Option.bind_eq_some_iff, Option.filter_eq_some_iff, Option.map_eq_some_iff]
  constructor
  · rintro ⟨trimmed, ⟨⟨text, hset, rfl⟩, hnonblank⟩, hread⟩
    exact ⟨text, hset, by simpa using hnonblank, Kind.read?_trim_eq_some_iff.mp hread⟩
  · rintro ⟨text, hset, hnonblank, hadmits⟩
    exact ⟨_, ⟨⟨text, hset, rfl⟩, by simpa using hnonblank⟩, Kind.read?_trim_eq_some_iff.mpr hadmits⟩

/-- Consulting a variable concerns its own field alone. -/
theorem get_consult (lookup : String → Option String) (s : Settings × Log) (f g : Field) :
    (consult lookup s g).1.get f = if g = f then (override? lookup f).getD (s.1.get f) else s.1.get f := by
  unfold consult
  by_cases hgf : g = f
  · subst hgf
    rw [if_pos rfl, override?]
    cases htext : textOf lookup g with
    | none => rfl
    | some text =>
      cases hread : g.kind.read? text with
      | none => simp [hread]
      | some v => simp [hread]
  · rw [if_neg hgf]
    split
    · rfl
    · split
      · exact get_set_of_ne _ _ hgf
      · rfl

/-- Consulting variables one after the other overrides the fields among them. -/
theorem get_foldl_consult (lookup : String → Option String) (f : Field) (fields : List Field) (s : Settings × Log) :
    (fields.foldl (consult lookup) s).1.get f = if f ∈ fields then (override? lookup f).getD (s.1.get f) else s.1.get f := by
  induction fields generalizing s with
  | nil => rfl
  | cons g rest ih =>
    rw [List.foldl_cons, ih, get_consult]
    by_cases hgf : g = f
    · subst hgf
      cases override? lookup g <;> simp
    · simp [hgf, Ne.symm hgf]

/-- Each field has the value that the environment overrides it with, or the one that it had. -/
theorem get_applyEnvironment (lookup : String → Option String) (s : Settings) (f : Field) :
    (s.applyEnvironment lookup).1.get f = (override? lookup f).getD (s.get f) := by
  rw [applyEnvironment, get_foldl_consult, if_pos (Field.mem_all f)]

end Settings

end MemoryWatchdog
