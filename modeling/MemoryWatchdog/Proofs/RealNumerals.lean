import MemoryWatchdog.Proofs.EnvironmentLayer
import MemoryWatchdog.Proofs.Rounding

/-!
# Real numerals

The grammar of real numerals, said without the reading: `RealNumeral`. An optional sign is followed by a word for an infinity or for no
number, or by digits with an optional point and an optional exponent, which denote the number nearest to their exact value. Exactly
these texts are read, and as what they denote: `readReal?_eq_some_iff`.
-/

namespace MemoryWatchdog.Text

/-! ## The grammar -/

/-- The text of an optional sign, and whether it is a minus. -/
inductive Signed : List Char → Bool → Prop
  | none : Signed [] false
  | plus : Signed ['+'] false
  | minus : Signed ['-'] true

/-- ASCII digits, and the number that they denote in base ten. -/
structure Digits (ds : List Char) (n : Nat) : Prop where
  digits : ∀ c ∈ ds, c.isDigit = true
  value : n = Nat.ofDigits 10 (ds.reverse.map digitValue)

/-- The text of an optional exponent, and the exponent: the letter, an optional sign, and at least one digit. -/
inductive Exponent : List Char → Int → Prop
  | none : Exponent [] 0
  | power (letter : Char) (sign ds : List Char) (negative : Bool) (n : Nat) (marked : letter = 'e' ∨ letter = 'E')
      (signed : Signed sign negative) (nonempty : ds ≠ []) (digits : Digits ds n) :
      Exponent (letter :: (sign ++ ds)) (if negative then -(n : Int) else n)

/-- A decimal numeral without a sign: digits with an optional point, at least one digit, and an optional exponent. It denotes the number
of its digits times a power of ten. -/
inductive Decimal : List Char → Nat → Int → Prop
  | whole (whole power : List Char) (n : Nat) (e : Int) (nonempty : whole ≠ []) (digits : Digits whole n) (exponent : Exponent power e) :
      Decimal (whole ++ power) n e
  | point (whole places power : List Char) (n : Nat) (e : Int) (nonempty : whole ++ places ≠ []) (digits : Digits (whole ++ places) n)
      (exponent : Exponent power e) : Decimal (whole ++ '.' :: (places ++ power)) n (e - places.length)

/-- A real numeral, and the number that it denotes: after an optional sign a word for an infinity or for no number, whatever the case of
its letters, or a decimal numeral, which is rounded to the nearest number. -/
inductive RealNumeral : List Char → Binary64 → Prop
  | infinite (sign word : List Char) (negative : Bool) (signed : Signed sign negative)
      (spelt : word.map Char.toLower = "inf".toList ∨ word.map Char.toLower = "infinity".toList) : RealNumeral (sign ++ word) (.infinite negative)
  | nan (sign word : List Char) (negative : Bool) (signed : Signed sign negative) (spelt : word.map Char.toLower = "nan".toList) :
      RealNumeral (sign ++ word) .nan
  | decimal (sign body : List Char) (negative : Bool) (n : Nat) (e : Int) (signed : Signed sign negative) (numeral : Decimal body n e) :
      RealNumeral (sign ++ body) (.ofMagnitude negative ((n : Rat) * (10 : Rat) ^ e))

/-! ## Signs and digits -/

/-- The first character, if there is one, is none of a class. -/
def BeginsOutside (p : Char → Bool) (cs : List Char) : Prop :=
  ∀ c ∈ cs.head?, p c = false

def isSign (c : Char) : Bool :=
  c == '+' || c == '-'

/-- What is read as a sign is an optional sign, and the rest comes behind it. -/
theorem signed_readSign (cs : List Char) : ∃ sign, Signed sign (readSign cs).1 ∧ cs = sign ++ (readSign cs).2 := by
  unfold readSign
  split
  · exact ⟨_, .minus, rfl⟩
  · exact ⟨_, .plus, rfl⟩
  · exact ⟨_, .none, rfl⟩

/-- An optional sign is read off a rest that has no sign of its own. -/
theorem readSign_append {sign rest : List Char} {negative : Bool} (h : Signed sign negative) (hrest : BeginsOutside isSign rest) :
    readSign (sign ++ rest) = (negative, rest) := by
  cases h with
  | plus => rfl
  | minus => rfl
  | none =>
    rw [List.nil_append]
    unfold readSign
    split
    · exact absurd (hrest '-' rfl) (by decide)
    · exact absurd (hrest '+' rfl) (by decide)
    · rfl

/-- Digits are read off a rest that begins with none. -/
theorem spanDigits_append {ds rest : List Char} (hds : ∀ c ∈ ds, c.isDigit = true) (hrest : BeginsOutside Char.isDigit rest) :
    spanDigits (ds ++ rest) = (ds, rest) := by
  have hnone : rest.takeWhile Char.isDigit = [] ∧ rest.dropWhile Char.isDigit = rest := by
    cases rest with
    | nil => exact ⟨rfl, rfl⟩
    | cons c more =>
      have hc : c.isDigit = false := hrest c rfl
      simp [hc]
  rw [spanDigits, List.takeWhile_append_of_pos hds, List.dropWhile_append_of_pos hds, hnone.1, hnone.2, List.append_nil]

/-- What the digits in front are read as, and that no digit follows. -/
theorem spanDigits_spec (cs : List Char) :
    cs = (spanDigits cs).1 ++ (spanDigits cs).2 ∧ (∀ c ∈ (spanDigits cs).1, c.isDigit = true) ∧
      BeginsOutside Char.isDigit (spanDigits cs).2 := by
  refine ⟨List.takeWhile_append_dropWhile.symm, fun c hc => ?_, fun c hc => ?_⟩
  · exact List.mem_takeWhile_imp hc
  · have hhead := List.head?_dropWhile_not Char.isDigit cs
    have hsome : (cs.dropWhile Char.isDigit).head? = some c := hc
    rw [hsome] at hhead
    simpa using hhead

theorem digits_iff {ds : List Char} {n : Nat} : Digits ds n ↔ (∀ c ∈ ds, c.isDigit = true) ∧ n = appendDigits 0 ds := by
  rw [appendDigits_zero]
  exact ⟨fun h => ⟨h.digits, h.value⟩, fun h => ⟨h.1, h.2⟩⟩

/-- Digits begin with no sign. -/
theorem beginsOutside_of_digits {ds : List Char} (h : ∀ c ∈ ds, c.isDigit = true) : BeginsOutside isSign ds := by
  intro c hc
  have hdigit := h c (List.mem_of_mem_head? hc)
  simp only [isSign, Bool.or_eq_false_iff, beq_eq_false_iff_ne]
  constructor <;> rintro rfl <;> revert hdigit <;> decide

/-! ## Exponents -/

/-- What the reading of an exponent accepts, and what it reads it as. -/
theorem readExponent?_eq_some_iff {cs : List Char} {e : Int} : readExponent? cs = some e ↔ Exponent cs e := by
  cases cs with
  | nil =>
    rw [readExponent?]
    constructor
    · intro h
      cases h
      exact .none
    · intro h
      cases h
      rfl
  | cons letter rest =>
    simp only [readExponent?, Option.ite_none_right_eq_some, Bool.and_eq_true, Bool.not_eq_true', List.isEmpty_eq_false_iff,
      List.all_eq_true, Option.some.injEq]
    constructor
    · rintro ⟨hmarked, ⟨hnonempty, hdigits⟩, rfl⟩
      obtain ⟨sign, hsigned, hsplit⟩ := signed_readSign rest
      generalize readSign rest = signAndDigits at *
      subst hsplit
      exact .power letter sign _ _ _ hmarked hsigned hnonempty (digits_iff.mpr ⟨hdigits, rfl⟩)
    · intro h
      cases h with
      | power _ sign ds negative n marked signed nonempty digits =>
        obtain ⟨hdigits, rfl⟩ := digits_iff.mp digits
        rw [readSign_append signed (beginsOutside_of_digits hdigits)]
        exact ⟨marked, ⟨nonempty, hdigits⟩, rfl⟩

/-- An exponent begins with neither a digit nor a point. -/
theorem Exponent.beginsOutside {power : List Char} {e : Int} (h : Exponent power e) :
    BeginsOutside (fun c => c.isDigit || c == '.') power := by
  cases h with
  | none => exact nofun
  | power letter _ _ _ _ marked =>
    intro c hc
    obtain rfl := Option.some.inj hc
    rcases marked with rfl | rfl <;> decide

/-! ## Decimal numerals -/

/-- How digits without a point are read. -/
theorem readDecimal?_whole (negative : Bool) {whole power : List Char} (hdigits : ∀ c ∈ whole, c.isDigit = true)
    (hpower : BeginsOutside (fun c => c.isDigit || c == '.') power) :
    readDecimal? negative (whole ++ power) = if whole = [] then none else
      (readExponent? power).map fun e => Binary64.ofDecimal negative (appendDigits 0 whole) e := by
  have hspan : spanDigits (whole ++ power) = (whole, power) :=
    spanDigits_append hdigits fun c hc => (Bool.or_eq_false_iff.mp (hpower c hc)).1
  have hnoPoint : ∀ rest, power ≠ '.' :: rest := by
    rintro rest rfl
    exact absurd (hpower '.' rfl) (by decide)
  unfold readDecimal?
  rw [hspan]
  dsimp only
  split
  · next rest => exact absurd rfl (hnoPoint rest)
  · simp [appendDigits]

/-- How digits with a point are read. -/
theorem readDecimal?_point (negative : Bool) {whole places power : List Char} (hdigits : ∀ c ∈ whole ++ places, c.isDigit = true)
    (hpower : BeginsOutside Char.isDigit power) :
    readDecimal? negative (whole ++ '.' :: (places ++ power)) = if whole ++ places = [] then none else
      (readExponent? power).map fun e =>
        Binary64.ofDecimal negative (appendDigits 0 (whole ++ places)) (e - places.length) := by
  have hwhole : spanDigits (whole ++ '.' :: (places ++ power)) = (whole, '.' :: (places ++ power)) :=
    spanDigits_append (fun c hc => hdigits c (List.mem_append_left _ hc)) (by
      intro c hc
      obtain rfl := Option.some.inj hc
      decide)
  have hplaces : spanDigits (places ++ power) = (places, power) :=
    spanDigits_append (fun c hc => hdigits c (List.mem_append_right _ hc)) hpower
  unfold readDecimal?
  rw [hwhole]
  simp [hplaces, appendDigits, List.foldl_append]

/-- What the reading of a decimal numeral accepts, and what it reads it as. -/
theorem readDecimal?_eq_some_iff {negative : Bool} {cs : List Char} {x : Binary64} :
    readDecimal? negative cs = some x ↔
      ∃ n e, Decimal cs n e ∧ x = .ofMagnitude negative ((n : Rat) * (10 : Rat) ^ e) := by
  constructor
  · intro h
    obtain ⟨hsplit, hdigits, houtside⟩ := spanDigits_spec cs
    generalize (spanDigits cs).1 = whole at *
    generalize (spanDigits cs).2 = rest at *
    subst hsplit
    by_cases hpoint : ∃ more, rest = '.' :: more
    · obtain ⟨more, rfl⟩ := hpoint
      obtain ⟨hsplit, hplaces, hpower⟩ := spanDigits_spec more
      generalize (spanDigits more).1 = places at *
      generalize (spanDigits more).2 = power at *
      subst hsplit
      have hall : ∀ c ∈ whole ++ places, c.isDigit = true := fun c hc => (List.mem_append.mp hc).elim (hdigits c) (hplaces c)
      rw [readDecimal?_point negative hall hpower, Option.ite_none_left_eq_some, Option.map_eq_some_iff] at h
      obtain ⟨hnonempty, e, hexponent, rfl⟩ := h
      exact ⟨_, _, .point whole places power _ e hnonempty (digits_iff.mpr ⟨hall, rfl⟩) (readExponent?_eq_some_iff.mp hexponent),
        Binary64.ofDecimal_eq ..⟩
    · have hoff : BeginsOutside (fun c => c.isDigit || c == '.') rest := by
        intro c hc
        have hne : c ≠ '.' := by
          rintro rfl
          exact hpoint ⟨_, List.eq_cons_of_mem_head? hc⟩
        simp [houtside c hc, hne]
      rw [readDecimal?_whole negative hdigits hoff, Option.ite_none_left_eq_some, Option.map_eq_some_iff] at h
      obtain ⟨hnonempty, e, hexponent, rfl⟩ := h
      exact ⟨_, _, .whole whole rest _ e hnonempty (digits_iff.mpr ⟨hdigits, rfl⟩) (readExponent?_eq_some_iff.mp hexponent),
        Binary64.ofDecimal_eq ..⟩
  · rintro ⟨n, e, hdecimal, rfl⟩
    cases hdecimal with
    | whole whole power n e nonempty digits exponent =>
      obtain ⟨hdigits, rfl⟩ := digits_iff.mp digits
      rw [readDecimal?_whole negative hdigits exponent.beginsOutside, if_neg nonempty, readExponent?_eq_some_iff.mpr exponent,
        Option.map_some, Binary64.ofDecimal_eq]
    | point whole places power n e nonempty digits exponent =>
      obtain ⟨hdigits, rfl⟩ := digits_iff.mp digits
      have houtside : BeginsOutside Char.isDigit power := fun c hc => (Bool.or_eq_false_iff.mp (exponent.beginsOutside c hc)).1
      rw [readDecimal?_point negative hdigits houtside, if_neg nonempty, readExponent?_eq_some_iff.mpr exponent,
        Option.map_some, Binary64.ofDecimal_eq]

/-! ## Words and numerals -/

theorem ofList_eq_iff {cs : List Char} {s : String} : String.ofList cs = s ↔ cs = s.toList := by
  constructor
  · rintro rfl
    exact (String.toList_ofList ..).symm
  · rintro rfl
    exact String.ofList_toList ..

/-- A decimal numeral begins with a digit or a point. -/
theorem Decimal.begins {body : List Char} {n : Nat} {e : Int} (h : Decimal body n e) :
    ∃ c rest, body = c :: rest ∧ (c.isDigit = true ∨ c = '.') := by
  have hfirst : ∀ {whole rest : List Char}, (∀ c ∈ whole, c.isDigit = true) → whole ≠ [] →
      ∃ c more, whole ++ rest = c :: more ∧ (c.isDigit = true ∨ c = '.') := by
    intro whole rest hdigits hnonempty
    obtain ⟨c, more, rfl⟩ := List.exists_cons_of_ne_nil hnonempty
    exact ⟨c, more ++ rest, rfl, .inl (hdigits c List.mem_cons_self)⟩
  cases h with
  | whole whole power _ _ nonempty digits => exact hfirst digits.digits nonempty
  | point whole places power _ _ _ digits =>
    by_cases hwhole : whole = []
    · subst hwhole
      exact ⟨_, _, rfl, .inr rfl⟩
    · exact hfirst (fun c hc => digits.digits c (List.mem_append_left _ hc)) hwhole

/-- A digit is no letter and so has no other case. -/
theorem toLower_of_isDigit {c : Char} (h : c.isDigit = true) : c.toLower = c := by
  simp only [Char.isDigit, Bool.and_eq_true, decide_eq_true_eq] at h
  unfold Char.toLower
  rw [dif_neg]
  rintro ⟨hfrom, -⟩
  have hto : c.val ≤ 57 := h.2
  exact absurd (UInt32.le_trans hfrom hto) (by decide)

/-- A decimal numeral begins with no sign. -/
theorem Decimal.beginsOutside {body : List Char} {n : Nat} {e : Int} (h : Decimal body n e) : BeginsOutside isSign body := by
  obtain ⟨c, rest, rfl, hc⟩ := h.begins
  intro d hd
  obtain rfl := Option.some.inj hd
  rcases hc with hdigit | rfl
  · have hall : ∀ d ∈ [c], d.isDigit = true := by simpa using hdigit
    exact beginsOutside_of_digits hall c rfl
  · decide

/-- A decimal numeral is no word, whatever the case of its letters. -/
theorem Decimal.ne_word {body : List Char} {n : Nat} {e : Int} (h : Decimal body n e) {c : Char} {rest : List Char}
    (hletter : c.isDigit = false ∧ c ≠ '.') : body.map Char.toLower ≠ c :: rest := by
  obtain ⟨d, more, rfl, hd⟩ := h.begins
  intro heq
  have hlower : d.toLower = c := (List.cons.inj heq).1
  have hsame : d.toLower = d := by
    rcases hd with hdigit | rfl
    · exact toLower_of_isDigit hdigit
    · decide
  rw [hsame] at hlower
  subst hlower
  rcases hd with hdigit | rfl
  · rw [hletter.1] at hdigit
    cases hdigit
  · exact hletter.2 rfl

/-- Lowering a character makes it a sign only if it was that sign. -/
theorem beginsOutside_of_lower {word : List Char} {c : Char} {rest : List Char} (h : word.map Char.toLower = c :: rest)
    (hc : isSign c = false) : BeginsOutside isSign word := by
  obtain ⟨d, more, rfl, rfl, -⟩ := List.map_eq_cons_iff.mp h
  intro d' hd'
  obtain rfl := Option.some.inj hd'
  by_contra hsign
  simp only [isSign, Bool.not_eq_false, Bool.or_eq_true, beq_iff_eq] at hsign
  rcases hsign with rfl | rfl <;> exact absurd hc (by decide)

/-- What the reading of a real numeral accepts, and what it reads it as. -/
theorem readReal?_eq_some_iff {cs : List Char} {x : Binary64} : readReal? cs = some x ↔ RealNumeral cs x := by
  unfold readReal?
  simp only [ofList_eq_iff]
  constructor
  · intro h
    obtain ⟨sign, hsigned, hsplit⟩ := signed_readSign cs
    generalize readSign cs = signAndRest at *
    subst hsplit
    split at h
    · next hword =>
      cases h
      exact .infinite _ _ _ hsigned hword
    · split at h
      · next hword =>
        cases h
        exact .nan _ _ _ hsigned hword
      · obtain ⟨n, e, hdecimal, rfl⟩ := readDecimal?_eq_some_iff.mp h
        exact .decimal _ _ _ n e hsigned hdecimal
  · intro h
    cases h with
    | infinite sign word negative signed spelt =>
      have hoff : BeginsOutside isSign word := by
        rcases spelt with h | h <;> exact beginsOutside_of_lower h rfl
      rw [readSign_append signed hoff, if_pos spelt]
    | nan sign word negative signed spelt =>
      rw [readSign_append signed (beginsOutside_of_lower spelt rfl), if_neg, if_pos spelt]
      rw [spelt]
      decide
    | decimal sign body negative n e signed numeral =>
      rw [readSign_append signed numeral.beginsOutside, if_neg, if_neg]
      · exact readDecimal?_eq_some_iff.mpr ⟨n, e, numeral, rfl⟩
      · exact numeral.ne_word (by decide)
      · rw [not_or]
        exact ⟨numeral.ne_word (by decide), numeral.ne_word (by decide)⟩

end MemoryWatchdog.Text
