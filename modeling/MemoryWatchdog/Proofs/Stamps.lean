import Mathlib.Algebra.Group.Nat.Defs
import Mathlib.Data.List.Basic
import MemoryWatchdog.Calendar

/-!
# What a stamp tells of its moment

Each day has a date of its own (`ofDays_injective`). Behind its year a stamp has fields of a fixed width, so they can be read off one
after the other (`toMillisecond_eq_of_withinYear`); the year has a width of its own and may begin with a minus sign, but where it begins
can be told from behind, if a digit and a dash stand before it (`yearText_append_inj`).
-/

namespace MemoryWatchdog

/-! ## Dates -/

namespace CivilDate

/-- The date of a day of a year that begins with March. -/
def ofDayOfYear (year : Int) (dayOfYear : Nat) : CivilDate :=
  let shiftedMonth := (5 * dayOfYear + 2) / 153
  let month := if shiftedMonth < 10 then shiftedMonth + 3 else shiftedMonth - 9
  { year := year + if month ≤ 2 then 1 else 0
    month
    day := dayOfYear - (153 * shiftedMonth + 2) / 5 + 1 }

/-- The year of an era that is found by taking off the leap days before a day: it is one of 400, it begins no later than the day, and the
day is one of its at most 366. -/
theorem yearOfEra_bounds {d y : Nat} (hd : d < 146097) (hlow : 365 * y ≤ d - d / 1460 + d / 36524 - d / 146096)
    (hhigh : d - d / 1460 + d / 36524 - d / 146096 < 365 * y + 365) :
    y < 400 ∧ 365 * y + y / 4 - y / 100 ≤ d ∧ d - (365 * y + y / 4 - y / 100) < 366 := by
  obtain ⟨fours, hfours⟩ : ∃ fours, fours = d / 1460 := ⟨_, rfl⟩
  obtain ⟨hundreds, hhundreds⟩ : ∃ hundreds, hundreds = d / 36524 := ⟨_, rfl⟩
  obtain ⟨last, hlast⟩ : ∃ last, last = d / 146096 := ⟨_, rfl⟩
  rw [← hfours, ← hhundreds, ← hlast] at hlow hhigh
  have hcentury : 25 * hundreds ≤ fours + last := by omega
  have hyear : y < 400 := by omega
  -- The leap days taken off are those before the year, or one more: by the rule of four years, and by that of hundred.
  have hfoursLeast : y / 4 ≤ fours := by omega
  have hfoursMost : fours ≤ y / 4 + 1 := by omega
  have hhundredsLeast : hundreds ≤ y / 100 + last := by omega
  have hhundredsMost : y / 100 + last ≤ hundreds + 1 := by omega
  have hsum : fours + (y / 100 + last) ≤ y / 4 + hundreds + 1 := by
    rcases Nat.lt_or_eq_of_le hfoursMost with hsame | hmore
    · omega
    · have hdays : 36500 * (y / 100) + 365 ≤ d := by omega
      have hnone : y / 100 + last ≤ hundreds := by omega
      omega
  clear hcentury hfoursMost hhundredsMost hfours hhundreds hlast
  exact ⟨hyear, by omega, by omega⟩

/-- A day is the day of a year that lies in an era, and its date is that of the day of the year. -/
theorem exists_dayOfYear (days : Int) :
    ∃ (era : Int) (y dayOfYear : Nat), y < 400 ∧ dayOfYear < 366 ∧
      days = 146097 * era + (365 * y + y / 4 - y / 100 : Nat) + dayOfYear - 719468 ∧
      ofDays days = ofDayOfYear (y + era * 400) dayOfYear := by
  obtain ⟨d, hd⟩ : ∃ d, d = ((days + 719468) % 146097).toNat := ⟨_, rfl⟩
  obtain ⟨y, hy⟩ : ∃ y, y = (d - d / 1460 + d / 36524 - d / 146096) / 365 := ⟨_, rfl⟩
  obtain ⟨hyear, hlow, hhigh⟩ := yearOfEra_bounds (d := d) (y := y) (by omega) (by omega) (by omega)
  refine ⟨(days + 719468) / 146097, y, d - (365 * y + y / 4 - y / 100), hyear, hhigh, ?_, ?_⟩
  · omega
  · subst hy hd
    rfl

/-- A date tells the year and the day of the year that it is made of. -/
theorem ofDayOfYear_inj {year year' : Int} {d d' : Nat} (hd : d < 366) (hd' : d' < 366)
    (h : ofDayOfYear year d = ofDayOfYear year' d') : year = year' ∧ d = d' := by
  simp only [ofDayOfYear, mk.injEq] at h
  obtain ⟨hyear, hmonth, hday⟩ := h
  have hsame : (5 * d + 2) / 153 = (5 * d' + 2) / 153 := by
    split at hmonth <;> split at hmonth <;> omega
  rw [hsame] at hyear hday
  exact ⟨by omega, by omega⟩

/-- Different days have different dates. -/
theorem ofDays_injective : Function.Injective ofDays := by
  intro days days' h
  obtain ⟨era, y, d, hy, hd, rfl, hdate⟩ := exists_dayOfYear days
  obtain ⟨era', y', d', hy', hd', rfl, hdate'⟩ := exists_dayOfYear days'
  rw [hdate, hdate'] at h
  obtain ⟨hyear, rfl⟩ := ofDayOfYear_inj hd hd' h
  obtain rfl : era = era' := by omega
  obtain rfl : y = y' := by omega
  rfl

/-- A date has one of twelve months and one of at most 31 days. -/
theorem ofDays_bounds (days : Int) : (ofDays days).month ≤ 12 ∧ (ofDays days).day ≤ 31 := by
  obtain ⟨era, y, d, -, hd, -, hdate⟩ := exists_dayOfYear days
  rw [hdate]
  simp only [ofDayOfYear]
  constructor
  · split <;> omega
  · omega

end CivilDate

namespace Moment

/-! ## Numbers of a fixed width -/

/-- A number that is padded is its digits behind as many zeros as are missing. -/
theorem toList_padded (width n : Nat) :
    (padded width n).toList = List.replicate (width - (Decimal.digitsOf n).length) '0' ++ Decimal.digitsOf n :=
  String.toList_ofList

/-- A number with no more digits than the width has just the width. -/
theorem length_padded {width n : Nat} (hwidth : 0 < width) (hn : n < 10 ^ width) : (padded width n).toList.length = width := by
  have hdigits : (Decimal.digitsOf n).length ≤ width := (Nat.length_toDigits_le_iff (by decide) hwidth).mpr hn
  rw [toList_padded, List.length_append, List.length_replicate]
  omega

theorem isDigit_of_mem_digitsOf {n : Nat} {c : Char} (h : c ∈ Decimal.digitsOf n) : c.isDigit = true :=
  Nat.isDigit_of_mem_toDigits (by decide) (by decide) h

/-- Every character of a number that is padded is a digit. -/
theorem isDigit_of_mem_padded {width n : Nat} {c : Char} (h : c ∈ (padded width n).toList) : c.isDigit = true := by
  rw [toList_padded, List.mem_append, List.mem_replicate] at h
  rcases h with ⟨-, rfl⟩ | h
  · rfl
  · exact isDigit_of_mem_digitsOf h

theorem not_mem_digitsOf {c : Char} (h : c.isDigit = false) (n : Nat) : c ∉ Decimal.digitsOf n := by
  intro hmem
  rw [isDigit_of_mem_digitsOf hmem] at h
  cases h

theorem not_mem_padded {c : Char} (h : c.isDigit = false) (width n : Nat) : c ∉ (padded width n).toList := by
  intro hmem
  rw [isDigit_of_mem_padded hmem] at h
  cases h

/-- Different numbers have different digits. -/
theorem digitsOf_injective : Function.Injective Decimal.digitsOf := by
  intro n n' h
  have hvalue := congrArg (fun digits => Nat.ofDigitChars 10 digits 0) h
  simpa only [Decimal.digitsOf, Nat.ofDigitChars_toDigits (b := 10) (by decide) (by decide)] using hvalue

/-- The zeros in front do not change the value. -/
theorem padded_injective (width : Nat) : Function.Injective fun n => (padded width n).toList := by
  intro n n' h
  have hvalue := congrArg (fun digits => Nat.ofDigitChars 10 digits 0) h
  simpa only [toList_padded, Nat.ofDigitChars_append, Nat.ofDigitChars_replicate_zero, Nat.mul_zero, Decimal.digitsOf,
    Nat.ofDigitChars_toDigits (b := 10) (by decide) (by decide)] using hvalue

/-- A number of a fixed width can be read off from the front. -/
theorem padded_append_inj {width n n' : Nat} {rest rest' : List Char} (hwidth : 0 < width) (hn : n < 10 ^ width)
    (hn' : n' < 10 ^ width) (h : (padded width n).toList ++ rest = (padded width n').toList ++ rest') : n = n' ∧ rest = rest' := by
  obtain ⟨hfield, hrest⟩ := List.append_inj h (by rw [length_padded hwidth hn, length_padded hwidth hn'])
  exact ⟨padded_injective width hfield, hrest⟩

/-- What stands behind the last character that is no digit can be told from the end. -/
theorem append_cons_digits_inj {front front' digits digits' : List Char} {c c' : Char} (hc : c.isDigit = false)
    (hc' : c'.isDigit = false) (hdigits : ∀ d ∈ digits, d.isDigit = true) (hdigits' : ∀ d ∈ digits', d.isDigit = true)
    (h : front ++ c :: digits = front' ++ c' :: digits') : front = front' ∧ c = c' ∧ digits = digits' := by
  rcases List.append_eq_append_iff.mp h with ⟨between, rfl, hbetween⟩ | ⟨between, rfl, hbetween⟩
  · cases between with
    | nil => simpa using hbetween
    | cons x xs =>
      have hmem : c' ∈ digits := by simp [(List.cons.inj hbetween).2]
      rw [hdigits c' hmem] at hc'
      cases hc'
  · cases between with
    | nil => simpa [eq_comm] using hbetween
    | cons x xs =>
      have hmem : c ∈ digits' := by simp [(List.cons.inj hbetween).2]
      rw [hdigits' c hmem] at hc
      cases hc

/-! ## Years -/

/-- A dash and a year are a dash and the digits of a year from 0 to 9999, or two dashes and the digits of an earlier one, or a dash, a
plus sign and the digits of a later one. -/
inductive YearForm (year : Int) : List Char → Char → Prop
  | plain (low : 0 ≤ year) (high : year ≤ 9999) : YearForm year [] '-'
  | negative (low : year < 0) : YearForm year ['-'] '-'
  | positive (high : 9999 < year) : YearForm year ['-'] '+'

/-- Behind a dash, every year has one of these forms. -/
theorem exists_yearForm (year : Int) :
    ∃ lead sign, YearForm year lead sign ∧ '-' :: (yearText year).toList = lead ++ sign :: (padded 4 year.natAbs).toList := by
  unfold yearText
  split
  · next hplain =>
    have hvalue : year.toNat = year.natAbs := by omega
    exact ⟨[], '-', .plain hplain.1 hplain.2, by rw [hvalue]; rfl⟩
  · next hsigned =>
    by_cases hlow : year < 0
    · exact ⟨['-'], '-', .negative hlow, by rw [if_pos hlow, String.toList_append]; rfl⟩
    · exact ⟨['-'], '+', .positive (by omega), by rw [if_neg hlow, String.toList_append]; rfl⟩

theorem YearForm.not_isDigit {year : Int} {lead : List Char} {sign : Char} (h : YearForm year lead sign) : sign.isDigit = false := by
  cases h <;> rfl

/-- A year has digits, dashes and plus signs only. -/
theorem not_mem_yearText {c : Char} (hdigit : c.isDigit = false) (hdash : c ≠ '-') (hplus : c ≠ '+') (year : Int) :
    c ∉ (yearText year).toList := by
  obtain ⟨lead, sign, hform, htext⟩ := exists_yearForm year
  have hnone : c ∉ '-' :: (yearText year).toList := by
    rw [htext]
    cases hform <;> simp [hdash, hplus, not_mem_padded hdigit]
  exact fun hmem => hnone (List.mem_cons_of_mem _ hmem)

/-- Where a year begins can be told from behind, if a digit and a dash stand before it: a dash behind a digit is no minus sign. -/
theorem yearText_append_inj {front front' : List Char} {d d' : Char} {year year' : Int} (hd : d.isDigit = true)
    (hd' : d'.isDigit = true)
    (h : front ++ [d] ++ '-' :: (yearText year).toList = front' ++ [d'] ++ '-' :: (yearText year').toList) :
    front ++ [d] = front' ++ [d'] ∧ year = year' := by
  obtain ⟨lead, sign, hform, htext⟩ := exists_yearForm year
  obtain ⟨lead', sign', hform', htext'⟩ := exists_yearForm year'
  rw [htext, htext', ← List.append_assoc (front ++ [d]), ← List.append_assoc (front' ++ [d'])] at h
  obtain ⟨hfront, hsign, hdigits⟩ := append_cons_digits_inj hform.not_isDigit hform'.not_isDigit
    (fun c => isDigit_of_mem_padded) (fun c => isDigit_of_mem_padded) h
  have hvalue : year.natAbs = year'.natAbs := padded_injective 4 hdigits
  have hdash {c : Char} (hc : c.isDigit = true) : c ≠ '-' := by
    rintro rfl
    cases hc
  cases hform with
  | plain low high =>
    cases hform' with
    | plain low' high' => exact ⟨by simpa using hfront, by omega⟩
    | negative low' =>
      rw [List.append_nil] at hfront
      exact absurd (List.singleton_injective (List.append_inj' hfront rfl).2) (hdash hd)
    | positive high' => cases hsign
  | negative low =>
    cases hform' with
    | plain low' high' =>
      rw [List.append_nil] at hfront
      exact absurd (List.singleton_injective (List.append_inj' hfront rfl).2).symm (hdash hd')
    | negative low' => exact ⟨(List.append_inj' hfront rfl).1, by omega⟩
    | positive high' => cases hsign
  | positive high =>
    cases hform' with
    | plain low' high' => cases hsign
    | negative low' => cases hsign
    | positive high' => exact ⟨(List.append_inj' hfront rfl).1, by omega⟩

/-! ## The fields of a stamp -/

/-- The stamp of a moment behind its year. -/
def withinYear (m : Moment) : List Char :=
  (padded 2 m.date.month).toList ++ ((padded 2 m.date.day).toList ++ ('T' :: ((padded 2 m.hour).toList ++ ((padded 2 m.minute).toList ++
    ((padded 2 m.second).toList ++ ('.' :: ((padded 3 (m.fraction / 1000000)).toList ++ ['Z'])))))))

/-- A stamp is its year and what stands behind it. -/
theorem toList_stamp (m : Moment) : m.stamp.toList = (yearText m.date.year).toList ++ m.withinYear := by
  have hT : "T".toList = ['T'] := by decide
  have hpoint : ".".toList = ['.'] := by decide
  have hZ : "Z".toList = ['Z'] := by decide
  simp only [stamp, withinYear, String.toList_append, hT, hpoint, hZ, List.append_assoc, List.cons_append, List.nil_append]

/-- No slash stands behind the year. -/
theorem slash_not_mem_withinYear (m : Moment) : '/' ∉ m.withinYear := by
  have hslash : '/'.isDigit = false := rfl
  simp [withinYear, not_mem_padded hslash]

/-- The moment without what is below a millisecond. -/
def toMillisecond (m : Moment) : Moment :=
  ⟨m.seconds, m.nanoseconds / 1000000 * 1000000⟩

/-- A moment exists if its second lies between the first and the last and its fraction is less than a second, or than two in a leap second. -/
theorem isValid_iff {m : Moment} :
    m.isValid = true ↔ firstSecond ≤ m.seconds ∧ m.seconds ≤ lastSecond ∧
      (m.nanoseconds < 1000000000 ∨ m.nanoseconds < 2000000000 ∧ m.seconds % 60 = 59) := by
  simp [isValid, and_assoc]

/-- All fields but the year fit their widths, if the moment exists. -/
structure Fits (m : Moment) : Prop where
  month : m.date.month < 10 ^ 2
  day : m.date.day < 10 ^ 2
  hour : m.hour < 10 ^ 2
  minute : m.minute < 10 ^ 2
  second : m.second < 10 ^ 2
  fraction : m.fraction / 1000000 < 10 ^ 3

/-- The fields of a moment that exists fit their widths. -/
theorem fits_of_isValid {m : Moment} (h : m.isValid = true) : m.Fits := by
  obtain ⟨-, -, hfraction⟩ := isValid_iff.mp h
  obtain ⟨hmonth, hday⟩ := CivilDate.ofDays_bounds (m.seconds / 86400)
  constructor
  · unfold date; omega
  · unfold date; omega
  · unfold hour; omega
  · unfold minute; omega
  · unfold second; omega
  · unfold fraction; omega

/-- Then what stands behind the year has a fixed length. -/
theorem length_withinYear {m : Moment} (h : m.Fits) : m.withinYear.length = 16 := by
  have htwo : 0 < 2 := by decide
  simp only [withinYear, List.length_append, List.length_cons, List.length_nil, length_padded htwo h.month,
    length_padded htwo h.day, length_padded htwo h.hour, length_padded htwo h.minute, length_padded htwo h.second,
    length_padded (by decide) h.fraction]

/-- The fields of a moment tell it to the millisecond. A leap second has a number of its own. -/
theorem toMillisecond_eq_of_fields {m m' : Moment} (h : m.isValid = true) (h' : m'.isValid = true) (hdate : m.date = m'.date)
    (hhour : m.hour = m'.hour) (hminute : m.minute = m'.minute) (hsecond : m.second = m'.second)
    (hfraction : m.fraction / 1000000 = m'.fraction / 1000000) : m.toMillisecond = m'.toMillisecond := by
  obtain ⟨-, -, hleap⟩ := isValid_iff.mp h
  obtain ⟨-, -, hleap'⟩ := isValid_iff.mp h'
  have hdays : m.seconds / 86400 = m'.seconds / 86400 := CivilDate.ofDays_injective hdate
  unfold hour at hhour
  unfold minute at hminute
  unfold second at hsecond
  unfold fraction at hfraction
  have hwhole : m.nanoseconds / 1000000000 = m'.nanoseconds / 1000000000 := by omega
  have hseconds : m.seconds = m'.seconds := by omega
  have hmilliseconds : m.nanoseconds / 1000000 = m'.nanoseconds / 1000000 := by omega
  rw [toMillisecond, toMillisecond, hseconds, hmilliseconds]

/-- The fields can be read off one after the other: together with the year they tell the moment to the millisecond. -/
theorem toMillisecond_eq_of_withinYear {m m' : Moment} (hvalid : m.isValid = true) (hvalid' : m'.isValid = true)
    (hyear : m.date.year = m'.date.year) (heq : m.withinYear = m'.withinYear) : m.toMillisecond = m'.toMillisecond := by
  have h := fits_of_isValid hvalid
  have h' := fits_of_isValid hvalid'
  have htwo : 0 < 2 := by decide
  obtain ⟨hmonth, heq⟩ := padded_append_inj htwo h.month h'.month heq
  obtain ⟨hday, heq⟩ := padded_append_inj htwo h.day h'.day heq
  obtain ⟨hhour, heq⟩ := padded_append_inj htwo h.hour h'.hour (List.cons.inj heq).2
  obtain ⟨hminute, heq⟩ := padded_append_inj htwo h.minute h'.minute heq
  obtain ⟨hsecond, heq⟩ := padded_append_inj htwo h.second h'.second heq
  obtain ⟨hfraction, -⟩ := padded_append_inj (by decide) h.fraction h'.fraction (List.cons.inj heq).2
  have hdate : m.date = m'.date :=
    calc m.date = ⟨m.date.year, m.date.month, m.date.day⟩ := rfl
      _ = ⟨m'.date.year, m'.date.month, m'.date.day⟩ := by rw [hyear, hmonth, hday]
      _ = m'.date := rfl
  exact toMillisecond_eq_of_fields hvalid hvalid' hdate hhour hminute hsecond hfraction

/-- The stamp of a moment depends on nothing below a millisecond. -/
theorem stamp_toMillisecond (m : Moment) : m.toMillisecond.stamp = m.stamp := by
  have hsecond : m.toMillisecond.second = m.second := by
    simp only [toMillisecond, second]
    omega
  have hfraction : m.toMillisecond.fraction / 1000000 = m.fraction / 1000000 := by
    simp only [toMillisecond, fraction]
    omega
  rw [stamp, stamp, hsecond, hfraction]
  rfl

end Moment

end MemoryWatchdog
