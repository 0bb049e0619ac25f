import MemoryWatchdog.Proofs.EnvironmentLayer
import MemoryWatchdog.Proofs.RealNumerals

/-!
# Overrides and refusals

The environment, field by field. A variable that is set to more than blanks either overrides its field (`Overrides`) or is refused
(`Refuses`); which of the two, and with what value, depends on that variable alone. The log has one line for each field whose variable is
refused, in the order in which they are consulted: `toList_log_applyEnvironment`. The main result, `environment_overrides_exactly`, says
what becomes of all fields and of the log together.
-/

namespace MemoryWatchdog

/-- A number that can be a limit: finite, and not below zero. -/
def Binary64.Usable (x : Binary64) : Prop :=
  ∃ negative magnitude, x = .finite negative magnitude ∧ 0 ≤ signed negative magnitude

/-- The line that tells of a field by the name of its variable. -/
def Log.Entry.names (line : Log.Entry) (f : Settings.Field) : Bool :=
  decide (("key", .text f.environmentName) ∈ line.fields)

namespace Settings

variable {lookup : String → Option String} {s : Settings} {f g : Field}

/-- A ratio is admitted exactly from a real numeral of a number that can be a limit. -/
theorem Kind.admits_ratio_iff {text : String} {x : Binary64} :
    Kind.Admits .ratio text x ↔ Text.RealNumeral text.toList x ∧ x.Usable := by
  constructor
  · intro h
    cases h with
    | ratio _ negative magnitude numeral nonnegative =>
      exact ⟨Text.readReal?_eq_some_iff.mp numeral, negative, magnitude, rfl, nonnegative⟩
  · rintro ⟨hnumeral, negative, magnitude, rfl, hnonnegative⟩
    exact .ratio _ negative magnitude (Text.readReal?_eq_some_iff.mpr hnumeral) hnonnegative

/-! ## Overriding is a matter of one variable -/

/-- A variable overrides with one value. -/
theorem Overrides.unique {v w : f.kind.Carrier} (h : Overrides lookup f v) (h' : Overrides lookup f w) : v = w := by
  rw [← override?_eq_some_iff] at h h'
  exact Option.some.inj (h.symm.trans h')

/-- There is no override if no value is admitted. -/
theorem override?_eq_none_iff : override? lookup f = none ↔ ∀ v, ¬Overrides lookup f v := by
  simp only [Option.eq_none_iff_forall_ne_some, ne_eq, override?_eq_some_iff]

/-- Only the variable of the field decides. -/
theorem override?_congr {lookup' : String → Option String} (h : lookup' f.environmentName = lookup f.environmentName) :
    override? lookup' f = override? lookup f := by
  rw [override?, override?, textOf, textOf, h]

/-- A field that is overridden has the value of its variable. -/
theorem get_applyEnvironment_of_overrides {v : f.kind.Carrier} (h : Overrides lookup f v) :
    (s.applyEnvironment lookup).1.get f = v := by
  rw [get_applyEnvironment, override?_eq_some_iff.mpr h, Option.getD_some]

/-- Every other field has the value that it had. -/
theorem get_applyEnvironment_of_kept (h : ∀ v, ¬Overrides lookup f v) : (s.applyEnvironment lookup).1.get f = s.get f := by
  rw [get_applyEnvironment, override?_eq_none_iff.mpr h, Option.getD_none]

/-! ## Refusals -/

/-- The environment sets the variable of a field to more than blanks, and what is left without the blanks around it, the text, is
admitted as no value. -/
def Refuses (lookup : String → Option String) (f : Field) (text : String) : Prop :=
  (∃ raw, lookup f.environmentName = some raw ∧ Text.trim raw = text) ∧ text ≠ "" ∧ ∀ v, ¬f.kind.Admits text v

/-- What is logged when the text of a field's variable is refused. -/
def refusalLine (f : Field) (text : String) : Log.Entry :=
  ⟨.warn, f.kind.refusal, [("key", .text f.environmentName), ("value", .text text)]⟩

/-- The line that is logged about a field's variable, if it is refused. -/
def refusal? (lookup : String → Option String) (f : Field) : Option Log.Entry :=
  ((textOf lookup f).filter fun text => (f.kind.read? text).isNone).map (refusalLine f)

/-- The text of a variable is what is left without the blanks around it, if that is not empty. -/
theorem textOf_eq_some_iff {text : String} :
    textOf lookup f = some text ↔ (∃ raw, lookup f.environmentName = some raw ∧ Text.trim raw = text) ∧ text ≠ "" := by
  simp [textOf, Option.filter_eq_some_iff]

/-- A line is logged about a variable if its text is refused, and it tells of that text. -/
theorem refusal?_eq_some_iff {line : Log.Entry} :
    refusal? lookup f = some line ↔ ∃ text, Refuses lookup f text ∧ line = refusalLine f text := by
  have hrefuses : ∀ text, (textOf lookup f = some text ∧ (f.kind.read? text).isNone = true) ↔ Refuses lookup f text := by
    intro text
    rw [textOf_eq_some_iff, Refuses, Option.isNone_iff_eq_none, Option.eq_none_iff_forall_ne_some, and_assoc]
    refine and_congr_right ?_
    rintro ⟨raw, -, rfl⟩
    simp only [ne_eq, Kind.read?_trim_eq_some_iff]
  simp only [refusal?, Option.map_eq_some_iff, Option.filter_eq_some_iff, hrefuses]
  exact exists_congr fun text => and_congr_right fun _ => eq_comm

/-- A line tells of the field that it was logged about, and of no other. -/
theorem names_refusalLine {text : String} : (refusalLine f text).names g = true ↔ f = g := by
  simp only [Log.Entry.names, refusalLine, decide_eq_true_eq, List.mem_cons, Prod.mk.injEq, true_and, Log.Field.text.injEq,
    List.not_mem_nil, or_false]
  constructor
  · rintro (h | ⟨h, -⟩)
    · exact (Field.environmentName_injective h).symm
    · exact absurd h (by decide)
  · rintro rfl
    exact .inl rfl

/-- The line of one field tells of no other. -/
theorem names_of_refusal? {line : Log.Entry} (h : refusal? lookup f = some line) : line.names g = true ↔ f = g := by
  obtain ⟨text, -, rfl⟩ := refusal?_eq_some_iff.mp h
  exact names_refusalLine

/-- What is logged when one variable is consulted. -/
theorem log_consult (lookup : String → Option String) (s : Settings × Log) (f : Field) :
    (consult lookup s f).2.toList = s.2.toList ++ (refusal? lookup f).toList := by
  unfold consult refusal?
  cases textOf lookup f with
  | none => simp
  | some text =>
    cases hread : f.kind.read? text with
    | none => simp [Option.filter_some, hread, refusalLine]
    | some v => simp [Option.filter_some, hread]

/-- Consulting variables one after the other adds the lines of those that are refused. -/
theorem log_foldl_consult (lookup : String → Option String) (fields : List Field) (s : Settings × Log) :
    (fields.foldl (consult lookup) s).2.toList = s.2.toList ++ fields.filterMap (refusal? lookup) := by
  induction fields generalizing s with
  | nil => simp
  | cons f rest ih =>
    rw [List.foldl_cons, ih, log_consult, List.append_assoc, List.filterMap_cons]
    cases refusal? lookup f <;> rfl

/-- The log has the line of each field whose variable is refused, in the order in which they are consulted. -/
theorem toList_log_applyEnvironment (lookup : String → Option String) (s : Settings) :
    (s.applyEnvironment lookup).2.toList = Field.all.filterMap (refusal? lookup) := by
  rw [applyEnvironment, log_foldl_consult]
  rfl

/-- Among the lines of different fields, those that tell of one field are its own. -/
theorem filter_names_filterMap (f : Field) (fields : List Field) (h : fields.Nodup) :
    (fields.filterMap (refusal? lookup)).filter (·.names f) = if f ∈ fields then (refusal? lookup f).toList else [] := by
  induction fields with
  | nil => rfl
  | cons g rest ih =>
    obtain ⟨hfresh, hrest⟩ := List.nodup_cons.mp h
    specialize ih hrest
    by_cases hgf : g = f
    · subst hgf
      rw [if_neg hfresh] at ih
      rw [if_pos List.mem_cons_self]
      cases hline : refusal? lookup g with
      | none => simp [hline, ih]
      | some line =>
        have hnames : line.names g = true := (names_of_refusal? hline).mpr rfl
        simp [hline, hnames, ih]
    · have hmem : f ∈ g :: rest ↔ f ∈ rest := by simp [Ne.symm hgf]
      simp only [hmem]
      cases hline : refusal? lookup g with
      | none => simpa [hline] using ih
      | some line =>
        have hnames : line.names f = false := Bool.eq_false_iff.mpr fun h => hgf ((names_of_refusal? hline).mp h)
        simpa [hline, hnames] using ih

theorem Field.nodup_all : Field.all.Nodup := by
  decide

/-- What the log tells of a field is the line of its variable, if that is refused. -/
theorem filter_names_log (lookup : String → Option String) (s : Settings) (f : Field) :
    (s.applyEnvironment lookup).2.toList.filter (·.names f) = (refusal? lookup f).toList := by
  rw [toList_log_applyEnvironment, filter_names_filterMap f _ Field.nodup_all, if_pos (Field.mem_all f)]

/-! ## The whole environment -/

/-- Once the environment has been applied, applying it again gives the same settings and the same log. -/
theorem applyEnvironment_applyEnvironment (lookup : String → Option String) (s : Settings) :
    (s.applyEnvironment lookup).1.applyEnvironment lookup = s.applyEnvironment lookup := by
  refine Prod.ext (eq_of_get fun f => ?_) (Array.ext' ?_)
  · rw [get_applyEnvironment, get_applyEnvironment]
    cases override? lookup f <;> rfl
  · rw [toList_log_applyEnvironment, toList_log_applyEnvironment]

/-- What the environment does to all fields and to the log. A field whose variable is admitted has its value, and every other field the
one that it had; so its new value is made of its own variable and its own old value, and of nothing else. A ratio is admitted exactly from
a real numeral of a number that can be a limit. Each refused variable has one line in the log that tells of it, no other variable has one,
and nothing else is logged. Applying the environment again changes nothing. -/
theorem environment_overrides_exactly (s : Settings) (lookup : String → Option String) :
    (∀ f, (∀ v, Overrides lookup f v → (s.applyEnvironment lookup).1.get f = v)
        ∧ ((∀ v, ¬Overrides lookup f v) → (s.applyEnvironment lookup).1.get f = s.get f))
      ∧ (∀ (f : Field) (s' : Settings) (lookup' : String → Option String), lookup' f.environmentName = lookup f.environmentName →
          (s'.get f = s.get f ∨ ∃ v, Overrides lookup f v) →
            (s'.applyEnvironment lookup').1.get f = (s.applyEnvironment lookup).1.get f)
      ∧ (∀ text x, Kind.Admits .ratio text x ↔ Text.RealNumeral text.toList x ∧ x.Usable)
      ∧ (∀ f, (∀ text, Refuses lookup f text →
            (s.applyEnvironment lookup).2.toList.filter (·.names f) = [refusalLine f text])
          ∧ ((∀ text, ¬Refuses lookup f text) → (s.applyEnvironment lookup).2.toList.filter (·.names f) = []))
      ∧ (∀ line ∈ (s.applyEnvironment lookup).2.toList, ∃ f text, Refuses lookup f text ∧ line = refusalLine f text)
      ∧ (s.applyEnvironment lookup).1.applyEnvironment lookup = s.applyEnvironment lookup := by
  refine ⟨fun f => ⟨fun v => get_applyEnvironment_of_overrides, get_applyEnvironment_of_kept⟩, fun f s' lookup' hsame hold => ?_,
    fun text x => Kind.admits_ratio_iff, fun f => ⟨fun text hrefused => ?_, fun hnot => ?_⟩, fun line hline => ?_,
    applyEnvironment_applyEnvironment lookup s⟩
  · rw [get_applyEnvironment, get_applyEnvironment, override?_congr hsame]
    rcases hold with hold | ⟨v, hv⟩
    · rw [hold]
    · rw [override?_eq_some_iff.mpr hv, Option.getD_some, Option.getD_some]
  · rw [filter_names_log, refusal?_eq_some_iff.mpr ⟨text, hrefused, rfl⟩]
    rfl
  · have hnone : refusal? lookup f = none := by
      rw [Option.eq_none_iff_forall_ne_some]
      intro line hline
      obtain ⟨text, hrefused, -⟩ := refusal?_eq_some_iff.mp hline
      exact hnot text hrefused
    rw [filter_names_log, hnone]
    rfl
  · rw [toList_log_applyEnvironment, List.mem_filterMap] at hline
    obtain ⟨f, -, hrefusal⟩ := hline
    obtain ⟨text, hrefused, rfl⟩ := refusal?_eq_some_iff.mp hrefusal
    exact ⟨f, text, hrefused, rfl⟩

end Settings

end MemoryWatchdog
