import MemoryWatchdog.Proofs.DistinctKeys
import MemoryWatchdog.Settings.File

/-!
# The layer of the file

What a value in a file denotes for each kind of setting, said without the reading: `Kind.ofToml_eq_ok_iff`. A document puts what it holds
for each field over the settings and leaves the other fields as they are (`applyFields_eq_ok_iff`); it is refused only if it holds for
some field a value that denotes none of the field's kind (`exists_of_applyFields_eq_error`).
-/

namespace MemoryWatchdog.Settings

/-! ## What is denoted -/

/-- A value in a file denotes one of a kind: a truth value, a text, an integer in the range of the kind, or for a ratio a real or an
integer. -/
inductive Kind.Denotes : (k : Kind) → Toml.Value → k.Carrier → Prop
  | flag (b : Bool) : Denotes .flag (.boolean b) b
  | number (n : UInt64) : Denotes .number (.integer n.toNat) n
  | count (n : UInt32) : Denotes .count (.integer n.toNat) n
  | ratio (x : Binary64) : Denotes .ratio (.real x) x
  | wholeRatio (n : Int) : Denotes .ratio (.integer n) (.ofRat n)
  | path (text : String) : Denotes .path (.string text) text

/-- An integer that can be a number is this number. -/
theorem Kind.ofToml_number (n : UInt64) : Kind.ofToml .number (.integer n.toNat) = .ok n := by
  have hlt : (n.toNat : Int) < UInt64.size := Int.ofNat_lt.mpr n.toNat_lt_size
  simp only [ofToml]
  rw [if_pos ⟨Int.natCast_nonneg _, hlt⟩, Int.toNat_natCast, UInt64.ofNat_toNat]

/-- An integer that can be a count is this count. -/
theorem Kind.ofToml_count (n : UInt32) : Kind.ofToml .count (.integer n.toNat) = .ok n := by
  have hlt : (n.toNat : Int) < UInt32.size := Int.ofNat_lt.mpr n.toNat_lt_size
  simp only [ofToml]
  rw [if_pos ⟨Int.natCast_nonneg _, hlt⟩, Int.toNat_natCast, UInt32.ofNat_toNat]

/-- A value in a file is read as what it denotes, and only as that. -/
theorem Kind.ofToml_eq_ok_iff {k : Kind} {value : Toml.Value} {v : k.Carrier} : k.ofToml value = .ok v ↔ k.Denotes value v := by
  constructor
  · intro h
    cases k with
    | flag =>
      cases value with
      | boolean b =>
        cases h
        exact .flag _
      | _ => cases h
    | number =>
      cases value with
      | integer n =>
        simp only [ofToml] at h
        split at h
        · next hrange =>
          cases h
          have hn : ((UInt64.ofNat n.toNat).toNat : Int) = n := by
            rw [UInt64.toNat_ofNat_of_lt' (by omega)]
            omega
          have hdenotes := Denotes.number (.ofNat n.toNat)
          rwa [hn] at hdenotes
        · cases h
      | _ => cases h
    | count =>
      cases value with
      | integer n =>
        simp only [ofToml] at h
        split at h
        · next hrange =>
          cases h
          have hn : ((UInt32.ofNat n.toNat).toNat : Int) = n := by
            rw [UInt32.toNat_ofNat_of_lt' (by omega)]
            omega
          have hdenotes := Denotes.count (.ofNat n.toNat)
          rwa [hn] at hdenotes
        · cases h
      | _ => cases h
    | ratio =>
      cases value with
      | real x =>
        cases h
        exact .ratio _
      | integer n =>
        cases h
        exact .wholeRatio _
      | _ => cases h
    | path =>
      cases value with
      | string text =>
        cases h
        exact .path _
      | _ => cases h
  · intro h
    cases h with
    | flag b => rfl
    | number n => exact ofToml_number n
    | count n => exact ofToml_count n
    | ratio x => rfl
    | wholeRatio n => rfl
    | path text => rfl

/-- A value denotes at most one value of a kind. -/
theorem Kind.Denotes.unique {k : Kind} {value : Toml.Value} {v v' : k.Carrier} (h : k.Denotes value v) (h' : k.Denotes value v') :
    v = v' := by
  have hread := ofToml_eq_ok_iff.mpr h
  rw [ofToml_eq_ok_iff.mpr h'] at hread
  exact (Except.ok.inj hread).symm

/-! ## What a document holds -/

/-- What a document holds for a field. -/
def held? (fields : Toml.Fields) (f : Field) : Option Toml.Value :=
  (fields.get? f.key).map Prod.snd

/-- A value of a field over another: what is held for the field denotes it, or nothing is held and it is that other. -/
def Over (held : Option Toml.Value) (f : Field) (under v : f.kind.Carrier) : Prop :=
  match held with
  | none => v = under
  | some value => f.kind.Denotes value v

/-- A key is that of one field. -/
theorem Field.ofKey?_eq_some_iff {key : String} {f : Field} : ofKey? key = some f ↔ f.key = key := by
  constructor
  · intro h
    simpa using List.find?_some h
  · intro h
    cases hfound : ofKey? key with
    | none =>
      have hnot := List.find?_eq_none.mp hfound f (mem_all f)
      simp [h] at hnot
    | some g =>
      have hg : g.key = key := by simpa using List.find?_some hfound
      rw [key_injective (hg.trans h.symm)]

/-- Of fields, the first with the key of a field decides. -/
theorem held?_cons (key : Toml.Key) (held : Option Span × Toml.Value) (rest : Toml.Fields) (f : Field) :
    held? ((key, held) :: rest) f = if key.text = f.key then some held.2 else held? rest f := by
  unfold held? Toml.Fields.get?
  rw [List.find?_cons]
  by_cases h : key.text = f.key
  · rw [if_pos h, show (key.text == f.key) = true from beq_iff_eq.mpr h]
    rfl
  · rw [if_neg h, show (key.text == f.key) = false from beq_eq_false_iff_ne.mpr h]

theorem held?_eq_none {fields : Toml.Fields} {f : Field} (h : f.key ∉ fields.keys) : held? fields f = none := by
  have hnot : fields.find? (·.1.text == f.key) = none := by
    rw [List.find?_eq_none]
    intro field hfield heq
    exact h (List.mem_map.mpr ⟨field, hfield, by simpa using heq⟩)
  simp [held?, Toml.Fields.get?, hnot]

/-- A document whose keys are distinct puts what it holds for each field over the settings. -/
theorem applyFields_eq_ok_iff {fields : Toml.Fields} (hdistinct : fields.Distinct) {s s' : Settings} :
    applyFields fields s = .ok s' ↔ ∀ f, Over (held? fields f) f (s.get f) (s'.get f) := by
  induction fields generalizing s with
  | nil =>
    constructor
    · intro h f
      cases h
      exact rfl
    · intro h
      exact congrArg Except.ok (eq_of_get h).symm
  | cons field rest ih =>
    obtain ⟨key, span, value⟩ := field
    have hnew : key.text ∉ Toml.Fields.keys rest := (List.nodup_cons.mp hdistinct).1
    have hrest := @ih (List.nodup_cons.mp hdistinct).2
    simp only [held?_cons]
    rw [applyFields]
    cases hkey : Field.ofKey? key.text with
    | none =>
      have hother : ∀ f : Field, key.text ≠ f.key := by
        intro f hf
        rw [Field.ofKey?_eq_some_iff.mpr hf.symm] at hkey
        cases hkey
      simp only [hother, if_false]
      exact hrest
    | some g =>
      have hg : g.key = key.text := Field.ofKey?_eq_some_iff.mp hkey
      have hlater : held? rest g = none := held?_eq_none (hg ▸ hnew)
      have hother : ∀ f, g ≠ f → key.text ≠ f.key := fun f hne heq => hne (Field.key_injective (hg.trans heq))
      dsimp only
      cases hvalue : g.kind.ofToml value with
      | error m =>
        refine iff_of_false nofun fun h => ?_
        have hdenotes := h g
        rw [if_pos hg.symm] at hdenotes
        have hread := Kind.ofToml_eq_ok_iff.mpr hdenotes
        rw [hvalue] at hread
        cases hread
      | ok v =>
        refine hrest.trans (forall_congr' fun f => ?_)
        by_cases hgf : g = f
        · subst hgf
          rw [hlater, if_pos hg.symm]
          show s'.get g = (s.set g v).get g ↔ g.kind.Denotes value (s'.get g)
          rw [get_set_self, ← Kind.ofToml_eq_ok_iff, hvalue, Except.ok.injEq, eq_comm]
        · rw [if_neg (hother f hgf), get_set_of_ne s v hgf]

/-- A document is refused for a value that denotes none of its field's kind. -/
theorem exists_of_applyFields_eq_error {fields : Toml.Fields} (hdistinct : fields.Distinct) {s : Settings} {e : Span × Mismatch}
    (h : applyFields fields s = .error e) : ∃ f value, held? fields f = some value ∧ ∀ v, ¬ f.kind.Denotes value v := by
  induction fields generalizing s with
  | nil => cases h
  | cons field rest ih =>
    obtain ⟨key, span, value⟩ := field
    have hnew : key.text ∉ Toml.Fields.keys rest := (List.nodup_cons.mp hdistinct).1
    have hlater : ∀ {s}, applyFields rest s = .error e →
        ∃ f value', held? ((key, span, value) :: rest) f = some value' ∧ ∀ v, ¬ f.kind.Denotes value' v := by
      intro s hrest
      obtain ⟨f, value', holds, outside⟩ := ih (List.nodup_cons.mp hdistinct).2 hrest
      have hne : key.text ≠ f.key := by
        intro heq
        rw [held?_eq_none (heq ▸ hnew)] at holds
        cases holds
      exact ⟨f, value', by rw [held?_cons, if_neg hne, holds], outside⟩
    rw [applyFields] at h
    cases hkey : Field.ofKey? key.text with
    | none =>
      rw [hkey] at h
      exact hlater h
    | some g =>
      rw [hkey] at h
      dsimp only at h
      cases hvalue : g.kind.ofToml value with
      | error m =>
        refine ⟨g, value, by rw [held?_cons, if_pos (Field.ofKey?_eq_some_iff.mp hkey).symm], fun v hdenotes => ?_⟩
        rw [Kind.ofToml_eq_ok_iff.mpr hdenotes] at hvalue
        cases hvalue
      | ok v =>
        rw [hvalue] at h
        exact hlater h

end MemoryWatchdog.Settings
