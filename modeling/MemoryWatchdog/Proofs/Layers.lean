import MemoryWatchdog.Proofs.EnvironmentLayer
import MemoryWatchdog.Proofs.FileLayer

/-!
# The three layers of settings

Settings come from the environment, under it from a file, and under that from the defaults. `load_layers` says where each setting comes
from, on its own: from its variable if that is set to more than blanks and admitted, otherwise from its key if the file has it, and
otherwise from the defaults. It says which files cannot be used, that the environment has no say in that, and that nothing else in the
file has any.
-/

namespace MemoryWatchdog.Settings

/-! ## Where settings come from -/

/-- What is held for the fields at a path: nothing if there is no file, and otherwise what the document in the file holds. -/
inductive Source (path : String) (files : FileTree) : (Field → Option Toml.Value) → Prop
  | absent (missing : files.pathExists path = false) : Source path files fun _ => none
  | document (text : String) (fields : Toml.Fields) (present : files.pathExists path = true) (read : files.readText path = .ok text)
      (decoded : Toml.fieldsOf? text = some fields) : Source path files (held? fields)

/-- The settings at a path cannot be used: there is a file, and it cannot be read as text, or the text is no document, or it holds for
some field a value that denotes none of the field's kind. -/
inductive Unusable (path : String) (files : FileTree) : Prop
  | unreadable (cause : IoError) (present : files.pathExists path = true) (refused : files.readText path = .error cause)
  | undecodable (text : String) (present : files.pathExists path = true) (read : files.readText path = .ok text)
      (refused : Toml.fieldsOf? text = none)
  | wrongValue (text : String) (fields : Toml.Fields) (f : Field) (value : Toml.Value) (present : files.pathExists path = true)
      (read : files.readText path = .ok text) (decoded : Toml.fieldsOf? text = some fields) (holds : held? fields f = some value)
      (outside : ∀ v, ¬ f.kind.Denotes value v)

/-- Where the value of a field comes from. -/
inductive Layered (lookup : String → Option String) (held : Field → Option Toml.Value) (f : Field) : f.kind.Carrier → Prop
  | environment (v : f.kind.Carrier) (overridden : Overrides lookup f v) : Layered lookup held f v
  | file (value : Toml.Value) (v : f.kind.Carrier) (kept : ∀ v', ¬ Overrides lookup f v') (holds : held f = some value)
      (denoted : f.kind.Denotes value v) : Layered lookup held f v
  | default (kept : ∀ v', ¬ Overrides lookup f v') (lacks : held f = none) : Layered lookup held f (({} : Settings).get f)

variable {path : String} {files : FileTree} {lookup : String → Option String}

/-! ## What the file is used for -/

/-- The defaults with what the file at a path puts over them. -/
def fromFile (path : String) (files : FileTree) : Except Error Settings :=
  if files.pathExists path then ofFile path files else .ok {}

/-- The environment is applied to what the file gives, or the defaults. -/
theorem load_fst : (load path files lookup).1 = (fromFile path files).map fun s => (s.applyEnvironment lookup).1 := by
  unfold load fromFile
  by_cases hpresent : files.pathExists path = true
  · simp only [hpresent, if_true]
    cases ofFile path files <;> rfl
  · simp only [hpresent]
    rfl

/-- Only the file makes loading fail. -/
theorem load_eq_error_iff {e : Error} : (load path files lookup).1 = .error e ↔ fromFile path files = .error e := by
  rw [load_fst]
  cases fromFile path files with
  | error e' => simp only [Except.map, Except.error.injEq]
  | ok s => exact iff_of_false nofun nofun

/-- What is loaded is what the file gives, or the defaults, with the environment over it. -/
theorem load_eq_ok_iff_exists {s : Settings} :
    (load path files lookup).1 = .ok s ↔ ∃ base, fromFile path files = .ok base ∧ s = (base.applyEnvironment lookup).1 := by
  rw [load_fst]
  cases fromFile path files with
  | error e =>
    constructor
    · intro h
      cases h
    · rintro ⟨base, hbase, -⟩
      cases hbase
  | ok base =>
    constructor
    · intro h
      exact ⟨base, rfl, (Except.ok.inj h).symm⟩
    · rintro ⟨base', hbase, rfl⟩
      obtain rfl := Except.ok.inj hbase
      rfl

/-- What is held at a path is settled by the files. -/
theorem Source.unique {held held' : Field → Option Toml.Value} (h : Source path files held) (h' : Source path files held') :
    held = held' := by
  cases h with
  | absent missing =>
    cases h' with
    | absent => rfl
    | document _ _ present =>
      rw [missing] at present
      cases present
  | document text fields present read decoded =>
    cases h' with
    | absent missing =>
      rw [missing] at present
      cases present
    | document text' fields' _ read' decoded' =>
      obtain rfl : text = text' := Except.ok.inj (read.symm.trans read')
      obtain rfl : fields = fields' := Option.some.inj (decoded.symm.trans decoded')
      rfl

/-- What is held is put over the defaults. -/
theorem Source.fromFile_eq_ok_iff {held : Field → Option Toml.Value} (h : Source path files held) {s : Settings} :
    fromFile path files = .ok s ↔ ∀ f, Over (held f) f (({} : Settings).get f) (s.get f) := by
  cases h with
  | absent missing =>
    rw [fromFile, missing]
    constructor
    · intro hdefault f
      obtain rfl := Except.ok.inj hdefault
      exact rfl
    · intro hsame
      exact congrArg Except.ok (eq_of_get hsame).symm
  | document text fields present read decoded =>
    rw [fromFile, if_pos present, ofFile, read, ← applyFields_eq_ok_iff (Toml.distinct_fieldsOf? decoded)]
    simp only [ofText, decoded]
    cases applyFields fields {} with
    | ok s' => simp only [Except.ok.injEq]
    | error e => exact iff_of_false nofun nofun

/-- A file that is not used cannot be. -/
theorem fromFile_eq_error_iff : (∃ e, fromFile path files = .error e) ↔ Unusable path files := by
  constructor
  · rintro ⟨e, he⟩
    cases hpresent : files.pathExists path with
    | false =>
      rw [fromFile, hpresent] at he
      cases he
    | true =>
      rw [fromFile, if_pos hpresent, ofFile] at he
      cases hread : files.readText path with
      | error cause => exact .unreadable cause hpresent hread
      | ok text =>
        simp only [hread, ofText] at he
        cases hdecoded : Toml.fieldsOf? text with
        | none => exact .undecodable text hpresent hread hdecoded
        | some fields =>
          simp only [hdecoded] at he
          cases happlied : applyFields fields {} with
          | ok s =>
            rw [happlied] at he
            cases he
          | error wrong =>
            obtain ⟨f, value, holds, outside⟩ := exists_of_applyFields_eq_error (Toml.distinct_fieldsOf? hdecoded) happlied
            exact .wrongValue text fields f value hpresent hread hdecoded holds outside
  · intro hunusable
    cases hunusable with
    | unreadable cause present refused => exact ⟨_, by rw [fromFile, if_pos present, ofFile, refused]⟩
    | undecodable text present read refused =>
      refine ⟨.notToml path, ?_⟩
      rw [fromFile, if_pos present, ofFile, read]
      simp only [ofText, refused]
    | wrongValue text fields f value present read decoded holds outside =>
      cases hfile : fromFile path files with
      | error e => exact ⟨e, rfl⟩
      | ok s =>
        have hover := (Source.document text fields present read decoded).fromFile_eq_ok_iff.mp hfile f
        rw [holds] at hover
        exact absurd hover (outside _)

/-- What a file holds that is used is known. -/
theorem exists_source {s : Settings} (h : fromFile path files = .ok s) : ∃ held, Source path files held := by
  have husable : ¬ Unusable path files := by
    rw [← fromFile_eq_error_iff, h]
    rintro ⟨e, he⟩
    cases he
  cases hpresent : files.pathExists path with
  | false => exact ⟨_, .absent hpresent⟩
  | true =>
    cases hread : files.readText path with
    | error cause => exact absurd (.unreadable cause hpresent hread) husable
    | ok text =>
      cases hdecoded : Toml.fieldsOf? text with
      | none => exact absurd (.undecodable text hpresent hread hdecoded) husable
      | some fields => exact ⟨_, .document text fields hpresent hread hdecoded⟩

theorem Unusable.present (h : Unusable path files) : files.pathExists path = true := by
  cases h with
  | unreadable _ present => exact present
  | undecodable _ present => exact present
  | wrongValue _ _ _ _ present => exact present

/-- A file can be used if all that it holds for fields denotes values of their kinds. -/
theorem Source.usable {held : Field → Option Toml.Value} (h : Source path files held)
    (hdenotes : ∀ f value, held f = some value → ∃ v, f.kind.Denotes value v) : ¬ Unusable path files := by
  intro hunusable
  cases h with
  | absent missing =>
    have hpresent := hunusable.present
    rw [missing] at hpresent
    cases hpresent
  | document text fields present read decoded =>
    cases hunusable with
    | unreadable cause _ refused =>
      rw [read] at refused
      cases refused
    | undecodable text' _ read' refused =>
      obtain rfl : text = text' := Except.ok.inj (read.symm.trans read')
      rw [decoded] at refused
      cases refused
    | wrongValue text' fields' f value _ read' decoded' holds outside =>
      obtain rfl : text = text' := Except.ok.inj (read.symm.trans read')
      obtain rfl : fields = fields' := Option.some.inj (decoded.symm.trans decoded')
      obtain ⟨v, hv⟩ := hdenotes f value holds
      exact outside v hv

/-! ## The layers together -/

/-- The layers of a field over its default: what the environment overrides it with, and otherwise what the file has put there. -/
theorem layered_iff {held : Field → Option Toml.Value} {f : Field} {base v : f.kind.Carrier}
    (hbase : Over (held f) f (({} : Settings).get f) base) : Layered lookup held f v ↔ v = (override? lookup f).getD base := by
  cases hoverride : override? lookup f with
  | some v₀ =>
    have hoverridden : Overrides lookup f v₀ := override?_eq_some_iff.mp hoverride
    rw [Option.getD_some]
    constructor
    · intro h
      cases h with
      | environment _ overridden =>
        rw [override?_eq_some_iff.mpr overridden] at hoverride
        exact Option.some.inj hoverride
      | file _ _ kept => exact absurd hoverridden (kept v₀)
      | default kept => exact absurd hoverridden (kept v₀)
    · rintro rfl
      exact .environment v hoverridden
  | none =>
    have hkept : ∀ v', ¬ Overrides lookup f v' := by
      intro v' hoverridden
      rw [override?_eq_some_iff.mpr hoverridden] at hoverride
      cases hoverride
    rw [Option.getD_none]
    cases hheld : held f with
    | none =>
      rw [hheld] at hbase
      obtain rfl : base = ({} : Settings).get f := hbase
      constructor
      · intro h
        cases h with
        | environment _ overridden => exact absurd overridden (hkept v)
        | file value _ _ holds =>
          rw [hheld] at holds
          cases holds
        | default => rfl
      · rintro rfl
        exact .default hkept hheld
    | some value =>
      rw [hheld] at hbase
      have hdenoted : f.kind.Denotes value base := hbase
      constructor
      · intro h
        cases h with
        | environment _ overridden => exact absurd overridden (hkept v)
        | file value' _ _ holds denoted =>
          obtain rfl : value = value' := Option.some.inj (hheld.symm.trans holds)
          exact denoted.unique hdenoted
        | default _ lacks =>
          rw [hheld] at lacks
          cases lacks
      · rintro rfl
        exact .file value v hkept hheld hdenoted

/-- With what is held at a path, loading gives settings exactly if that denotes values, and then each setting is that of its layers. -/
theorem Source.load_eq_ok_iff {held : Field → Option Toml.Value} (h : Source path files held) {s : Settings} :
    (load path files lookup).1 = .ok s ↔
      (∀ f value, held f = some value → ∃ v, f.kind.Denotes value v) ∧ ∀ f, Layered lookup held f (s.get f) := by
  rw [load_eq_ok_iff_exists]
  constructor
  · rintro ⟨base, hbase, rfl⟩
    have hover := h.fromFile_eq_ok_iff.mp hbase
    refine ⟨fun f value hheld => ⟨base.get f, ?_⟩, fun f => ?_⟩
    · have hdenoted := hover f
      rw [hheld] at hdenoted
      exact hdenoted
    · rw [layered_iff (hover f), get_applyEnvironment]
  · rintro ⟨hdenotes, hlayered⟩
    cases hbase : fromFile path files with
    | error e => exact absurd (fromFile_eq_error_iff.mp ⟨e, hbase⟩) (h.usable hdenotes)
    | ok base =>
      have hover := h.fromFile_eq_ok_iff.mp hbase
      refine ⟨base, rfl, eq_of_get fun f => ?_⟩
      rw [get_applyEnvironment]
      exact (layered_iff (hover f)).mp (hlayered f)

/-- Loading gives settings exactly if what the file holds for fields, if there is one, denotes values of their kinds, and then each field
on its own has the value of the environment if that overrides it, otherwise the one that the file holds, and otherwise its default. It
fails exactly if the file cannot be used, whatever the environment is. Two places that hold the same for the fields give the same,
whatever else their files hold. -/
theorem load_layers (path : String) (files : FileTree) (lookup : String → Option String) :
    (∀ s, (load path files lookup).1 = .ok s ↔
        ∃ held, Source path files held
          ∧ (∀ f value, held f = some value → ∃ v, f.kind.Denotes value v)
          ∧ ∀ f, Layered lookup held f (s.get f))
      ∧ ((∃ e, (load path files lookup).1 = .error e) ↔ Unusable path files)
      ∧ (∀ lookup' e, (load path files lookup).1 = .error e ↔ (load path files lookup').1 = .error e)
      ∧ ∀ path' files' held, Source path files held → Source path' files' held →
          ∀ s, (load path files lookup).1 = .ok s ↔ (load path' files' lookup).1 = .ok s := by
  refine ⟨fun s => ⟨fun h => ?_, fun h => ?_⟩, ?_, fun lookup' e => ?_, fun path' files' held h h' s => ?_⟩
  · obtain ⟨base, hbase, -⟩ := load_eq_ok_iff_exists.mp h
    obtain ⟨held, hsource⟩ := exists_source hbase
    exact ⟨held, hsource, hsource.load_eq_ok_iff.mp h⟩
  · obtain ⟨held, hsource, hlayers⟩ := h
    exact hsource.load_eq_ok_iff.mpr hlayers
  · simp only [load_eq_error_iff, fromFile_eq_error_iff]
  · rw [load_eq_error_iff, load_eq_error_iff]
  · rw [h.load_eq_ok_iff, h'.load_eq_ok_iff]

end MemoryWatchdog.Settings
