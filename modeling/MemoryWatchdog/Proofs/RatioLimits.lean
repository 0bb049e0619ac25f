import MemoryWatchdog.Monitor.Limits
import MemoryWatchdog.Proofs.FileOperations
import MemoryWatchdog.Proofs.Layers
import MemoryWatchdog.Proofs.Overrides

/-!
# Ratios as limits

Whether the ratios that are loaded can be limits. The defaults can, and the environment sets only such as can; the file is not asked. So a
loaded ratio can be a limit unless the file decides it and holds a number that cannot be one: `loaded_ratios_usable_iff`. Such a file
exists, and a limit that is no number turns its monitor off: `exists_limit_never_violated`.
-/

namespace MemoryWatchdog

/-- A number can be a limit if it is finite and not below zero. -/
theorem Binary64.usable_iff {x : Binary64} : x.Usable ↔ x.isNonNegative = true := by
  cases x with
  | finite negative magnitude => simp [Usable, isNonNegative]
  | _ => simp [Usable, isNonNegative]

namespace Settings

variable {path : String} {files : FileTree} {lookup : String → Option String} {f : Field} {s : Settings}

/-! ## Requirements on single fields -/

/-- The file decides a field, and against a requirement: what is held for the field denotes a value that does not meet the requirement, and
the environment does not override the field. -/
structure DecidedAgainst (lookup : String → Option String) (held : Field → Option Toml.Value) (f : Field) (P : f.kind.Carrier → Prop) :
    Prop where
  unmet : ∃ value v, held f = some value ∧ f.kind.Denotes value v ∧ ¬P v
  kept : ∀ w, ¬Overrides lookup f w

/-- A requirement that the default meets, and every value that is admitted from a text, is met unless the file decides against it. -/
theorem Layered.meets_iff {held : Field → Option Toml.Value} {v : f.kind.Carrier} {P : f.kind.Carrier → Prop}
    (h : Layered lookup held f v) (hdefault : P (({} : Settings).get f)) (hadmitted : ∀ text w, f.kind.Admits text w → P w) :
    P v ↔ ¬DecidedAgainst lookup held f P := by
  cases h with
  | environment _ overridden =>
    have hmet : P v := by
      obtain ⟨text, -, -, hadmits⟩ := overridden
      exact hadmitted _ _ hadmits
    exact iff_of_true hmet fun hagainst => hagainst.kept _ overridden
  | file value _ kept holds denoted =>
    constructor
    · rintro hmet ⟨⟨value', w, hholds, hdenoted, hunmet⟩, -⟩
      obtain rfl := Option.some.inj (holds.symm.trans hholds)
      rw [hdenoted.unique denoted] at hunmet
      exact hunmet hmet
    · intro hnot
      by_contra hunmet
      exact hnot ⟨⟨value, v, holds, denoted, hunmet⟩, kept⟩
  | default _ lacks =>
    refine iff_of_true hdefault ?_
    rintro ⟨⟨value, w, hholds, -⟩, -⟩
    rw [lacks] at hholds
    cases hholds

/-! ## Ratios -/

/-- The environment sets no ratio that cannot be a limit. -/
theorem usable_of_admits {text : String} {x : Binary64} (h : Kind.Admits .ratio text x) : x.Usable :=
  (Kind.admits_ratio_iff.mp h).2

/-- Whatever settings are loaded, each of their two ratios can be a limit unless the file decides it with a number that cannot. -/
theorem loaded_ratios_usable_iff (h : (load path files lookup).1 = .ok s) :
    ∃ held, Source path files held
      ∧ (s.maxFragmentation.Usable ↔ ¬DecidedAgainst lookup held .maxFragmentation Binary64.Usable)
      ∧ (s.maxGrowth.Usable ↔ ¬DecidedAgainst lookup held .maxGrowth Binary64.Usable) := by
  obtain ⟨base, hbase, -⟩ := load_eq_ok_iff_exists.mp h
  obtain ⟨held, hsource⟩ := exists_source hbase
  have hlayered : ∀ f, Layered lookup held f (s.get f) := (hsource.load_eq_ok_iff.mp h).2
  refine ⟨held, hsource, (hlayered .maxFragmentation).meets_iff ?_ fun _ _ => usable_of_admits,
    (hlayered .maxGrowth).meets_iff ?_ fun _ _ => usable_of_admits⟩
  · exact Binary64.usable_iff.mpr (by decide +kernel)
  · exact Binary64.usable_iff.mpr (by decide +kernel)

/-! ## A file that turns a monitor off -/

/-- One file, called `a`, with a text. -/
def oneFile (text : String) : FileTree :=
  { nodes := [(["a"], .file text.toUTF8)] }

theorem find_oneFile (text : String) : (oneFile text).find "a" = .ok (.entry ["a"]) :=
  FileTree.find_of_name (c := 'a') (by decide) (by decide) (by decide) (by decide) (by decide)

theorem pathExists_oneFile (text : String) : (oneFile text).pathExists "a" = true := by
  have hslash : FileTree.endsInSlash "a" = false := by decide +kernel
  rw [FileTree.pathExists, find_oneFile]
  simp [FileTree.node?, oneFile, hslash]

theorem readText_oneFile (text : String) : (oneFile text).readText "a" = .ok text :=
  FileTree.readText_of_find (find_oneFile text) (by decide +kernel) rfl

/-- A file that sets the highest fragmentation to no number. -/
def withoutNumber : FileTree :=
  oneFile "max_heap_fragmentation = nan"

/-- The file is loaded as it is. -/
theorem exists_loaded_withoutNumber : ∃ s, (load "a" withoutNumber fun _ => none).1 = .ok s ∧ s.maxFragmentation = .nan := by
  have hread : (ofText "a" "max_heap_fragmentation = nan").toOption.map maxFragmentation = some .nan := by decide +kernel
  cases hs : ofText "a" "max_heap_fragmentation = nan" with
  | error e =>
    rw [hs] at hread
    cases hread
  | ok s =>
    rw [hs] at hread
    have hbase : fromFile "a" withoutNumber = .ok s := by
      rw [fromFile, withoutNumber, pathExists_oneFile, if_pos rfl, ofFile, readText_oneFile]
      exact hs
    have hkept : (s.applyEnvironment fun _ => none).1.get .maxFragmentation = s.get .maxFragmentation := by
      refine get_applyEnvironment_of_kept ?_
      rintro v ⟨text, hset, -⟩
      cases hset
    exact ⟨_, load_eq_ok_iff_exists.mpr ⟨s, hbase, rfl⟩, hkept.trans (Option.some.inj hread)⟩

/-- The settings that are loaded from it have their ratios decided as all settings have. -/
theorem loaded_withoutNumber :
    ∃ s, (load "a" withoutNumber fun _ => none).1 = .ok s
      ∧ ∃ held, Source "a" withoutNumber held
        ∧ (s.maxFragmentation.Usable ↔ ¬DecidedAgainst (fun _ => none) held .maxFragmentation Binary64.Usable)
        ∧ (s.maxGrowth.Usable ↔ ¬DecidedAgainst (fun _ => none) held .maxGrowth Binary64.Usable) := by
  obtain ⟨s, hloaded, -⟩ := exists_loaded_withoutNumber
  exact ⟨s, hloaded, loaded_ratios_usable_iff hloaded⟩

/-- A file can set a limit that is no number, and then no heap violates it. -/
theorem exists_limit_never_violated :
    ∃ s, (load "a" withoutNumber fun _ => none).1 = .ok s ∧ ¬s.maxFragmentation.Usable
      ∧ ∀ heap, (Monitor.judgeHeap s.maxFragmentation heap).violated = false := by
  obtain ⟨s, hloaded, hnan⟩ := exists_loaded_withoutNumber
  refine ⟨s, hloaded, ?_, fun heap => ?_⟩
  · rw [hnan, Binary64.usable_iff]
    exact nofun
  · rw [hnan]
    rfl

end Settings

end MemoryWatchdog
