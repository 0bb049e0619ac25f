import Mathlib.Data.List.Nodup
import MemoryWatchdog.Toml.Document

/-!
# The keys of a document

However a document is written, with dotted keys, inline tables and sections, no key of its top table stands there twice:
`distinct_fieldsOf?`. So the order in which the fields are read decides nothing.
-/

namespace MemoryWatchdog.Toml

namespace Fields

/-- The keys of a table, in order. -/
def keys (fields : Fields) : List String :=
  fields.map fun field => field.1.text

/-- No key stands twice. -/
def Distinct (fields : Fields) : Prop :=
  fields.keys.Nodup

/-- A change of what a key holds keeps the keys; if the key is new, it comes to the end. -/
theorem keys_alter {key : Key} {change : Option (Option Span × Value) → Option (Option Span × Value)} {fields fields' : Fields}
    (h : fields.alter key change = some fields') :
    fields'.keys = fields.keys ∨ (key.text ∉ fields.keys ∧ fields'.keys = fields.keys ++ [key.text]) := by
  induction fields generalizing fields' with
  | nil =>
    rw [alter, Option.map_eq_some_iff] at h
    obtain ⟨held, -, rfl⟩ := h
    exact .inr ⟨List.not_mem_nil, rfl⟩
  | cons field rest ih =>
    obtain ⟨k, held⟩ := field
    rw [alter] at h
    split at h
    · rw [Option.map_eq_some_iff] at h
      obtain ⟨held', -, rfl⟩ := h
      exact .inl rfl
    · next hne =>
      rw [Option.map_eq_some_iff] at h
      obtain ⟨rest', hrest, rfl⟩ := h
      rcases ih hrest with hsame | ⟨hnew, hlast⟩
      · exact .inl (congrArg (k.text :: ·) hsame)
      · refine .inr ⟨?_, congrArg (k.text :: ·) hlast⟩
        rw [keys, List.map_cons, List.mem_cons, not_or]
        exact ⟨fun heq => hne heq.symm, hnew⟩

/-- So keys that are distinct stay so. -/
theorem Distinct.alter {key : Key} {change : Option (Option Span × Value) → Option (Option Span × Value)} {fields fields' : Fields}
    (hdistinct : fields.Distinct) (h : fields.alter key change = some fields') : fields'.Distinct := by
  unfold Distinct
  rcases keys_alter h with hsame | ⟨hnew, hlast⟩
  · rw [hsame]
    exact hdistinct
  · rw [hlast, List.nodup_append]
    refine ⟨hdistinct, List.nodup_singleton _, fun text htext other hother => ?_⟩
    rw [List.mem_singleton.mp hother]
    exact fun heq => hnew (heq ▸ htext)

/-- A change at the end of a path keeps the keys of the whole distinct, if where the path ends at once it does. -/
theorem Distinct.within {fresh : Origin} {enters : Origin → Bool} {change : Origin → Fields → Option Fields} {path : List Key}
    {origin : Origin} {fields fields' : Fields}
    (hchange : ∀ {fields' : Fields}, change origin fields = some fields' → fields'.Distinct) (hdistinct : fields.Distinct)
    (h : Fields.within fresh enters change path origin fields = some fields') : fields'.Distinct := by
  cases path with
  | nil =>
    rw [Fields.within] at h
    exact hchange h
  | cons key path =>
    rw [Fields.within] at h
    exact hdistinct.alter h

/-- A value that is put under a path keeps the keys distinct, wherever the path ends. -/
theorem Distinct.insert {path : List Key} {key : Key} {held : Option Span × Value} {origin : Origin} {fields fields' : Fields}
    (hdistinct : fields.Distinct) (h : fields.insert path key held origin = some fields') : fields'.Distinct := by
  refine hdistinct.within (fun hchange => ?_) h
  split at hchange
  · cases hchange
  · exact hdistinct.alter hchange

/-- So do values that are put in one after the other. -/
theorem Distinct.insertAll {origin : Origin} {entries : List Entry} {fields fields' : Fields} (hdistinct : fields.Distinct)
    (h : Fields.insertAll origin entries fields = some fields') : fields'.Distinct := by
  induction entries generalizing fields with
  | nil =>
    obtain rfl := Option.some.inj h
    exact hdistinct
  | cons e entries ih =>
    rw [Fields.insertAll, Option.bind_eq_bind, Option.bind_eq_some_iff] at h
    obtain ⟨inserted, hinsert, hrest⟩ := h
    exact ih (hdistinct.insert hinsert) hrest

theorem keys_erase (text : String) (fields : Fields) : (fields.erase text).keys = fields.keys.filter (· != text) := by
  simp [keys, erase, List.filter_map, Function.comp_def]

/-- A key that moves to the end stands there only. -/
theorem Distinct.moveToEnd {key : Key} {held : Option Span × Value} {fields : Fields} (hdistinct : fields.Distinct) :
    (fields.erase key.text ++ [(key, held)]).Distinct := by
  have hkeys : (fields.erase key.text ++ [(key, held)]).keys = fields.keys.filter (· != key.text) ++ [key.text] := by
    rw [← keys_erase]
    simp [keys]
  rw [Distinct, hkeys, List.nodup_append]
  refine ⟨hdistinct.filter _, List.nodup_singleton _, fun text htext other hother => ?_⟩
  rw [List.mem_singleton.mp hother]
  simpa using (List.mem_filter.mp htext).2

end Fields

/-- A section keeps the keys distinct, whether it is new or goes on with a table. -/
theorem Fields.Distinct.addTo {s : Section} {fields fields' : Fields} (hdistinct : fields.Distinct)
    (h : s.addTo fields = some fields') : fields'.Distinct := by
  refine hdistinct.within (fun {added} hchange => ?_) h
  split at hchange
  · rw [Option.bind_eq_bind, Option.bind_eq_some_iff] at hchange
    obtain ⟨table, -, halter⟩ := hchange
    exact hdistinct.alter halter
  · have hmoved : ∀ inner : Fields, ((Fields.insertAll .header s.entries inner).bind fun table =>
        some (fields.erase s.header.key.text ++ [(s.header.key, some s.span, .table .header table)])) = some added →
          added.Distinct := by
      intro inner h
      obtain ⟨table, -, hlast⟩ := Option.bind_eq_some_iff.mp h
      rw [← Option.some.inj hlast]
      exact hdistinct.moveToEnd
    split at hchange
    · exact hmoved [] hchange
    · next inner _ => exact hmoved inner hchange
    · cases hchange

/-- So do all sections of a document. -/
theorem Fields.Distinct.addSections {sections : List Section} {fields fields' : Fields} (hdistinct : fields.Distinct)
    (h : Toml.addSections sections fields = some fields') : fields'.Distinct := by
  induction sections generalizing fields with
  | nil =>
    obtain rfl := Option.some.inj h
    exact hdistinct
  | cons s sections ih =>
    rw [Toml.addSections, Option.bind_eq_bind, Option.bind_eq_some_iff] at h
    obtain ⟨added, hadd, hrest⟩ := h
    exact ih (hdistinct.addTo hadd) hrest

/-- No key stands twice in a document. -/
theorem distinct_fieldsOf? {text : String} {fields : Fields} (h : fieldsOf? text = some fields) : fields.Distinct := by
  simp only [fieldsOf?, Option.bind_eq_bind, Option.bind_eq_some_iff] at h
  obtain ⟨⟨read, rest⟩, -, entered, hentries, hsections⟩ := h
  have hnone : Fields.Distinct [] := List.nodup_nil
  exact (hnone.insertAll hentries).addSections hsections

end MemoryWatchdog.Toml
