import Mathlib.Data.List.Induction
import Mathlib.Data.String.Basic
import MemoryWatchdog.Event

/-!
# Events as objects

An event's kind, the tag of its JSON object and its attributes are made in three ways, and they agree: the tag is the kind, and the
attributes are exactly the other fields. Kind and attributes say everything about an event, except an interval that is no finite number:
`ofAttributes?` reads the event back, and so two events that agree on both are equal (`kind_and_attributes_determine_event`).
-/

namespace MemoryWatchdog

namespace Json

variable {name : String} {value : Json} {fields : List (String × Json)} {f : String × Json}

/-! ## Fields in the order of their names -/

/-- The names of the fields increase, so that no two fields have the same name. -/
def InOrder (fields : List (String × Json)) : Prop :=
  fields.Pairwise fun f g => f.1 < g.1

/-- A field that is there after one was put in is that one, or it was there before. -/
theorem eq_or_mem_of_mem_insertField (h : f ∈ insertField name value fields) : f = (name, value) ∨ f ∈ fields := by
  induction fields with
  | nil => exact .inl (List.mem_singleton.mp h)
  | cons g rest ih =>
    unfold insertField at h
    split at h
    · exact List.mem_cons.mp h
    · split at h
      · exact (List.mem_cons.mp h).imp_right (List.mem_cons_of_mem g)
      · rcases List.mem_cons.mp h with rfl | hrest
        · exact .inr List.mem_cons_self
        · exact (ih hrest).imp_right (List.mem_cons_of_mem g)

/-- A field is put in where its name belongs. -/
theorem InOrder.insertField (h : InOrder fields) : InOrder (insertField name value fields) := by
  induction fields with
  | nil => exact List.pairwise_singleton ..
  | cons g rest ih =>
    obtain ⟨hg, hrest⟩ := List.pairwise_cons.mp h
    unfold Json.insertField
    split
    · refine List.pairwise_cons.mpr ⟨fun f hf => ?_, h⟩
      rcases List.mem_cons.mp hf with rfl | hf
      · assumption
      · exact lt_trans ‹name < g.1› (hg f hf)
    · split
      · refine List.pairwise_cons.mpr ⟨fun f hf => ?_, hrest⟩
        exact ‹name = g.1› ▸ hg f hf
      · refine List.pairwise_cons.mpr ⟨fun f hf => ?_, ih hrest⟩
        rcases eq_or_mem_of_mem_insertField hf with rfl | hf
        · exact lt_of_le_of_ne (not_lt.mp ‹¬ name < g.1›) (Ne.symm ‹¬ name = g.1›)
        · exact hg f hf

/-- A new name only adds its field. -/
theorem insertField_perm (h : ∀ f ∈ fields, f.1 ≠ name) : (insertField name value fields).Perm ((name, value) :: fields) := by
  induction fields with
  | nil => exact .refl _
  | cons g rest ih =>
    unfold insertField
    rw [if_neg (h g List.mem_cons_self).symm]
    split
    · exact .refl _
    · exact ((ih fun f hf => h f (List.mem_cons_of_mem g hf)).cons g).trans (.swap ..)

theorem sorted_append_singleton : sorted (fields ++ [f]) = insertField f.1 f.2 (sorted fields) := by
  rw [sorted, List.foldl_append]
  rfl

/-- Fields that are sorted are in order. -/
theorem sorted_inOrder : InOrder (sorted fields) := by
  induction fields using List.reverseRecOn with
  | nil => exact .nil
  | append_singleton fields f ih =>
    rw [sorted_append_singleton]
    exact ih.insertField

/-- Fields with distinct names are only brought in order. -/
theorem sorted_perm (h : (fields.map (·.1)).Nodup) : (sorted fields).Perm fields := by
  induction fields using List.reverseRecOn with
  | nil => exact .refl _
  | append_singleton fields f ih =>
    rw [List.map_append, List.nodup_append] at h
    obtain ⟨hnodup, -, hdisjoint⟩ := h
    have hperm := ih hnodup
    rw [sorted_append_singleton]
    refine (insertField_perm fun g hg => ?_).trans ((hperm.cons f).trans (List.perm_append_singleton f fields).symm)
    exact hdisjoint g.1 (List.mem_map_of_mem (hperm.mem_iff.mp hg)) f.1 List.mem_cons_self

/-- Where names are distinct, a name has the value that stands beside it. -/
theorem lookup_eq_some_iff (h : (fields.map (·.1)).Nodup) : fields.lookup name = some value ↔ (name, value) ∈ fields := by
  induction fields with
  | nil => simp
  | cons g rest ih =>
    obtain ⟨hg, hrest⟩ := List.nodup_cons.mp h
    obtain ⟨n, v⟩ := g
    by_cases heq : name = n
    · subst heq
      have hnot : (name, value) ∉ rest := fun hmem => hg (List.mem_map.mpr ⟨_, hmem, rfl⟩)
      simp [hnot, eq_comm]
    · simp [List.lookup_cons, beq_eq_false_iff_ne.mpr heq, heq, ih hrest]

/-- So the order of the fields says nothing about what a name has. -/
theorem lookup_eq_of_perm {fields' : List (String × Json)} (hperm : fields.Perm fields') (h : (fields.map (·.1)).Nodup) :
    fields.lookup name = fields'.lookup name := by
  have h' : (fields'.map (·.1)).Nodup := (hperm.map _).nodup_iff.mp h
  refine Option.ext fun value => ?_
  rw [lookup_eq_some_iff h, lookup_eq_some_iff h', hperm.mem_iff]

/-! ## Reading single values -/

/-- The text that a value is. -/
def asText? : Json → Option String
  | .string text => some text
  | _ => none

/-- The texts that a value lists. -/
def asTexts? : Json → Option (List String)
  | .array values => values.mapM asText?
  | _ => none

/-- The count that a value is. -/
def asCount? : Json → Option UInt32
  | .integer n => some (.ofNat n.toNat)
  | _ => none

/-- The finite number that a value is. -/
def asReal? : Json → Option Binary64
  | .real x => some x
  | _ => none

/-- Whether a value is true or false. -/
def asBoolean? : Json → Option Bool
  | .boolean b => some b
  | _ => none

/-- The fields of a value that is an object. -/
def asFields? : Json → Option (List (String × Json))
  | .object fields => some fields
  | _ => none

@[simp] theorem asTexts?_array_map_string (texts : List String) : asTexts? (.array (texts.map .string)) = some texts := by
  simp only [asTexts?]
  induction texts with
  | nil => rfl
  | cons text texts ih => simp [asText?, ih]

@[simp] theorem asCount?_integer_toNat (n : UInt32) : asCount? (.integer n.toNat) = some n := by
  simp [asCount?]

/-- A finite number is written as a number that is it. -/
theorem asReal?_ofBinary64 {x : Binary64} (h : x.isFinite = true) : asReal? (.ofBinary64 x) = some x := by
  rw [ofBinary64, if_pos h]
  rfl

end Json

namespace Event

/-! ## Tag, kind and attributes -/

/-- The tag of an event is its kind. -/
theorem snakeCase_variant (e : Event) : snakeCase e.variant = e.kind := by
  cases e <;> simp only [variant, kind] <;> decide +kernel

/-- The names in an event's object are distinct, the tag's among them. -/
theorem names_nodup (e : Event) : ("event" :: e.fields.map (·.1)).Nodup := by
  cases e <;> simp [fields, strikeFields]

/-- The attributes are the fields in order, with the tag among them before it is taken out. -/
theorem attributes_eq (e : Event) :
    e.attributes = (Json.sorted (("event", .string e.kind) :: e.fields)).filter fun f => f.1 != "event" := by
  rw [attributes, toJson, snakeCase_variant]

/-- The attributes are in order. -/
theorem attributes_inOrder (e : Event) : Json.InOrder e.attributes := by
  rw [attributes_eq]
  exact Json.sorted_inOrder.filter _

/-- Taking the tag out of an object leaves the other fields, none of which has its name. -/
theorem filter_fields (e : Event) : (("event", .string e.kind) :: e.fields).filter (fun f => f.1 != "event") = e.fields := by
  have hother : ∀ f ∈ e.fields, (f.1 != "event") = true := by
    intro f hf
    have hnot := (List.nodup_cons.mp e.names_nodup).1
    exact bne_iff_ne.mpr fun heq => hnot (heq ▸ List.mem_map_of_mem hf)
  rw [List.filter_cons_of_neg (by simp)]
  exact List.filter_eq_self.mpr hother

/-- The attributes are the fields other than the tag. -/
theorem attributes_perm (e : Event) : e.attributes.Perm e.fields := by
  have hperm : (Json.sorted (("event", .string e.kind) :: e.fields)).Perm (("event", .string e.kind) :: e.fields) :=
    Json.sorted_perm e.names_nodup
  have hfiltered := hperm.filter fun f => f.1 != "event"
  rwa [← attributes_eq, filter_fields] at hfiltered

/-- An attribute has the value that its field has. -/
theorem lookup_attributes (e : Event) (name : String) : e.attributes.lookup name = e.fields.lookup name :=
  (Json.lookup_eq_of_perm e.attributes_perm.symm (List.nodup_cons.mp e.names_nodup).2).symm

/-! ## Reading an event back -/

/-- The interval of an event, if it has one, is a finite number. -/
def HasFiniteInterval : Event → Prop
  | .started _ _ sleepSeconds _ => sleepSeconds.isFinite = true
  | _ => True

/-- The event of a kind whose attributes have the given values. -/
def ofAttributes? (kind : String) (value : String → Option Json) : Option Event := do
  let text name := value name >>= Json.asText?
  let count name := value name >>= Json.asCount?
  let payload := value "payload" >>= Json.asFields?
  match kind with
  | "started" =>
    return .started (← value "monitors" >>= Json.asTexts?) (← text "handler") (← value "sleep_interval_secs" >>= Json.asReal?)
      (← value "write_heap_dumps" >>= Json.asBoolean?)
  | "monitor_ok" => return .monitorOk (← text "monitor") (← payload)
  | "monitor_error" => return .monitorError (← text "monitor") (← text "error")
  | "strike_recorded" => return .strikeRecorded (← text "monitor") (← count "strikes") (← count "max_strikes") (← payload)
  | "threshold_exceeded" => return .thresholdExceeded (← text "monitor") (← count "strikes") (← count "max_strikes") (← payload)
  | "heap_dump_requested" => return .heapDumpRequested (← text "monitor")
  | "handler_invoked" => return .handlerInvoked (← text "monitor") (← text "handler")
  | "handler_failed" => return .handlerFailed (← text "monitor") (← text "handler") (← text "error")
  | "stopped" => return .stopped (← text "reason")
  | _ => none

/-- The event is read back from its kind and its fields. -/
theorem ofAttributes?_fields {e : Event} (h : e.HasFiniteInterval) : ofAttributes? e.kind (e.fields.lookup ·) = some e := by
  cases e with
  | started monitors handler sleepSeconds writeHeapDumps =>
    have hreal := Json.asReal?_ofBinary64 h
    simp [ofAttributes?, kind, fields, List.lookup_cons, hreal, Json.asText?, Json.asBoolean?]
  | strikeRecorded | thresholdExceeded => simp [ofAttributes?, kind, fields, strikeFields, List.lookup_cons, Json.asText?, Json.asFields?]
  | _ => simp [ofAttributes?, kind, fields, List.lookup_cons, Json.asText?, Json.asFields?]

/-- Kind and attributes are enough to read an event back. -/
theorem ofAttributes?_attributes {e : Event} (h : e.HasFiniteInterval) : ofAttributes? e.kind (e.attributes.lookup ·) = some e := by
  simp only [lookup_attributes]
  exact ofAttributes?_fields h

/-- An event's object has the kind as its tag, the attributes are the object without its tag and nothing else changed, and two events with
finite intervals that agree on kind and attributes are equal. -/
theorem kind_and_attributes_determine_event (e : Event) :
    (∃ fields, e.toJson = .object fields ∧ (fields.map (·.1)).Nodup ∧ fields.lookup "event" = some (.string e.kind)
      ∧ e.attributes.Perm (fields.filter fun f => f.1 != "event") ∧ Json.InOrder e.attributes
      ∧ ∀ name, e.attributes.lookup name = if name = "event" then none else fields.lookup name)
    ∧ ∀ e', e.HasFiniteInterval → e'.HasFiniteInterval → (e.kind = e'.kind ∧ e.attributes = e'.attributes ↔ e = e') := by
  refine ⟨⟨("event", .string e.kind) :: e.fields, ?_, e.names_nodup, rfl, ?_, e.attributes_inOrder, fun name => ?_⟩, ?_⟩
  · rw [toJson, snakeCase_variant]
  · rw [filter_fields]
    exact e.attributes_perm
  · rw [lookup_attributes]
    split
    · subst name
      rw [List.lookup_eq_none_iff]
      intro f hf
      exact bne_iff_ne.mpr fun heq => (List.nodup_cons.mp e.names_nodup).1 (heq ▸ List.mem_map_of_mem hf)
    · rw [List.lookup_cons, beq_eq_false_iff_ne.mpr ‹_›]
  · intro e' hfinite hfinite'
    constructor
    · rintro ⟨hkind, hattributes⟩
      have hread := ofAttributes?_attributes hfinite
      rw [hkind, hattributes, ofAttributes?_attributes hfinite'] at hread
      exact (Option.some.inj hread).symm
    · rintro rfl
      exact ⟨rfl, rfl⟩

/-- Payloads that differ only in a nested field called like the tag make attributes that differ. -/
theorem nested_tags_told_apart :
    let strike (tag : String) : Event := .strikeRecorded "event" 2 5 [("event", .string tag), ("payload", .object [("monitor", .null)])]
    (strike "strike_recorded").HasFiniteInterval ∧ (strike "stopped").HasFiniteInterval
      ∧ (strike "strike_recorded").kind = (strike "stopped").kind
      ∧ (strike "strike_recorded").attributes ≠ (strike "stopped").attributes := by
  intro strike
  obtain ⟨-, hdetermined⟩ := kind_and_attributes_determine_event (strike "strike_recorded")
  refine ⟨trivial, trivial, rfl, fun hattributes => ?_⟩
  have heq := (hdetermined (strike "stopped") trivial trivial).mp ⟨rfl, hattributes⟩
  simp [strike] at heq

end Event

end MemoryWatchdog
