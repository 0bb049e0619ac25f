import Mathlib.Logic.Relation
import MemoryWatchdog.Proofs.FileLocations

/-!
# What file operations do

Each operation by what it leaves in the tree it is given. One that fails leaves the tree as it is, but for the making of directories,
which keeps those it made (`makes_makeDirectories`); a file that is written is put at its place (`writeFile_cases`), and one that is
moved is gone from the one place and put at the other, where no directory was (`rename_cases`). A tree that has the directories of
another has them at the ends of the same paths (`find_of_keepsDirectories`).
-/

namespace MemoryWatchdog

namespace FileTree

variable {t t' : FileTree}

/-! ## Entries -/

theorem lookup_insert_self (loc : Location) (node : Node) (nodes : List (Location × Node)) :
    (insert loc node nodes).lookup loc = some node := by
  induction nodes with
  | nil => simp [insert]
  | cons e rest ih =>
    obtain ⟨l, n⟩ := e
    by_cases heq : loc = l
    · simp [insert, heq]
    · by_cases hlt : loc < l
      · simp [insert, heq, hlt]
      · simp [insert, heq, hlt, List.lookup_cons, beq_false_of_ne heq, ih]

theorem lookup_insert_of_ne {loc other : Location} (h : other ≠ loc) (node : Node) (nodes : List (Location × Node)) :
    (insert loc node nodes).lookup other = nodes.lookup other := by
  have hother := beq_false_of_ne h
  induction nodes with
  | nil => simp [insert, List.lookup_cons, hother]
  | cons e rest ih =>
    obtain ⟨l, n⟩ := e
    by_cases heq : loc = l
    · subst heq
      simp [insert, List.lookup_cons, hother]
    · by_cases hlt : loc < l
      · simp [insert, heq, hlt, List.lookup_cons, hother]
      · simp [insert, heq, hlt, List.lookup_cons, ih]

/-- What was put into a tree is found there, unless it was put at the root. -/
theorem node?_put_self {loc : Location} (h : loc ≠ []) (node : Node) : (t.put loc node).node? loc = some node := by
  rw [node?, if_neg h]
  exact lookup_insert_self loc node t.nodes

/-- Everything else in the tree is found as it was. -/
theorem node?_put_of_ne {loc other : Location} (h : other ≠ loc) (node : Node) : (t.put loc node).node? other = t.node? other := by
  rw [node?, node?]
  split
  · rfl
  · exact lookup_insert_of_ne h node t.nodes

/-- What was taken out of a tree is not found any more. -/
theorem node?_erase_self {loc : Location} (h : loc ≠ []) : (t.erase loc).node? loc = none := by
  rw [node?, if_neg h, List.lookup_eq_none_iff]
  intro e he
  have hne : (e.1 != loc) = true := (List.mem_filter.mp he).2
  rw [bne_comm] at hne
  simpa using hne

theorem lookup_filter_of_ne {loc other : Location} (h : other ≠ loc) (nodes : List (Location × Node)) :
    (nodes.filter fun e => e.1 != loc).lookup other = nodes.lookup other := by
  induction nodes with
  | nil => rfl
  | cons e rest ih =>
    obtain ⟨l, n⟩ := e
    by_cases heq : l = loc
    · subst heq
      simp [List.lookup_cons, beq_false_of_ne h, ih]
    · simp [heq, List.lookup_cons, ih]

/-- Everything else in the tree is still found. -/
theorem node?_erase_of_ne {loc other : Location} (h : other ≠ loc) : (t.erase loc).node? other = t.node? other := by
  rw [node?, node?]
  split
  · rfl
  · exact lookup_filter_of_ne h t.nodes

/-- Only the root is there whatever the tree. -/
theorem ne_nil_of_node?_eq_none {loc : Location} (h : t.node? loc = none) : loc ≠ [] := by
  rintro rfl
  rw [node?, if_pos rfl] at h
  cases h

/-! ## Looking up in a tree with more directories -/

/-- What is a directory in one tree is one in the other. -/
def KeepsDirectories (t t' : FileTree) : Prop :=
  ∀ loc, t.node? loc = some .directory → t'.node? loc = some .directory

/-- A file that does not go where a directory is takes none away. -/
theorem KeepsDirectories.put_file {loc : Location} (h : t.node? loc ≠ some .directory) (content : ByteArray) :
    t.KeepsDirectories (t.put loc (.file content)) := by
  intro other hother
  have hne : other ≠ loc := by
    rintro rfl
    exact h hother
  rw [node?_put_of_ne hne, hother]

/-- Nor does taking out what is no directory. -/
theorem KeepsDirectories.erase_file {loc : Location} (h : t.node? loc ≠ some .directory) : t.KeepsDirectories (t.erase loc) := by
  intro other hother
  have hne : other ≠ loc := by
    rintro rfl
    exact h hother
  rw [node?_erase_of_ne hne, hother]

theorem KeepsDirectories.trans {t'' : FileTree} (h : t.KeepsDirectories t') (h' : t'.KeepsDirectories t'') : t.KeepsDirectories t'' :=
  fun loc hloc => h' loc (h loc hloc)

/-- Names lead where they led. -/
theorem walk_of_keepsDirectories (hkeeps : t.KeepsDirectories t') {loc loc' : Location} {names : List String}
    (h : t.walk loc names = .ok loc') : t'.walk loc names = .ok loc' := by
  induction names generalizing loc with
  | nil => exact h
  | cons name rest ih =>
    unfold walk at h ⊢
    split at h
    · next hdot => rw [if_pos hdot]; exact ih h
    · next hdot =>
      rw [if_neg hdot]
      split at h
      · next hdots => rw [if_pos hdots]; exact ih h
      · next hdots =>
        rw [if_neg hdots]
        split at h
        · cases h
        · next hshort =>
          rw [if_neg hshort]
          split at h
          · cases h
          · cases h
          · next hnode =>
            rw [hkeeps _ hnode]
            exact ih h

/-- A path that leads somewhere in a tree leads there in each that keeps its directories. -/
theorem find_of_keepsDirectories (hkeeps : t.KeepsDirectories t') (hhome : t'.home = t.home) {path : String} {target : Target}
    (h : t.find path = .ok target) : t'.find path = .ok target := by
  have hstart : t'.start path = t.start path := by rw [start, start, hhome]
  unfold find at h ⊢
  rw [hstart]
  cases hcheck : checkPath path with
  | error e =>
    simp only [hcheck] at h
    cases h
  | ok _ =>
    simp only [hcheck, bind, Except.bind] at h ⊢
    unfold FileTree.target at h ⊢
    cases hlast : (components path).getLast? with
    | none =>
      simp only [hlast] at h ⊢
      exact h
    | some last =>
      simp only [hlast] at h ⊢
      cases hwalk : t.walk (t.start path) (components path).dropLast with
      | error e =>
        simp only [hwalk] at h
        cases h
      | ok parent =>
        rw [walk_of_keepsDirectories hkeeps hwalk]
        simp only [hwalk] at h
        exact h

/-- What a look-up finds as an entry is not the root. -/
theorem ne_nil_of_target {origin loc : Location} {names : List String} (h : t.target origin names = .ok (.entry loc)) :
    loc ≠ [] := by
  unfold FileTree.target at h
  split at h
  · cases h
  · next last _ =>
    cases hwalk : t.walk origin names.dropLast with
    | error e =>
      simp only [hwalk] at h
      cases h
    | ok parent =>
      simp only [hwalk, bind, Except.bind] at h
      repeat' split at h
      all_goals cases h
      simp

/-- No path names the root as an entry. -/
theorem ne_nil_of_find {path : String} {loc : Location} (h : t.find path = .ok (.entry loc)) : loc ≠ [] :=
  ne_nil_of_target (target_of_find h)

/-! ## Making directories -/

/-- One directory is made at a location where there was nothing. -/
def Makes (through : Location → Prop) (t t' : FileTree) : Prop :=
  ∃ loc, through loc ∧ t.node? loc = none ∧ t' = t.put loc .directory

/-- Making a directory makes it where its names lead. -/
theorem makes_of_makeDirectory {origin : Location} {names : List String} {through : Location → Prop}
    (hthrough : through (names.foldl follow origin)) (h : t.makeDirectory origin names = .ok t') : Makes through t t' := by
  unfold makeDirectory at h
  cases htarget : t.target origin names with
  | error e =>
    simp only [htarget] at h
    cases h
  | ok target =>
    simp only [htarget, bind, Except.bind] at h
    cases target with
    | dots loc => cases h
    | entry loc =>
      have hloc : loc = names.foldl follow origin := location_of_target htarget
      cases hnode : t.node? loc with
      | some node =>
        simp only [hnode] at h
        cases h
      | none =>
        simp only [hnode] at h
        exact ⟨loc, hloc ▸ hthrough, hnode, (Except.ok.inj h).symm⟩

open Relation

/-- With the directories above it, nothing more is made than these and the directory itself. -/
theorem makes_makeWithParents {origin : Location} {names : List String} {through : Location → Prop}
    (hthrough : through (names.foldl follow origin)) {above : Except IoError Unit × FileTree}
    (habove : ReflTransGen (Makes through) t above.2) :
    ReflTransGen (Makes through) t (t.makeWithParents origin names above).2 := by
  unfold makeWithParents
  split
  · next made hmade => exact .single (makes_of_makeDirectory hthrough hmade)
  · split
    · exact habove
    · next u =>
      split
      · next made hmade => exact habove.tail (makes_of_makeDirectory hthrough hmade)
      · split <;> exact habove
  · split <;> exact .refl

/-- Names that are read last first: each step of the making concerns a beginning of them. -/
theorem makes_makeAll {origin : Location} {names : List String} {through : Location → Prop}
    (hthrough : ∀ front, front <+: names.reverse → through (front.foldl follow origin)) :
    ReflTransGen (Makes through) t (t.makeAll origin names).2 := by
  induction names with
  | nil => exact .refl
  | cons name above ih =>
    refine makes_makeWithParents (hthrough _ List.prefix_rfl) (ih fun front hfront => hthrough front ?_)
    rw [List.reverse_cons]
    exact hfront.trans (List.prefix_append _ _)

/-- Names without dots that stay lead where the names with them do. -/
theorem foldl_follow_filter (origin : Location) (names : List String) :
    (names.filter (· != ".")).foldl follow origin = names.foldl follow origin := by
  induction names generalizing origin with
  | nil => rfl
  | cons name rest ih =>
    by_cases hdot : name = "."
    · simp [hdot, follow, ih]
    · simp [hdot, ih]

/-- A beginning of the names without dots leads where some beginning of all names does. -/
theorem exists_prefix_of_filter {front names : List String} (h : front <+: names.filter (· != ".")) (origin : Location) :
    ∃ whole, whole <+: names ∧ front.foldl follow origin = whole.foldl follow origin := by
  obtain ⟨whole, hwhole, rfl⟩ := List.prefix_filter_iff.mp h
  exact ⟨whole, hwhole, foldl_follow_filter origin whole⟩

/-- The plain names of a path lead through no other locations than all of its names. -/
theorem exists_prefix_of_plainComponents {path : String} {front : List String} (h : front <+: plainComponents path)
    (origin : Location) : ∃ whole, whole <+: components path ∧ front.foldl follow origin = whole.foldl follow origin := by
  unfold plainComponents at h
  split at h
  · rw [List.prefix_nil] at h
    exact ⟨[], List.nil_prefix, by rw [h]⟩
  · next name rest hnames =>
    rw [hnames]
    split at h
    · -- The name in front is the dot of a relative path, which is kept and leads nowhere else.
      rcases List.prefix_cons_iff.mp h with rfl | ⟨front, rfl, hfront⟩
      · exact ⟨[], List.nil_prefix, rfl⟩
      · obtain ⟨whole, hwhole, heq⟩ := exists_prefix_of_filter hfront (follow origin name)
        exact ⟨name :: whole, List.cons_prefix_cons.mpr ⟨rfl, hwhole⟩, heq⟩
    · exact exists_prefix_of_filter h origin

/-- Making a directory with those above it makes directories that the path leads through, one after the other. -/
theorem makes_makeDirectories (t : FileTree) (path : String) :
    ReflTransGen (Makes (t.LeadsThrough path)) t (t.makeDirectories path).2 := by
  unfold makeDirectories
  split
  · exact .refl
  · split
    · exact .refl
    · refine makes_makeWithParents ⟨components path, List.prefix_rfl, rfl⟩ (makes_makeAll fun front hfront => ?_)
      rw [List.tail_reverse, List.reverse_reverse] at hfront
      exact exists_prefix_of_plainComponents (hfront.trans (List.dropLast_prefix _)) (t.start path)

/-- Where directories are made, each location has what it had, or a directory in place of nothing. -/
theorem node?_of_makes {through : Location → Prop} (h : ReflTransGen (Makes through) t t') :
    t'.home = t.home ∧ ∀ loc, t'.node? loc = t.node? loc ∨
      through loc ∧ t.node? loc = none ∧ t'.node? loc = some .directory := by
  induction h with
  | refl => exact ⟨rfl, fun loc => .inl rfl⟩
  | tail _ hstep ih =>
    obtain ⟨made, hthrough, hnothing, rfl⟩ := hstep
    refine ⟨ih.1, fun loc => ?_⟩
    by_cases heq : loc = made
    · subst heq
      rcases ih.2 loc with hkept | ⟨-, -, hmade⟩
      · exact .inr ⟨hthrough, hkept.symm.trans hnothing, node?_put_self (ne_nil_of_node?_eq_none hnothing) _⟩
      · rw [hnothing] at hmade
        cases hmade
    · rw [node?_put_of_ne heq]
      exact ih.2 loc

/-! ## Writing and moving files -/

/-- Writing a file fails and leaves the tree, or puts the file where the path leads, which is no directory. -/
theorem writeFile_cases (t : FileTree) (path : String) (content : ByteArray) :
    (∃ cause, t.writeFile path content = (.error cause, t)) ∨
    ∃ loc, t.find path = .ok (.entry loc) ∧ t.node? loc ≠ some .directory ∧
      t.writeFile path content = (.ok (), t.put loc (.file content)) := by
  unfold writeFile
  cases hfind : t.find path with
  | error e => exact .inl ⟨e, rfl⟩
  | ok target =>
    cases target with
    | dots loc => exact .inl ⟨_, rfl⟩
    | entry loc =>
      simp only
      split
      · exact .inl ⟨_, rfl⟩
      · cases hnode : t.node? loc with
        | none => exact .inr ⟨loc, rfl, by simp [hnode], rfl⟩
        | some node =>
          cases node with
          | directory => exact .inl ⟨_, rfl⟩
          | file old => exact .inr ⟨loc, rfl, by simp [hnode], rfl⟩

/-- Moving a file fails and leaves the tree, or puts the file where the other path leads, which is no directory. -/
theorem rename_cases (t : FileTree) (source destination : String) :
    (∃ cause, t.rename source destination = (.error cause, t)) ∨
    ∃ here there content, t.find source = .ok (.entry here) ∧ t.find destination = .ok (.entry there) ∧
      t.node? here = some (.file content) ∧ t.node? there ≠ some .directory ∧
      t.rename source destination = (.ok (), (t.erase here).put there (.file content)) := by
  unfold rename
  cases hsource : t.find source with
  | error e => exact .inl ⟨e, rfl⟩
  | ok start =>
    cases hdestination : t.find destination with
    | error e => exact .inl ⟨e, rfl⟩
    | ok goal =>
      cases start with
      | dots loc => cases goal <;> exact .inl ⟨_, rfl⟩
      | entry here =>
        cases goal with
        | dots loc => exact .inl ⟨_, rfl⟩
        | entry there =>
          simp only
          cases hhere : t.node? here with
          | none => exact .inl ⟨_, rfl⟩
          | some node =>
            cases node with
            | directory => exact .inl ⟨_, rfl⟩
            | file content =>
              cases hthere : t.node? there with
              | none => exact .inr ⟨here, there, content, rfl, rfl, hhere, by simp [hthere], rfl⟩
              | some other =>
                cases other with
                | directory => exact .inl ⟨_, rfl⟩
                | file old => exact .inr ⟨here, there, content, rfl, rfl, hhere, by simp [hthere], rfl⟩

/-! ## Reading back -/

/-- A text that is at the place of a path is read there. -/
theorem readText_of_find {path text : String} {loc : Location} (hfind : t.find path = .ok (.entry loc))
    (hslash : endsInSlash path = false) (hnode : t.node? loc = some (.file text.toUTF8)) : t.readText path = .ok text := by
  have hbytes : t.readBytes path = .ok text.toUTF8 := by
    rw [readBytes, hfind]
    simp [bind, Except.bind, hnode, hslash]
  have hdecoded : String.fromUTF8? text.toUTF8 = some text := dif_pos text.isValidUTF8
  rw [readText, hbytes]
  simp only [bind, Except.bind, hdecoded]

/-- A path does not exist if nothing is where it leads. -/
theorem pathExists_of_nothing {path : String} {loc : Location} (hfind : t.find path = .ok (.entry loc)) (hnode : t.node? loc = none) :
    t.pathExists path = false := by
  rw [pathExists, hfind]
  simp [hnode]

end FileTree

end MemoryWatchdog
