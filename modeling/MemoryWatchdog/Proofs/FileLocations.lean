import Mathlib.Data.String.Basic
import MemoryWatchdog.FileTree

/-!
# Where paths lead

There are no links in a file tree, so where a path leads can be read off its names: each adds itself to the location, and the dots
stay or go up (`place`). Looking a path up may fail, but if it leads somewhere then it leads there (`location_of_find`). The names of a
path are the parts between its slashes (`splitOn_slash`), and the last of them ends as the path does (`exists_last_component`).
-/

namespace MemoryWatchdog

namespace FileTree

open String

/-! ## The names of a path -/

/-- A name that is read on its way: `m` of it is read behind `l`, and `r` is to come. -/
theorem splitOnAux_slash (l m r : List Char) (names : List String) :
    splitOnAux (ofList (l ++ m ++ r)) "/" ⟨utf8Len l⟩ ⟨utf8Len l + utf8Len m⟩ 0 names =
      names.reverse ++ (List.splitOnPPrepend (· == '/') r m.reverse).map ofList := by
  induction r generalizing l m names with
  | nil =>
    have hend := (atEnd_of_valid (l ++ m) []).mpr rfl
    rw [utf8Len_append] at hend
    rw [splitOnAux, if_pos hend, extract_of_valid]
    simp
  | cons c r ih =>
    have hend := mt (atEnd_of_valid (l ++ m) (c :: r)).mp (List.cons_ne_nil c r)
    have hget := get_of_valid (l ++ m) (c :: r)
    have hnext := next_of_valid (l ++ m) c r
    have hslash : Pos.Raw.get "/" 0 = '/' := by decide
    rw [utf8Len_append] at hend hget hnext
    rw [splitOnAux, if_neg hend, hget, hslash]
    by_cases hc : c = '/'
    · subst hc
      -- The separator is over with its one character, so the next name begins right behind it.
      have hpast : Pos.Raw.next "/" 0 = ⟨1⟩ := by decide
      have hover : Pos.Raw.atEnd "/" ⟨1⟩ = true := by decide
      have hback : (⟨utf8Len l + utf8Len m + '/'.utf8Size⟩ : Pos.Raw).unoffsetBy ⟨1⟩ = ⟨utf8Len l + utf8Len m⟩ := rfl
      have hrest := ih (l ++ m ++ ['/']) [] (ofList m :: names)
      rw [List.append_nil, List.append_assoc (l ++ m), List.singleton_append] at hrest
      simp only [utf8Len_append, utf8Len_cons, utf8Len_nil, Nat.add_zero, Nat.zero_add] at hrest
      simp only [List.headD_cons, beq_self_eq_true, if_true, hnext, hpast, hover, hback, extract_of_valid, hrest]
      simp [List.splitOnPPrepend_cons_eq_if]
    · have hstay : (⟨utf8Len l + utf8Len m⟩ : Pos.Raw).unoffsetBy 0 = ⟨utf8Len l + utf8Len m⟩ := rfl
      have hrest := ih l (m ++ [c]) names
      rw [← List.append_assoc, List.append_assoc (l ++ m), List.singleton_append] at hrest
      simp only [utf8Len_append, utf8Len_cons, utf8Len_nil, Nat.zero_add, ← Nat.add_assoc] at hrest
      simp only [List.headD_cons, beq_iff_eq, hc, if_false, hstay, hnext, hrest]
      simp [List.splitOnPPrepend_cons_eq_if, hc]

/-- The parts of a path between its slashes are those of its characters. -/
theorem splitOn_slash (path : String) : path.splitOn "/" = (path.toList.splitOn '/').map ofList := by
  have h := splitOnAux_slash [] [] path.toList []
  rw [List.nil_append, List.nil_append, ofList_toList] at h
  rw [splitOn, if_neg (by decide), List.splitOn_eq_splitOnP, List.splitOnP_eq_splitOnPPrepend]
  exact h

theorem toList_slash : "/".toList = ['/'] := by decide

/-- A path ends in a slash if it is another path with a slash behind it. -/
theorem endsInSlash_iff {path : String} : endsInSlash path = true ↔ ∃ above, path = above ++ "/" := by
  unfold endsInSlash
  rw [endsWith_eq_endsWith_toSlice, Slice.endsWith_string_iff, copy_toSlice, toList_slash]
  constructor
  · rintro ⟨cs, hcs⟩
    have hpath := congrArg ofList hcs
    rw [ofList_append, ofList_toList] at hpath
    exact ⟨ofList cs, hpath.symm⟩
  · rintro ⟨above, rfl⟩
    exact ⟨above.toList, by rw [toList_append, toList_slash]⟩

/-- A path with another last character does not end in a slash. -/
theorem endsInSlash_of_getLast? {path : String} {c : Char} (hlast : path.toList.getLast? = some c) (hc : c ≠ '/') :
    endsInSlash path = false := by
  rw [Bool.eq_false_iff, Ne, endsInSlash_iff]
  rintro ⟨above, rfl⟩
  rw [toList_append, toList_slash, List.getLast?_concat] at hlast
  exact hc (Option.some.inj hlast).symm

/-- A path with another first character is relative. -/
theorem isAbsolute_of_head? {path : String} {c : Char} (hhead : path.toList.head? = some c) (hc : c ≠ '/') :
    isAbsolute path = false := by
  unfold isAbsolute
  rw [Bool.eq_false_iff, Ne, startsWith_eq_startsWith_toSlice, Slice.startsWith_string_iff, copy_toSlice, toList_slash]
  rintro ⟨cs, hcs⟩
  rw [← hcs] at hhead
  exact hc (Option.some.inj hhead).symm

/-- A path that is neither empty nor too long and has no null character can be looked up. -/
theorem checkPath_of_head? {path : String} {c : Char} (hhead : path.toList.head? = some c) (hnul : '\x00' ∉ path.toList)
    (hshort : path.utf8ByteSize ≤ maxPath) : checkPath path = .ok () := by
  have hany : path.toList.any (· == '\x00') = false := by
    rw [List.any_eq_false]
    intro d hd h
    rw [eq_of_beq h] at hd
    exact hnul hd
  have hempty : path.isEmpty = false := by
    rw [isEmpty_eq_false_iff]
    rintro rfl
    cases hhead
  rw [checkPath, hany, hempty]
  simp [Nat.not_lt.mpr hshort]

/-- A name without slashes is the only one of its path. -/
theorem components_of_not_mem {name : String} (h : '/' ∉ name.toList) (hne : name ≠ "") : components name = [name] := by
  rw [components, splitOn_slash, List.splitOn_eq_singleton h]
  simp [hne]

/-- The names of a path that goes on below a slash are those before it and those behind it. -/
theorem components_append_slash (above below : String) :
    components (above ++ "/" ++ below) = components above ++ components below := by
  simp only [components, splitOn_slash, toList_append, toList_slash, List.append_assoc, List.singleton_append,
    List.splitOn_append_cons_self, List.map_append, List.filter_append]

/-- The last part of a text that does not end in a slash ends as the text does. -/
theorem exists_last_splitOn {cs : List Char} {c : Char} (hlast : cs.getLast? = some c) (hc : c ≠ '/') :
    ∃ parts part, cs.splitOn '/' = parts ++ [part] ∧ part.getLast? = some c := by
  induction cs with
  | nil => cases hlast
  | cons x xs ih =>
    rw [List.splitOn_cons_eq_if_modifyHead]
    rcases xs.eq_nil_or_concat with rfl | ⟨ys, y, rfl⟩
    · obtain rfl : x = c := by simpa using hlast
      exact ⟨[], [x], by simp [hc], rfl⟩
    · obtain ⟨parts, part, hsplit, hpart⟩ := ih (by simpa [List.getLast?_cons] using hlast)
      rw [hsplit]
      by_cases hx : x = '/'
      · exact ⟨[] :: parts, part, by simp [hx], hpart⟩
      · cases parts with
        | nil => exact ⟨[], x :: part, by simp [hx], by simp [List.getLast?_cons, hpart]⟩
        | cons first more => exact ⟨(x :: first) :: more, part, by simp [hx], hpart⟩

/-- The last name of a path that does not end in a slash ends as the path does. -/
theorem exists_last_component {path : String} {c : Char} (hlast : path.toList.getLast? = some c) (hc : c ≠ '/') :
    ∃ above name, components path = above ++ [name] ∧ name.toList.getLast? = some c := by
  obtain ⟨parts, part, hsplit, hpart⟩ := exists_last_splitOn hlast hc
  have hne : part ≠ [] := by
    intro h
    rw [h] at hpart
    cases hpart
  refine ⟨(parts.map ofList).filter (· != ""), ofList part, ?_, by rw [toList_ofList, hpart]⟩
  rw [components, splitOn_slash, hsplit]
  simp [hne]

/-! ## Locations -/

/-- Where a name leads from a location. -/
def follow (loc : Location) (name : String) : Location :=
  if name = "." then loc else if name = ".." then loc.dropLast else loc ++ [name]

/-- Where a path leads, if it leads anywhere. -/
def place (t : FileTree) (path : String) : Location :=
  (components path).foldl follow (t.start path)

/-- The locations that a path leads through, from the first name on. -/
def LeadsThrough (t : FileTree) (path : String) (loc : Location) : Prop :=
  ∃ names, names <+: components path ∧ loc = names.foldl follow (t.start path)

/-- The location of what a look-up is about. -/
def Target.location : Target → Location
  | .entry loc => loc
  | .dots loc => loc

variable {t t' : FileTree}

/-- A name leads to an entry of the directory, unless it is one of dots. -/
theorem follow_name {name : String} (loc : Location) (hdot : name ≠ ".") (hdots : name ≠ "..") :
    follow loc name = loc ++ [name] := by
  rw [follow, if_neg hdot, if_neg hdots]

/-- The place of a path depends on no more of the tree than the working directory. -/
theorem place_congr (h : t'.home = t.home) (path : String) : t'.place path = t.place path := by
  rw [place, place, start, start, h]

/-- A path that ends in neither a slash nor a dot leads to an entry whose name ends as the path does. -/
theorem exists_place_of_getLast? {path : String} {c : Char} (hlast : path.toList.getLast? = some c) (hslash : c ≠ '/')
    (hdot : c ≠ '.') (t : FileTree) : ∃ parent name, t.place path = parent ++ [name] ∧ name.toList.getLast? = some c := by
  obtain ⟨above, name, hnames, hname⟩ := exists_last_component hlast hslash
  have hone : name ≠ "." := by
    rintro rfl
    exact hdot (Option.some.inj hname).symm
  have htwo : name ≠ ".." := by
    rintro rfl
    exact hdot (Option.some.inj hname).symm
  refine ⟨above.foldl follow (t.start path), name, ?_, hname⟩
  rw [place, hnames, List.foldl_append, List.foldl_cons, List.foldl_nil, follow_name _ hone htwo]

/-- A path below a directory ends as it does by itself. -/
theorem getLast?_join {directory rest : String} {c : Char} (h : rest.toList.getLast? = some c) :
    (join directory rest).toList.getLast? = some c := by
  unfold join
  split
  · exact h
  · split <;> simp [List.getLast?_cons, h]

/-- Between a directory and a relative path comes one slash. -/
theorem join_of_head? {directory rest : String} {c d : Char} (hlast : directory.toList.getLast? = some c) (hc : c ≠ '/')
    (hhead : rest.toList.head? = some d) (hd : d ≠ '/') : join directory rest = directory ++ "/" ++ rest := by
  have hempty : directory.isEmpty = false := by
    rw [isEmpty_eq_false_iff]
    rintro rfl
    cases hlast
  rw [join, isAbsolute_of_head? hhead hd, hempty, endsInSlash_of_getLast? hlast hc]
  rfl

/-- No slash comes in front of a path in the working directory. -/
theorem join_empty {rest : String} {c : Char} (hhead : rest.toList.head? = some c) (hc : c ≠ '/') : join "" rest = rest := by
  rw [join, isAbsolute_of_head? hhead hc]
  exact empty_append

/-- Names that can be followed lead where their steps do. -/
theorem location_of_walk {loc loc' : Location} {names : List String} (h : t.walk loc names = .ok loc') :
    loc' = names.foldl follow loc := by
  induction names generalizing loc with
  | nil =>
    rw [walk] at h
    exact (Except.ok.inj h).symm
  | cons name rest ih =>
    rw [walk] at h
    rw [List.foldl_cons, follow]
    split at h
    · next hdot => rw [if_pos hdot]; exact ih h
    · next hdot =>
      rw [if_neg hdot]
      split at h
      · next hdots => rw [if_pos hdots]; exact ih h
      · next hdots =>
        rw [if_neg hdots]
        split at h
        · cases h
        · split at h
          · cases h
          · cases h
          · exact ih h

/-- What a look-up of names is about is where they lead; an entry is that of their last name. -/
theorem location_of_target {origin : Location} {names : List String} {target : Target} (h : t.target origin names = .ok target) :
    target.location = names.foldl follow origin := by
  unfold FileTree.target at h
  rcases names.eq_nil_or_concat with rfl | ⟨above, last, rfl⟩
  · obtain rfl := Except.ok.inj h
    rfl
  · rw [List.concat_eq_append] at h ⊢
    rw [List.getLast?_append, List.getLast?_singleton, Option.some_or, List.dropLast_concat] at h
    rw [List.foldl_append, List.foldl_cons, List.foldl_nil, follow]
    cases hwalk : t.walk origin above with
    | error e =>
      simp only [hwalk] at h
      cases h
    | ok parent =>
      rw [← location_of_walk hwalk]
      simp only [hwalk, bind, Except.bind] at h
      split at h
      · next hdot =>
        obtain rfl := Except.ok.inj h
        rw [if_pos hdot]
        rfl
      · next hdot =>
        rw [if_neg hdot]
        split at h
        · next hdots =>
          obtain rfl := Except.ok.inj h
          rw [if_pos hdots]
          rfl
        · next hdots =>
          rw [if_neg hdots]
          split at h
          · cases h
          · obtain rfl := Except.ok.inj h
            rfl

/-- What is found at a path is what its names lead to. -/
theorem target_of_find {path : String} {target : Target} (h : t.find path = .ok target) :
    t.target (t.start path) (components path) = .ok target := by
  unfold find at h
  cases hcheck : checkPath path with
  | error e =>
    simp only [hcheck] at h
    cases h
  | ok _ =>
    simp only [hcheck] at h
    exact h

/-- A relative path is looked up from the working directory. -/
theorem find_of_head? {path : String} {c : Char} (hhead : path.toList.head? = some c) (hslash : c ≠ '/')
    (hnul : '\x00' ∉ path.toList) (hshort : path.utf8ByteSize ≤ maxPath) : t.find path = t.target t.home (components path) := by
  rw [find, checkPath_of_head? hhead hnul hshort, start, isAbsolute_of_head? hhead hslash]
  rfl

/-- A mere name is that of an entry of the working directory. -/
theorem find_of_name {name : String} {c : Char} (hhead : name.toList.head? = some c) (hslash : '/' ∉ name.toList)
    (hnul : '\x00' ∉ name.toList) (hdots : name ≠ "." ∧ name ≠ "..") (hshort : name.utf8ByteSize ≤ maxName) :
    t.find name = .ok (.entry (t.home ++ [name])) := by
  have hlong : maxName ≤ maxPath := by decide
  have hc : c ≠ '/' := fun h => hslash (h ▸ List.mem_of_head? hhead)
  have hne : name ≠ "" := fun h => by simp [h] at hhead
  rw [find_of_head? hhead hc hnul (by omega), components_of_not_mem hslash hne]
  simp [target, walk, hdots.1, hdots.2, Nat.not_lt.mpr hshort, bind, Except.bind]

/-- A path that goes on below a slash is looked up from there too, with the names of both parts. -/
theorem find_below {directory name : String} {c : Char} (hhead : directory.toList.head? = some c) (hslash : c ≠ '/')
    (hnul : '\x00' ∉ directory.toList ++ name.toList) (hshort : directory.utf8ByteSize + name.utf8ByteSize < maxPath) :
    t.find (directory ++ "/" ++ name) = t.target t.home (components directory ++ components name) := by
  have hchars : (directory ++ "/" ++ name).toList = directory.toList ++ '/' :: name.toList := by
    rw [toList_append, toList_append, toList_slash, List.append_assoc, List.singleton_append]
  have hbytes : (directory ++ "/" ++ name).utf8ByteSize = directory.utf8ByteSize + 1 + name.utf8ByteSize := by
    rw [utf8ByteSize_append, utf8ByteSize_append]
    rfl
  rw [find_of_head? (c := c) ?_ hslash ?_ (by omega), components_append_slash]
  · rw [hchars, List.head?_append, hhead, Option.some_or]
  · rw [hchars]
    simpa using hnul

/-- A path that can be looked up leads to its place. -/
theorem location_of_find {path : String} {target : Target} (h : t.find path = .ok target) : target.location = t.place path :=
  location_of_target (target_of_find h)

end FileTree

end MemoryWatchdog
