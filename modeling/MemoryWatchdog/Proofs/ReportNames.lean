import Mathlib.Data.List.DropRight
import MemoryWatchdog.Proofs.ReportWrites
import MemoryWatchdog.Proofs.Stamps

/-!
# What a report's name tells

The name of a report ends with the process, the year and the fields of the moment, whatever text the role is, so it can be read from
behind: two reports have the same name exactly if role, process and moment, to the millisecond, are the same. A report is written over
another one only if the last names of the two paths are the same. If a role has a slash then the last name has only a part of it, and a
report can be written over one of another role (`masked_overwrites_bare`); process and millisecond are the same even then
(`name_identifies_report`).
-/

namespace MemoryWatchdog

/-! ## The last name of a path -/

namespace FileTree

open String

/-- What stands behind the last slash. -/
def behindSlash (path : List Char) : List Char :=
  path.rtakeWhile (· != '/')

/-- A text without a slash is all behind the last one. -/
theorem behindSlash_of_not_mem {cs : List Char} (h : '/' ∉ cs) : behindSlash cs = cs := by
  rw [behindSlash, List.rtakeWhile_eq_self_iff]
  intro c hc
  have hne : c ≠ '/' := fun heq => h (heq ▸ hc)
  simpa using hne

/-- Characters other than slashes at the end are part of it. -/
theorem behindSlash_append (front : List Char) {ending : List Char} (h : '/' ∉ ending) :
    behindSlash (front ++ ending) = behindSlash front ++ ending := by
  have hall : ∀ c ∈ ending.reverse, (c != '/') = true := by
    intro c hc
    have hne : c ≠ '/' := fun heq => h (heq ▸ List.mem_reverse.mp hc)
    simpa using hne
  rw [behindSlash, behindSlash, List.rtakeWhile, List.rtakeWhile, List.reverse_append, List.takeWhile_append_of_pos hall,
    List.reverse_append, List.reverse_reverse]

/-- Nothing before a slash is. -/
theorem behindSlash_below (above below : List Char) : behindSlash (above ++ '/' :: below) = behindSlash below := by
  induction below using List.reverseRecOn with
  | nil => simp [behindSlash]
  | append_singleton below c ih =>
    rw [← List.cons_append, ← List.append_assoc, behindSlash, behindSlash, List.rtakeWhile_concat, List.rtakeWhile_concat,
      ← behindSlash, ← behindSlash, ih]

/-- The last part of a text between slashes is what stands behind the last one. -/
theorem exists_splitOn_slash (cs : List Char) : ∃ parts, cs.splitOn '/' = parts ++ [behindSlash cs] := by
  by_cases h : '/' ∈ cs
  · obtain ⟨behind, above, hsplit, hbehind⟩ := List.eq_append_cons_of_mem (List.mem_reverse.mpr h)
    have hcs : cs = above.reverse ++ '/' :: behind.reverse := by
      rw [← List.reverse_reverse cs, hsplit]
      simp
    have hnone : '/' ∉ behind.reverse := mt List.mem_reverse.mp hbehind
    exact ⟨above.reverse.splitOn '/', by
      rw [hcs, List.splitOn_append_cons_self, behindSlash_below, behindSlash_of_not_mem hnone, List.splitOn_eq_singleton hnone]⟩
  · exact ⟨[], by rw [behindSlash_of_not_mem h, List.splitOn_eq_singleton h, List.nil_append]⟩

/-- A path that ends in neither a slash nor a dot leads to an entry with the name behind its last slash. -/
theorem exists_place_of_behindSlash {path : String} {c : Char} (hlast : path.toList.getLast? = some c) (hslash : c ≠ '/')
    (hdot : c ≠ '.') (t : FileTree) : ∃ parent, t.place path = parent ++ [ofList (behindSlash path.toList)] := by
  obtain ⟨parts, hsplit⟩ := exists_splitOn_slash path.toList
  have hend : (behindSlash path.toList).getLast? = some c := by
    obtain ⟨front, hfront⟩ : ∃ front, path.toList = front ++ [c] := by
      rcases path.toList.eq_nil_or_concat with h | ⟨front, d, h⟩
      · rw [h] at hlast
        cases hlast
      · rw [h, List.concat_eq_append, List.getLast?_concat] at hlast
        exact ⟨front, by rw [h, List.concat_eq_append, Option.some.inj hlast]⟩
    rw [hfront, behindSlash_append front (by simpa using hslash.symm), List.getLast?_concat]
  have hname {name : String} (hnamed : name.toList.getLast? ≠ some c) : ofList (behindSlash path.toList) ≠ name := by
    rintro rfl
    rw [toList_ofList] at hnamed
    exact hnamed hend
  refine ⟨((parts.map ofList).filter (· != "")).foldl follow (t.start path), ?_⟩
  have hcomponents : components path = (parts.map ofList).filter (· != "") ++ [ofList (behindSlash path.toList)] := by
    rw [components, splitOn_slash, hsplit, List.map_append, List.filter_append]
    have hnonempty : ofList (behindSlash path.toList) ≠ "" := hname (by simp)
    simp [hnonempty]
  rw [place, hcomponents, List.foldl_append, List.foldl_cons, List.foldl_nil, follow_name]
  · exact hname (by simpa using hdot.symm)
  · exact hname (by simpa using hdot.symm)

/-- The last name of a path below a directory is that of the path by itself. -/
theorem behindSlash_join (directory rest : String) : behindSlash (join directory rest).toList = behindSlash rest.toList := by
  unfold join
  split
  · rfl
  · split
    · next hends =>
      rcases Bool.or_eq_true_iff.mp hends with hempty | hslash
      · rw [isEmpty_iff.mp hempty, empty_append]
      · obtain ⟨above, rfl⟩ := endsInSlash_iff.mp hslash
        rw [toList_append, toList_append, toList_slash, List.append_assoc]
        exact behindSlash_below _ _
    · rw [toList_append, toList_append, toList_slash, List.append_assoc]
      exact behindSlash_below _ _

end FileTree

namespace HeapReport

open FileTree Relation

/-! ## Reading a name from behind -/

/-- The name of a report behind its role. -/
def nameEnding (r : HeapReport) : List Char :=
  '-' :: (Decimal.digitsOf r.pid ++ ('-' :: (Moment.yearText r.writtenAt.date.year).toList ++
    (r.writtenAt.withinYear ++ ['.', 'j', 's', 'o', 'n'])))

/-- The name of a report starts with its role and goes on with its ending. -/
theorem toList_fileName (r : HeapReport) : r.fileName.toList = ("heap-" ++ r.role).toList ++ r.nameEnding := by
  have hdash : "-".toList = ['-'] := by decide
  have hjson : ".json".toList = ['.', 'j', 's', 'o', 'n'] := by decide
  have hpid : (toString r.pid).toList = Decimal.digitsOf r.pid := Nat.toList_repr
  simp only [fileName, nameEnding, String.toList_append, hdash, hjson, hpid, Moment.toList_stamp, List.append_assoc,
    List.cons_append, List.nil_append]

/-- A number ends in a digit. -/
theorem exists_last_digit (n : Nat) : ∃ front d, Decimal.digitsOf n = front ++ [d] ∧ d.isDigit = true := by
  rcases (Decimal.digitsOf n).eq_nil_or_concat with h | ⟨front, d, h⟩
  · exact absurd h Nat.toDigits_ne_nil
  · rw [List.concat_eq_append] at h
    exact ⟨front, d, h, Moment.isDigit_of_mem_digitsOf (by rw [h]; simp)⟩

/-- Whatever stands before it, the ending of a name tells the process and the moment to the millisecond. -/
theorem append_nameEnding_inj {r r' : HeapReport} (hr : r.writtenAt.isValid = true) (hr' : r'.writtenAt.isValid = true)
    {front front' : List Char} (h : front ++ r.nameEnding = front' ++ r'.nameEnding) :
    front = front' ∧ r.pid = r'.pid ∧ r.writtenAt.toMillisecond = r'.writtenAt.toMillisecond := by
  obtain ⟨pid, d, hpid, hd⟩ := exists_last_digit r.pid
  obtain ⟨pid', d', hpid', hd'⟩ := exists_last_digit r'.pid
  have hlength : (r.writtenAt.withinYear ++ ['.', 'j', 's', 'o', 'n']).length =
      (r'.writtenAt.withinYear ++ ['.', 'j', 's', 'o', 'n']).length := by
    rw [List.length_append, List.length_append, Moment.length_withinYear (Moment.fits_of_isValid hr),
      Moment.length_withinYear (Moment.fits_of_isValid hr')]
  -- From the end: the fields and the extension, which are as long in both names; the year; the process.
  have hsplit (front : List Char) (r : HeapReport) : front ++ r.nameEnding =
      front ++ '-' :: Decimal.digitsOf r.pid ++ '-' :: (Moment.yearText r.writtenAt.date.year).toList ++
        (r.writtenAt.withinYear ++ ['.', 'j', 's', 'o', 'n']) := by
    simp [nameEnding]
  rw [hsplit, hsplit] at h
  obtain ⟨hbefore, hfields⟩ := List.append_inj' h hlength
  rw [hpid, hpid', ← List.cons_append, ← List.cons_append, ← List.append_assoc, ← List.append_assoc] at hbefore
  obtain ⟨hprocess, hyear⟩ := Moment.yearText_append_inj hd hd' hbefore
  rw [List.append_assoc, List.append_assoc, List.cons_append, List.cons_append, ← hpid, ← hpid'] at hprocess
  obtain ⟨hfront, -, hdigits⟩ := Moment.append_cons_digits_inj (by rfl) (by rfl) (fun c => Moment.isDigit_of_mem_digitsOf)
    (fun c => Moment.isDigit_of_mem_digitsOf) hprocess
  exact ⟨hfront, Moment.digitsOf_injective hdigits,
    Moment.toMillisecond_eq_of_withinYear hr hr' hyear (List.append_inj' hfields rfl).1⟩

/-- Two reports have the same name exactly if role, process and moment, to the millisecond, are the same. -/
theorem fileName_eq_iff {r r' : HeapReport} (hr : r.writtenAt.isValid = true) (hr' : r'.writtenAt.isValid = true) :
    r.fileName = r'.fileName ↔
      r.role = r'.role ∧ r.pid = r'.pid ∧ r.writtenAt.toMillisecond = r'.writtenAt.toMillisecond := by
  constructor
  · intro h
    have hchars := congrArg String.toList h
    rw [toList_fileName, toList_fileName] at hchars
    obtain ⟨hfront, hpid, hmoment⟩ := append_nameEnding_inj hr hr' hchars
    rw [String.toList_append, String.toList_append] at hfront
    exact ⟨String.toList_injective (List.append_cancel_left hfront), hpid, hmoment⟩
  · rintro ⟨hrole, hpid, hmoment⟩
    have hstamp : r.writtenAt.stamp = r'.writtenAt.stamp := by
      rw [← Moment.stamp_toMillisecond, hmoment, Moment.stamp_toMillisecond]
    rw [fileName, fileName, hrole, hpid, hstamp]

/-! ## Writing over another report -/

/-- Writing a report into a directory changes the file of another one, which is in its place in a directory of its own. -/
def Overwrites (files : FileTree) (directory : String) (r : HeapReport) (directory' : String) (r' : HeapReport) : Prop :=
  ∃ content, files.node? (files.place (r'.finalPath directory')) = some (.file content) ∧
    (r.write directory files).2.node? (files.place (r'.finalPath directory')) ≠ some (.file content)

/-- A write keeps all files but its draft and its final file. -/
theorem othersKept_write (directory : String) (r : HeapReport) (files : FileTree) :
    OthersKept (files.place (r.draftPath directory)) (files.place (r.finalPath directory)) files (r.write directory files).2 := by
  have hmade := spares_of_makes (makes_makeDirectories files directory) (files.place (r.draftPath directory))
  obtain ⟨before, hbefore, ⟨e, hfailed⟩ | ⟨hwhole, hclear, -, -, hmoved⟩⟩ := failed_or_moved directory r files
  · rw [hfailed]
    exact (hmade.trans (spares_of_drafting hbefore)).othersKept _
  · rw [hmoved]
    exact ((hmade.trans (spares_of_drafting hbefore)).othersKept _).move hwhole hclear _

/-- A report is written over another one only in the same place. -/
theorem place_eq_of_overwrites {files : FileTree} {directory directory' : String} {r r' : HeapReport}
    (h : Overwrites files directory r directory' r') :
    files.place (r.finalPath directory) = files.place (r'.finalPath directory') := by
  obtain ⟨content, hbefore, hafter⟩ := h
  by_contra hne
  exact hafter (((othersKept_write directory r files).files _ content (place_finalPath_ne_draftPath directory directory' r r' files)
    (Ne.symm hne)).mpr hbefore)

/-- There is no slash in the ending of a name. -/
theorem slash_not_mem_nameEnding (r : HeapReport) : '/' ∉ r.nameEnding := by
  have hslash : '/'.isDigit = false := rfl
  have hyear := Moment.not_mem_yearText hslash (by decide) (by decide) r.writtenAt.date.year
  simp [nameEnding, Moment.not_mem_digitsOf hslash, hyear, Moment.slash_not_mem_withinYear]

/-- The last name of the path of a report has the part of its role behind the last slash. -/
theorem behindSlash_finalPath (directory : String) (r : HeapReport) :
    behindSlash (r.finalPath directory).toList = behindSlash ("heap-" ++ r.role).toList ++ r.nameEnding := by
  rw [finalPath, behindSlash_join, toList_fileName, behindSlash_append _ r.slash_not_mem_nameEnding]

/-- Two reports that are written to one place are of the same process and millisecond, and their roles end alike. -/
theorem same_of_place_eq {r r' : HeapReport} (hr : r.writtenAt.isValid = true) (hr' : r'.writtenAt.isValid = true)
    {directory directory' : String} {t : FileTree} (h : t.place (r.finalPath directory) = t.place (r'.finalPath directory')) :
    behindSlash ("heap-" ++ r.role).toList = behindSlash ("heap-" ++ r'.role).toList ∧
      r.pid = r'.pid ∧ r.writtenAt.toMillisecond = r'.writtenAt.toMillisecond := by
  obtain ⟨_, hplace⟩ := exists_place_of_behindSlash (r.getLast?_finalPath directory) (by decide) (by decide) t
  obtain ⟨_, hplace'⟩ := exists_place_of_behindSlash (r'.getLast?_finalPath directory') (by decide) (by decide) t
  rw [hplace, hplace'] at h
  have hlength (name name' : String) : [name].length = [name'].length := rfl
  have hname := String.ofList_injective (List.singleton_injective (List.append_inj' h (hlength _ _)).2)
  rw [behindSlash_finalPath, behindSlash_finalPath] at hname
  exact append_nameEnding_inj hr hr' hname

/-- A report is known by its name: two reports have the same name exactly if role, process and moment, to the millisecond, are the same.
A report is written over another one, in whatever directories and whatever tree, only if it is of the same process and millisecond, and
the roles end alike behind the last slash of the names; so it is of the same role, if no role has a slash. -/
theorem name_identifies_report {r r' : HeapReport} (hr : r.writtenAt.isValid = true) (hr' : r'.writtenAt.isValid = true) :
    (r.fileName = r'.fileName ↔
      r.role = r'.role ∧ r.pid = r'.pid ∧ r.writtenAt.toMillisecond = r'.writtenAt.toMillisecond) ∧
    ∀ files directory directory', Overwrites files directory r directory' r' →
      r.pid = r'.pid ∧ r.writtenAt.toMillisecond = r'.writtenAt.toMillisecond ∧
      behindSlash ("heap-" ++ r.role).toList = behindSlash ("heap-" ++ r'.role).toList ∧
      ('/' ∉ r.role.toList → '/' ∉ r'.role.toList → r.role = r'.role) := by
  refine ⟨fileName_eq_iff hr hr', fun files directory directory' h => ?_⟩
  obtain ⟨hrole, hpid, hmoment⟩ := same_of_place_eq hr hr' (place_eq_of_overwrites h)
  refine ⟨hpid, hmoment, hrole, fun hslash hslash' => ?_⟩
  rw [String.toList_append, String.toList_append, behindSlash_of_not_mem (by simp [hslash]),
    behindSlash_of_not_mem (by simp [hslash'])] at hrole
  exact String.toList_injective (List.append_cancel_left hrole)

/-- A report whose role has slashes and dots. -/
def masked : HeapReport :=
  { bare with role := "x/../heap-web" }

/-- A directory with the report `bare`, and with the directories that the path and the draft of `masked` lead through. -/
def shared : FileTree :=
  { nodes := [(["reports"], .directory), (["reports", ".heap-x"], .directory), (["reports", bareName], .file bare.text.toUTF8),
      (["reports", "heap-x"], .directory)] }

/-- The names of the report `masked` and of its draft lead through a directory and back. -/
theorem masked_names :
    masked.fileName = "heap-x" ++ "/" ++ (".." ++ "/" ++ bareName) ∧
      masked.draftName = ".heap-x" ++ "/" ++ (".." ++ "/" ++ (bareName ++ ".tmp")) := by
  decide +kernel

theorem masked_text_ne : masked.text ≠ bare.text := by
  intro h
  have hsize : masked.text.utf8ByteSize = bare.text.utf8ByteSize := by rw [h]
  revert hsize
  decide +kernel

/-- A path that leads through a name and back has three names. -/
theorem components_through_dots {first name : String} (hfirst : '/' ∉ first.toList) (hne : first ≠ "") (hname : '/' ∉ name.toList)
    (hname' : name ≠ "") : components (first ++ "/" ++ (".." ++ "/" ++ name)) = [first, "..", name] := by
  rw [components_append_slash, components_append_slash, components_of_not_mem hfirst hne, components_of_not_mem hname hname',
    components_of_not_mem (by decide) (by decide)]
  rfl

/-- Both paths of `masked` lead through a directory and back, and the final one to the place of `bare`. -/
theorem find_shared :
    shared.find (masked.finalPath "reports") = .ok (.entry ["reports", bareName]) ∧
      shared.find (masked.draftPath "reports") = .ok (.entry ["reports", bareName ++ ".tmp"]) ∧
      shared.find (bare.finalPath "reports") = .ok (.entry ["reports", bareName]) := by
  obtain ⟨hname, hdraft⟩ := masked_names
  have hhead : "reports".toList.head? = some 'r' := by decide
  have hlast : "reports".toList.getLast? = some 's' := by decide
  have hdraftName : bareName ++ ".tmp" ≠ "" := by decide +kernel
  refine ⟨?_, ?_, ?_⟩
  · have hnul : '\x00' ∉ "reports".toList ++ masked.fileName.toList := by decide +kernel
    have hshort : "reports".utf8ByteSize + masked.fileName.utf8ByteSize < maxPath := by decide +kernel
    rw [finalPath, join_of_head? (d := 'h') hlast (by decide) (by decide +kernel) (by decide),
      find_below hhead (by decide) hnul hshort, hname, components_through_dots (by decide) (by decide) (by decide +kernel) (by decide +kernel),
      components_reports]
    rfl
  · have hnul : '\x00' ∉ "reports".toList ++ masked.draftName.toList := by decide +kernel
    have hshort : "reports".utf8ByteSize + masked.draftName.utf8ByteSize < maxPath := by decide +kernel
    rw [draftPath, join_of_head? (d := '.') hlast (by decide) (by decide +kernel) (by decide),
      find_below hhead (by decide) hnul hshort, hdraft, components_through_dots (by decide) (by decide) (by decide +kernel) hdraftName,
      components_reports]
    rfl
  · have hfind := (find_below_bare "reports" hhead (by decide) hlast (by decide) (by decide) (by decide) shared).1
    rw [components_reports] at hfind
    exact hfind

/-- Where the directories that the path leads through exist, writing `masked` overwrites `bare`. -/
theorem overwrites_masked : Overwrites shared "reports" masked "reports" bare := by
  obtain ⟨hfinal, hdraft, hbare⟩ := find_shared
  have hplace : shared.place (bare.finalPath "reports") = ["reports", bareName] := (location_of_find hbare).symm
  have hmade : shared.makeDirectories "reports" = (.ok (), shared) := by
    have hhead : "reports".toList.head? = some 'r' := by decide
    rw [makeDirectories, checkPath_of_head? hhead (by decide) (by decide), components_reports, start,
      isAbsolute_of_head? hhead (by decide)]
    rfl
  have hbefore : shared.node? ["reports", bareName] = some (.file bare.text.toUTF8) := rfl
  have hnothing : shared.node? ["reports", bareName ++ ".tmp"] = none := rfl
  have hfree : shared.node? ["reports", bareName ++ ".tmp"] ≠ some .directory := by simp [hnothing]
  refine ⟨bare.text.toUTF8, by rw [hplace, hbefore], ?_⟩
  rw [write_of_found hmade hdraft hfinal hfree, hplace, hbefore]
  simp only
  rw [node?_put_self (List.cons_ne_nil _ _)]
  intro h
  exact masked_text_ne (String.toByteArray_inj.mp (Node.file.inj (Option.some.inj h)))

/-- The role is not told by what a report is written over. -/
theorem masked_overwrites_bare :
    masked.writtenAt.isValid = true ∧ bare.writtenAt.isValid = true ∧ Overwrites shared "reports" masked "reports" bare ∧
      masked.role ≠ bare.role :=
  ⟨by decide, by decide, overwrites_masked, by decide⟩

/-- A report of the leap second has a name of its own, and one that is written within the same millisecond has no other. -/
theorem leap_second_named_apart :
    let leap : HeapReport := { bare with writtenAt := ⟨1699999979, 1005000000⟩ }
    let sameMillisecond : HeapReport := { bare with writtenAt := ⟨1699999979, 1005000999⟩ }
    let next : HeapReport := { bare with writtenAt := ⟨1699999980, 5000000⟩ }
    leap.writtenAt.isValid = true ∧ next.writtenAt.isValid = true ∧ leap.fileName = sameMillisecond.fileName ∧
      leap.fileName ≠ next.fileName ∧ masked.pid = bare.pid := by
  intro leap sameMillisecond next
  have hleap : leap.writtenAt.isValid = true := by decide
  have hnext : next.writtenAt.isValid = true := by decide
  refine ⟨hleap, hnext, ?_, ?_, ?_⟩
  · exact (name_identifies_report hleap (by decide)).1.mpr ⟨rfl, rfl, by decide⟩
  · intro h
    exact absurd ((name_identifies_report hleap hnext).1.mp h).2.2 (by decide)
  · exact ((name_identifies_report (by decide) (by decide)).2 shared "reports" "reports" overwrites_masked).1

end HeapReport

end MemoryWatchdog
