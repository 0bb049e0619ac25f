import MemoryWatchdog.HeapReport.Writing
import MemoryWatchdog.Proofs.FileOperations

/-!
# What writing a report leaves

Until the draft is moved, a write only makes directories that the path of the directory leads through and writes to the draft
(`Drafting`), so everything else stays as it was (`spares_of_drafting`), and the final file comes at once with its whole text
(`write_all_or_nothing`). A directory can be made in the place of the final file, if the path of the directory leads through it
(`failed_write_takes_place`). A write whose move fails leaves its draft behind (`failed_write_leaves_draft`).
-/

namespace MemoryWatchdog

namespace HeapReport

open FileTree Relation

/-! ## The draft and the final file -/

/-- The path of a report ends in no slash. -/
theorem getLast?_finalPath (directory : String) (r : HeapReport) : (r.finalPath directory).toList.getLast? = some 'n' := by
  have hjson : ".json".toList = ['.', 'j', 's', 'o', 'n'] := by decide
  refine getLast?_join ?_
  rw [fileName, String.toList_append, hjson, List.getLast?_append]
  rfl

theorem getLast?_draftPath (directory : String) (r : HeapReport) : (r.draftPath directory).toList.getLast? = some 'p' := by
  have htmp : ".tmp".toList = ['.', 't', 'm', 'p'] := by decide
  refine getLast?_join ?_
  rw [draftName, String.toList_append, htmp, List.getLast?_append]
  rfl

/-- No report is drafted where one, itself or another, goes in the end. -/
theorem place_finalPath_ne_draftPath (directory directory' : String) (r r' : HeapReport) (t : FileTree) :
    t.place (r'.finalPath directory') ≠ t.place (r.draftPath directory) := by
  obtain ⟨_, final, hfinal, hn⟩ := exists_place_of_getLast? (r'.getLast?_finalPath directory') (by decide) (by decide) t
  obtain ⟨_, draft, hdraft, hp⟩ := exists_place_of_getLast? (r.getLast?_draftPath directory) (by decide) (by decide) t
  rw [hfinal, hdraft]
  intro h
  obtain rfl := List.singleton_injective (List.append_inj' h rfl).2
  rw [hn] at hp
  cases hp

/-- In particular a report is not drafted where it goes itself. -/
theorem place_finalPath_ne (directory : String) (r : HeapReport) (t : FileTree) :
    t.place (r.finalPath directory) ≠ t.place (r.draftPath directory) :=
  place_finalPath_ne_draftPath directory directory r r t

/-! ## The steps of a write -/

/-- What is done before a draft is moved: a directory is made at one of some locations, or the draft is made to hold a beginning of
the text. -/
inductive Drafting (through : Location → Prop) (draft : Location) (text : ByteArray) : FileTree → FileTree → Prop
  | directory {t t' : FileTree} (makes : Makes through t t') : Drafting through draft text t t'
  | draft {t : FileTree} (n : Nat) (free : t.node? draft ≠ some .directory) :
      Drafting through draft text t (t.put draft (.file (text.extract 0 n)))

/-- A location has what it had, or it is one of some locations and a directory was made there in place of nothing. -/
def Held (through : Location → Prop) (loc : Location) (t t' : FileTree) : Prop :=
  t'.node? loc = t.node? loc ∨ through loc ∧ t.node? loc = none ∧ t'.node? loc = some .directory

/-- What a tree still has of an earlier one: everything but a draft, with directories more at some locations; and a directory that was
where the draft goes. -/
structure Spares (through : Location → Prop) (draft : Location) (t t' : FileTree) : Prop where
  home : t'.home = t.home
  elsewhere : ∀ loc, loc ≠ draft → Held through loc t t'
  atDraft : t.node? draft = some .directory → t'.node? draft = some .directory

variable {through : Location → Prop} {draft : Location} {text : ByteArray} {t t' : FileTree}

/-- What is held over one step and over the next is held over both. -/
theorem Held.trans {loc : Location} {t'' : FileTree} (h : Held through loc t t') (h' : Held through loc t' t'') :
    Held through loc t t'' := by
  rcases h' with hkept | ⟨hthrough, hnothing, hmade⟩
  · unfold Held
    rw [hkept]
    exact h
  · rcases h with hbefore | ⟨-, -, hbefore⟩
    · exact .inr ⟨hthrough, hbefore.symm.trans hnothing, hmade⟩
    · rw [hnothing] at hbefore
      cases hbefore

/-- A directory stays where it is. -/
theorem Held.directory {loc : Location} (h : Held through loc t t') (hdirectory : t.node? loc = some .directory) :
    t'.node? loc = some .directory := by
  rcases h with hkept | ⟨-, -, hmade⟩
  · exact hkept.trans hdirectory
  · exact hmade

/-- So does a file, and no other comes. -/
theorem Held.file_iff {loc : Location} (h : Held through loc t t') (content : ByteArray) :
    t'.node? loc = some (.file content) ↔ t.node? loc = some (.file content) := by
  rcases h with hkept | ⟨-, hnothing, hmade⟩
  · rw [hkept]
  · rw [hnothing, hmade]
    simp

/-- A directory that comes is one of those. -/
theorem Held.of_directory {loc : Location} (h : Held through loc t t') (hdirectory : t'.node? loc = some .directory) :
    t.node? loc = some .directory ∨ through loc ∧ t.node? loc = none := by
  rcases h with hkept | ⟨hthrough, hnothing, -⟩
  · exact .inl (hkept.symm.trans hdirectory)
  · exact .inr ⟨hthrough, hnothing⟩

/-- What is spared by one step and by the next is spared by both. -/
theorem Spares.trans {t'' : FileTree} (h : Spares through draft t t') (h' : Spares through draft t' t'') :
    Spares through draft t t'' :=
  ⟨h'.home.trans h.home, fun loc hloc => (h.elsewhere loc hloc).trans (h'.elsewhere loc hloc),
    fun hdraft => h'.atDraft (h.atDraft hdraft)⟩

/-- Making directories spares everything. -/
theorem spares_of_makes (h : ReflTransGen (Makes through) t t') (draft : Location) : Spares through draft t t' := by
  obtain ⟨hhome, hnodes⟩ := node?_of_makes h
  exact ⟨hhome, fun loc _ => hnodes loc, Held.directory (hnodes draft)⟩

/-- Writing to the draft, if there is no directory, spares everything else. -/
theorem spares_put (free : t.node? draft ≠ some .directory) (content : ByteArray) :
    Spares through draft t (t.put draft (.file content)) :=
  ⟨rfl, fun _ hloc => .inl (node?_put_of_ne hloc _), fun hdraft => absurd hdraft free⟩

/-- At each moment before the move, everything but the draft is as it was. -/
theorem spares_of_drafting (h : ReflTransGen (Drafting through draft text) t t') : Spares through draft t t' := by
  induction h with
  | refl => exact spares_of_makes .refl draft
  | tail _ hstep ih =>
    cases hstep with
    | directory makes => exact ih.trans (spares_of_makes (.single makes) draft)
    | draft n free => exact ih.trans (spares_put free _)

/-- Making directories is drafting. -/
theorem drafting_of_makes (h : ReflTransGen (Makes through) t t') : ReflTransGen (Drafting through draft text) t t' :=
  ReflTransGen.mono (fun _ _ => .directory) _ _ h

/-- In the last step of drafting the draft comes to hold the whole text. -/
theorem drafting_put (free : t.node? draft ≠ some .directory) : Drafting through draft text t (t.put draft (.file text)) := by
  have hwhole : Drafting through draft text t (t.put draft (.file (text.extract 0 text.size))) := .draft text.size free
  rw [ByteArray.extract_zero_size] at hwhole
  exact hwhole

/-- How a write ends that could make some directories: making them failed, or writing the draft did, or moving it, or all is done. -/
inductive Ends (directory : String) (r : HeapReport) (made : FileTree) : Except WriteError String × FileTree → Prop
  | noDirectory (cause : IoError) : Ends directory r made (.error (.createDirectory directory cause), made)
  | noDraft (cause : IoError) : Ends directory r made (.error (.write (r.draftPath directory) cause), made)
  | notMoved (cause : IoError) (free : made.node? (made.place (r.draftPath directory)) ≠ some .directory) :
      Ends directory r made
        (.error (.rename (r.draftPath directory) (r.finalPath directory) cause),
          made.put (made.place (r.draftPath directory)) (.file r.text.toUTF8))
  | moved (drafted : FileTree) (free : made.node? (made.place (r.draftPath directory)) ≠ some .directory)
      (at_drafted : drafted = made.put (made.place (r.draftPath directory)) (.file r.text.toUTF8))
      (here : drafted.find (r.draftPath directory) = .ok (.entry (made.place (r.draftPath directory))))
      (there : drafted.find (r.finalPath directory) = .ok (.entry (made.place (r.finalPath directory))))
      (clear : drafted.node? (made.place (r.finalPath directory)) ≠ some .directory) :
      Ends directory r made
        (.ok (r.finalPath directory),
          (drafted.erase (made.place (r.draftPath directory))).put (made.place (r.finalPath directory)) (.file r.text.toUTF8))

/-- Each write ends so, after what it made. -/
theorem ends_write (directory : String) (r : HeapReport) (files : FileTree) :
    Ends directory r (files.makeDirectories directory).2 (r.write directory files) := by
  unfold write
  split
  · next cause made hmade =>
    rw [hmade]
    exact .noDirectory cause
  · next made hmade =>
    rw [hmade]
    simp only
    rcases writeFile_cases made (r.draftPath directory) r.text.toUTF8 with ⟨cause, hfailed⟩ | ⟨draft, hfind, hfree, hwritten⟩
    · rw [hfailed]
      exact .noDraft cause
    · rw [hwritten]
      obtain rfl : draft = made.place (r.draftPath directory) := location_of_find hfind
      have hput := node?_put_self (t := made) (ne_nil_of_find hfind) (.file r.text.toUTF8)
      simp only
      rcases rename_cases (made.put (made.place (r.draftPath directory)) (.file r.text.toUTF8)) (r.draftPath directory)
        (r.finalPath directory) with ⟨cause, hfailed⟩ | ⟨here, there, content, hhere, hthere, hcontent, hclear, hmoved⟩
      · rw [hfailed]
        exact .notMoved cause hfree
      · rw [hmoved]
        obtain rfl : here = made.place (r.draftPath directory) := location_of_find hhere
        obtain rfl : there = made.place (r.finalPath directory) := location_of_find hthere
        rw [hput] at hcontent
        obtain rfl := Node.file.inj (Option.some.inj hcontent)
        exact .moved _ hfree rfl hhere hthere hclear

/-- Once the directory is there and the paths lead somewhere, only a directory in the place of the report makes its write fail. -/
theorem write_of_found {directory : String} {r : HeapReport} {files made : FileTree} {draft final : Location}
    (hmade : files.makeDirectories directory = (.ok (), made)) (hdraft : made.find (r.draftPath directory) = .ok (.entry draft))
    (hfinal : made.find (r.finalPath directory) = .ok (.entry final)) (hfree : made.node? draft ≠ some .directory) :
    r.write directory files =
      match made.node? final with
      | some .directory =>
        (.error (.rename (r.draftPath directory) (r.finalPath directory) .isADirectory), made.put draft (.file r.text.toUTF8))
      | _ => (.ok (r.finalPath directory), ((made.put draft (.file r.text.toUTF8)).erase draft).put final (.file r.text.toUTF8)) := by
  have hslash : endsInSlash (r.draftPath directory) = false := endsInSlash_of_getLast? (r.getLast?_draftPath directory) (by decide)
  have hwritten : made.writeFile (r.draftPath directory) r.text.toUTF8 = (.ok (), made.put draft (.file r.text.toUTF8)) := by
    rw [writeFile, hdraft]
    simp only [hslash, Bool.false_eq_true, if_false]
  have hkeeps : made.KeepsDirectories (made.put draft (.file r.text.toUTF8)) := .put_file hfree _
  have hne : final ≠ draft := by
    have hdraft' : draft = made.place (r.draftPath directory) := location_of_find hdraft
    have hfinal' : final = made.place (r.finalPath directory) := location_of_find hfinal
    rw [hdraft', hfinal']
    exact r.place_finalPath_ne directory made
  simp only [write, hmade, hwritten, rename, find_of_keepsDirectories hkeeps rfl hdraft, find_of_keepsDirectories hkeeps rfl hfinal,
    node?_put_self (ne_nil_of_find hdraft), node?_put_of_ne hne]
  rcases hnode : made.node? final with _ | ⟨old⟩ | _
  · rfl
  · rfl
  · rfl

/-! ## All or nothing -/

/-- The files at all locations but two are the same, and no directory is gone. -/
structure OthersKept (draft final : Location) (t t' : FileTree) : Prop where
  files : ∀ loc content, loc ≠ draft → loc ≠ final → (t'.node? loc = some (.file content) ↔ t.node? loc = some (.file content))
  directories : ∀ loc, t.node? loc = some .directory → t'.node? loc = some .directory

/-- What is spared is kept, wherever the final file goes. -/
theorem Spares.othersKept (h : Spares through draft t t') (final : Location) : OthersKept draft final t t' := by
  refine ⟨fun loc content hloc _ => (h.elsewhere loc hloc).file_iff content, fun loc hdirectory => ?_⟩
  by_cases heq : loc = draft
  · subst heq
    exact h.atDraft hdirectory
  · exact (h.elsewhere loc heq).directory hdirectory

/-- A move keeps all others too. -/
theorem OthersKept.move {final : Location} (h : OthersKept draft final t t') {content : ByteArray}
    (hdraft : t'.node? draft = some (.file content)) (hfinal : t'.node? final ≠ some .directory) (text : ByteArray) :
    OthersKept draft final t ((t'.erase draft).put final (.file text)) := by
  refine ⟨fun loc content hd hf => ?_, fun loc hdirectory => ?_⟩
  · rw [node?_put_of_ne hf, node?_erase_of_ne hd]
    exact h.files loc content hd hf
  · have hkept := h.directories loc hdirectory
    have hd : loc ≠ draft := by
      rintro rfl
      rw [hdraft] at hkept
      cases hkept
    have hf : loc ≠ final := by
      rintro rfl
      exact hfinal hkept
    rw [node?_put_of_ne hf, node?_erase_of_ne hd, hkept]

/-- A write that fails does so in a tree that drafting leads to; one that does not moves the whole draft of such a tree. -/
theorem failed_or_moved (directory : String) (r : HeapReport) (files : FileTree) :
    ∃ before,
      ReflTransGen (Drafting (files.LeadsThrough directory) (files.place (r.draftPath directory)) r.text.toUTF8)
        (files.makeDirectories directory).2 before ∧
      ((∃ e, r.write directory files = (.error e, before)) ∨
        before.node? (files.place (r.draftPath directory)) = some (.file r.text.toUTF8) ∧
        before.node? (files.place (r.finalPath directory)) ≠ some .directory ∧
        before.find (r.draftPath directory) = .ok (.entry (files.place (r.draftPath directory))) ∧
        before.find (r.finalPath directory) = .ok (.entry (files.place (r.finalPath directory))) ∧
        r.write directory files =
          (.ok (r.finalPath directory),
            (before.erase (files.place (r.draftPath directory))).put (files.place (r.finalPath directory)) (.file r.text.toUTF8))) := by
  have hhome := (node?_of_makes (makes_makeDirectories files directory)).1
  have hends := ends_write directory r files
  revert hhome hends
  generalize (files.makeDirectories directory).2 = made
  generalize r.write directory files = outcome
  intro hhome hends
  rw [← place_congr hhome (r.draftPath directory), ← place_congr hhome (r.finalPath directory)]
  cases hends with
  | noDirectory cause => exact ⟨made, .refl, .inl ⟨_, rfl⟩⟩
  | noDraft cause => exact ⟨made, .refl, .inl ⟨_, rfl⟩⟩
  | notMoved cause free => exact ⟨_, .single (drafting_put free), .inl ⟨_, rfl⟩⟩
  | moved drafted free at_drafted here there clear =>
    subst at_drafted
    exact ⟨_, .single (drafting_put free), .inr ⟨node?_put_self (ne_nil_of_find here) _, clear, here, there, rfl⟩⟩

/-- A report is written all at once or not at all. At each moment up to the move, all other files and all directories are kept and the
final file is as it was, or a directory was made in its place; the same holds at the end of a write that fails. One that does not fail
answers with the path of the final file, which has the whole text, and its draft is gone. -/
theorem write_all_or_nothing (directory : String) (r : HeapReport) (files : FileTree) :
    let draft := files.place (r.draftPath directory)
    let final := files.place (r.finalPath directory)
    let through := files.LeadsThrough directory
    let made := (files.makeDirectories directory).2
    let outcome := r.write directory files
    (∀ t, ReflTransGen (Drafting through draft r.text.toUTF8) files t →
      OthersKept draft final files t ∧ Held through final files t) ∧
    ReflTransGen (Drafting through draft r.text.toUTF8) files made ∧
    (∃ before, ReflTransGen (Drafting through draft r.text.toUTF8) made before ∧
      ((∃ e, outcome = (.error e, before)) ∨
        before.node? draft = some (.file r.text.toUTF8) ∧
          outcome = (.ok (r.finalPath directory), (before.erase draft).put final (.file r.text.toUTF8)))) ∧
    OthersKept draft final files outcome.2 ∧
    (∀ e, outcome.1 = .error e → Held through final files outcome.2) ∧
    ∀ path, outcome.1 = .ok path → path = r.finalPath directory ∧ outcome.2.readText path = .ok r.text ∧
      outcome.2.pathExists (r.draftPath directory) = false := by
  intro draft final through made outcome
  have hne : final ≠ draft := r.place_finalPath_ne directory files
  have hspares : ∀ t, ReflTransGen (Drafting through draft r.text.toUTF8) files t →
      OthersKept draft final files t ∧ Held through final files t := fun t ht =>
    ⟨(spares_of_drafting ht).othersKept final, (spares_of_drafting ht).elsewhere final hne⟩
  have hmade : ReflTransGen (Drafting through draft r.text.toUTF8) files made :=
    drafting_of_makes (makes_makeDirectories files directory)
  refine ⟨hspares, hmade, ?_⟩
  obtain ⟨before, hbefore, ⟨e, hfailed⟩ | ⟨hwhole, hclear, hhere, hthere, hmoved⟩⟩ := failed_or_moved directory r files
  · have houtcome : outcome = (.error e, before) := hfailed
    rw [houtcome]
    have hkept := hspares before (hmade.trans hbefore)
    refine ⟨⟨before, hbefore, .inl ⟨e, rfl⟩⟩, hkept.1, fun _ _ => hkept.2, ?_⟩
    intro path hpath
    cases hpath
  · have houtcome : outcome = _ := hmoved
    rw [houtcome]
    refine ⟨⟨before, hbefore, .inr ⟨hwhole, rfl⟩⟩, (hspares before (hmade.trans hbefore)).1.move hwhole hclear _, ?_, ?_⟩
    · intro e he
      cases he
    intro path hpath
    obtain rfl : r.finalPath directory = path := Except.ok.inj hpath
    -- The draft is a file, and nothing that is a directory was taken away: both paths still lead where they did.
    have hkeeps : before.KeepsDirectories ((before.erase draft).put final (.file r.text.toUTF8)) := by
      refine KeepsDirectories.trans (.erase_file (by rw [hwhole]; simp)) (.put_file ?_ _)
      rw [node?_erase_of_ne hne]
      exact hclear
    refine ⟨rfl, readText_of_find (find_of_keepsDirectories hkeeps rfl hthere) ?_ (node?_put_self (ne_nil_of_find hthere) _),
      pathExists_of_nothing (find_of_keepsDirectories hkeeps rfl hhere) ?_⟩
    · exact endsInSlash_of_getLast? (r.getLast?_finalPath directory) (by decide)
    · rw [node?_put_of_ne hne.symm]
      exact node?_erase_self (ne_nil_of_find hhere)

/-- A report without measurements. -/
def bare : HeapReport where
  pid := 5000001
  role := "web"
  writtenAt := ⟨1700000000, 5000000⟩
  resident := none
  unique := none
  heap := none
  fragmentation := none

/-- Its name. -/
def bareName : String :=
  "heap-web-5000001-20231114T221320.005Z.json"

/-- The name of its draft. -/
def bareDraft : String :=
  ".heap-web-5000001-20231114T221320.005Z.json.tmp"

/-- The name, character by character. -/
theorem toList_bareName : bareName.toList =
    ['h', 'e', 'a', 'p', '-', 'w', 'e', 'b', '-', '5', '0', '0', '0', '0', '0', '1', '-', '2', '0', '2', '3', '1', '1', '1', '4', 'T',
      '2', '2', '1', '3', '2', '0', '.', '0', '0', '5', 'Z', '.', 'j', 's', 'o', 'n'] :=
  String.toList_ofList

theorem toList_bareDraft : bareDraft.toList = '.' :: (bareName.toList ++ ['.', 't', 'm', 'p']) := by
  rw [toList_bareName]
  exact String.toList_ofList

/-- How the report is named, and how long its names are. -/
theorem bare_names :
    bare.fileName = bareName ∧ bare.draftName = bareDraft ∧ bareName.utf8ByteSize = 42 ∧ bareDraft.utf8ByteSize = 47 := by
  decide +kernel

theorem bareDraft_ne : bareDraft ≠ bareName := by
  intro h
  obtain ⟨-, -, hname, hdraft⟩ := bare_names
  rw [h, hname] at hdraft
  cases hdraft

theorem components_bareName : components bareName = [bareName] := by
  refine components_of_not_mem ?_ ?_
  · rw [toList_bareName]
    decide
  · simp [bareName]

theorem components_bareDraft : components bareDraft = [bareDraft] := by
  refine components_of_not_mem ?_ ?_
  · rw [toList_bareDraft, toList_bareName]
    decide
  · simp [bareDraft]

theorem head?_bareName : bareName.toList.head? = some 'h' := by
  rw [toList_bareName]
  rfl

theorem head?_bareDraft : bareDraft.toList.head? = some '.' := by
  rw [toList_bareDraft]
  rfl

theorem nul_not_mem_bareName : '\x00' ∉ bareName.toList := by
  rw [toList_bareName]
  decide

theorem nul_not_mem_bareDraft : '\x00' ∉ bareDraft.toList := by
  rw [toList_bareDraft, toList_bareName]
  decide

/-- Below a directory the report is found where the names of the directory lead. -/
theorem find_below_bare (directory : String) {c d : Char} (hhead : directory.toList.head? = some c) (hc : c ≠ '/')
    (hlast : directory.toList.getLast? = some d) (hd : d ≠ '/') (hnul : '\x00' ∉ directory.toList)
    (hshort : directory.utf8ByteSize + 47 < maxPath) (t : FileTree) :
    t.find (bare.finalPath directory) = t.target t.home (components directory ++ [bareName]) ∧
      t.find (bare.draftPath directory) = t.target t.home (components directory ++ [bareDraft]) := by
  obtain ⟨hname, hdraft, hnameSize, hdraftSize⟩ := bare_names
  rw [finalPath, draftPath, hname, hdraft, join_of_head? hlast hd head?_bareName (by decide),
    join_of_head? hlast hd head?_bareDraft (by decide), ← components_bareName, ← components_bareDraft]
  refine ⟨find_below hhead hc ?_ (by omega), find_below hhead hc ?_ (by omega)⟩
  · simpa using ⟨hnul, nul_not_mem_bareName⟩
  · simpa using ⟨hnul, nul_not_mem_bareDraft⟩

/-- In the working directory it is written, with its whole text. -/
theorem bare_is_written : (bare.write "" {}).1 = .ok bareName ∧ (bare.write "" {}).2.readText bareName = .ok bare.text := by
  obtain ⟨hname, hdraft, hnameSize, hdraftSize⟩ := bare_names
  have hlong : 47 ≤ maxPath := by decide
  have hfinalPath : bare.finalPath "" = bareName := by rw [finalPath, hname, join_empty head?_bareName (by decide)]
  have hdraftPath : bare.draftPath "" = bareDraft := by rw [draftPath, hdraft, join_empty head?_bareDraft (by decide)]
  have hfindFinal : ({} : FileTree).find (bare.finalPath "") = .ok (.entry [bareName]) := by
    rw [hfinalPath, find_of_head? head?_bareName (by decide) nul_not_mem_bareName (by omega), components_bareName]
    rfl
  have hfindDraft : ({} : FileTree).find (bare.draftPath "") = .ok (.entry [bareDraft]) := by
    rw [hdraftPath, find_of_head? head?_bareDraft (by decide) nul_not_mem_bareDraft (by omega), components_bareDraft]
    rfl
  have hmade : ({} : FileTree).makeDirectories "" = (.ok (), {}) := rfl
  have hwritten : (bare.write "" {}).1 = .ok bareName := by
    rw [write_of_found hmade hfindDraft hfindFinal (by simp [node?])]
    exact congrArg Except.ok hfinalPath
  obtain ⟨-, -, -, -, -, hread⟩ := write_all_or_nothing "" bare {}
  exact ⟨hwritten, (hread bareName hwritten).2.1⟩

/-- Where the directory of the reports is reached through the place of a report, making it takes that place. -/
theorem failed_write_takes_place :
    let directory := "heap-web-5000001-20231114T221320.005Z.json" ++ "/" ++ ".."
    (∃ e, (bare.write directory {}).1 = .error e) ∧
      ({} : FileTree).node? (({} : FileTree).place (bare.finalPath directory)) = none ∧
      (bare.write directory {}).2.node? (({} : FileTree).place (bare.finalPath directory)) = some .directory := by
  intro directory
  have hdots : components ".." = [".."] := components_of_not_mem (by decide) (by decide)
  have hnames : components directory = [bareName, ".."] := by
    rw [← List.singleton_append, ← components_bareName, ← hdots]
    exact components_append_slash bareName ".."
  have hchars : directory.toList = bareName.toList ++ ['/', '.', '.'] := by
    have hend : "..".toList = ['.', '.'] := by decide
    change (bareName ++ "/" ++ "..").toList = _
    rw [String.toList_append, String.toList_append, toList_slash, hend, List.append_assoc]
    rfl
  have hhead : directory.toList.head? = some 'h' := by rw [hchars, List.head?_append, head?_bareName, Option.some_or]
  have hlast : directory.toList.getLast? = some '.' := by
    rw [hchars, List.getLast?_append]
    rfl
  have hnul : '\x00' ∉ directory.toList := by
    rw [hchars]
    simpa using nul_not_mem_bareName
  have hsize : directory.utf8ByteSize = 42 + 1 + 2 := by
    change (bareName ++ "/" ++ "..").utf8ByteSize = _
    rw [String.utf8ByteSize_append, String.utf8ByteSize_append, bare_names.2.2.1]
    rfl
  have hlong : 42 + 1 + 2 + 47 < maxPath := by decide
  have hfind := find_below_bare directory hhead (by decide) hlast (by decide) hnul (by omega)
  rw [hnames] at hfind
  let made : FileTree := { nodes := [([bareName], .directory)] }
  have hmade : ({} : FileTree).makeDirectories directory = (.ok (), made) := by
    have hempty : directory.isEmpty = false := by
      rw [String.isEmpty_eq_false_iff]
      intro h
      rw [h] at hsize
      cases hsize
    rw [makeDirectories, hempty, checkPath_of_head? hhead hnul (by omega), plainComponents, hnames, start,
      isAbsolute_of_head? hhead (by decide)]
    rfl
  have hfree : made.node? [bareDraft] ≠ some .directory := by
    simp [made, node?, List.lookup_cons, beq_false_of_ne bareDraft_ne]
  have hwritten := write_of_found hmade (hfind made).2 (hfind made).1 hfree
  have hplace : ({} : FileTree).place (bare.finalPath directory) = [bareName] := (location_of_find (hfind made).1).symm
  rw [hwritten, hplace]
  exact ⟨⟨_, rfl⟩, rfl, rfl⟩

/-! ## What a failed write leaves -/

/-- What is where the draft goes, if nothing was: no file, unless it was the move that failed. -/
theorem draft_after_failed_write {directory : String} {r : HeapReport} {files after : FileTree} {e : WriteError}
    (hfresh : files.node? (files.place (r.draftPath directory)) = none) (h : r.write directory files = (.error e, after)) :
    Held (files.LeadsThrough directory) (files.place (r.draftPath directory)) files after ∧
        (∀ cause, e ≠ .rename (r.draftPath directory) (r.finalPath directory) cause) ∨
      after.node? (files.place (r.draftPath directory)) = some (.file r.text.toUTF8) ∧
        ∃ cause, e = .rename (r.draftPath directory) (r.finalPath directory) cause := by
  have hmakes := makes_makeDirectories files directory
  have hends := ends_write directory r files
  rw [h] at hends
  revert hmakes hends
  generalize (files.makeDirectories directory).2 = made
  intro hmakes hends
  obtain ⟨hhome, hnodes⟩ := node?_of_makes hmakes
  rw [← place_congr hhome (r.draftPath directory)] at hfresh ⊢
  cases hends with
  | noDirectory cause => exact .inl ⟨hnodes _, fun _ => by simp⟩
  | noDraft cause => exact .inl ⟨hnodes _, fun _ => by simp⟩
  | notMoved cause free => exact .inr ⟨node?_put_self (ne_nil_of_node?_eq_none hfresh) _, cause, rfl⟩

/-- A write that fails leaves all files as they were and, if it was the move that failed, the whole draft. It takes no directory away
and makes only such that the path of the directory leads through. This is about what the tree refuses; a disk that fills up during the
draft's write leaves an empty draft or its beginning (`FileTree.writeFile`). -/
theorem failed_write_leaves_draft {directory : String} {r : HeapReport} {files after : FileTree} {e : WriteError}
    (hfresh : files.node? (files.place (r.draftPath directory)) = none) (h : r.write directory files = (.error e, after)) :
    (∀ loc content, loc ≠ files.place (r.draftPath directory) →
      (after.node? loc = some (.file content) ↔ files.node? loc = some (.file content))) ∧
    (∀ content, after.node? (files.place (r.draftPath directory)) = some (.file content) ↔
      content = r.text.toUTF8 ∧ ∃ cause, e = .rename (r.draftPath directory) (r.finalPath directory) cause) ∧
    (∀ loc, files.node? loc = some .directory → after.node? loc = some .directory) ∧
    ∀ loc, after.node? loc = some .directory →
      files.node? loc = some .directory ∨ files.LeadsThrough directory loc ∧ files.node? loc = none := by
  have hspares : Spares (files.LeadsThrough directory) (files.place (r.draftPath directory)) files after := by
    obtain ⟨before, hbefore, ⟨_, hfailed⟩ | ⟨-, -, -, -, hmoved⟩⟩ := failed_or_moved directory r files
    · rw [h] at hfailed
      cases hfailed
      exact (spares_of_makes (makes_makeDirectories files directory) _).trans (spares_of_drafting hbefore)
    · rw [h] at hmoved
      cases hmoved
  have hdraft := draft_after_failed_write hfresh h
  refine ⟨fun loc content hloc => (hspares.elsewhere loc hloc).file_iff content, fun content => ?_,
    (hspares.othersKept (files.place (r.draftPath directory))).directories, fun loc hdirectory => ?_⟩
  · rcases hdraft with ⟨hheld, hnot⟩ | ⟨hwhole, hrename⟩
    · rw [hheld.file_iff, hfresh]
      simp [hnot]
    · rw [hwhole]
      constructor
      · intro hcontent
        exact ⟨(Node.file.inj (Option.some.inj hcontent)).symm, hrename⟩
      · rintro ⟨rfl, -⟩
        rfl
  · by_cases heq : loc = files.place (r.draftPath directory)
    · subst heq
      rcases hdraft with ⟨hheld, -⟩ | ⟨hwhole, -⟩
      · exact hheld.of_directory hdirectory
      · rw [hwhole] at hdirectory
        cases hdirectory
    · exact (hspares.elsewhere loc heq).of_directory hdirectory

/-- A directory in the place of a report. -/
def blocked : FileTree :=
  { nodes := [(["reports"], .directory), (["reports", bareName], .directory)] }

theorem components_reports : components "reports" = ["reports"] :=
  components_of_not_mem (by decide) (by decide)

/-- Both paths are looked up below the directory. -/
theorem find_blocked :
    blocked.find (bare.finalPath "reports") = .ok (.entry ["reports", bareName]) ∧
      blocked.find (bare.draftPath "reports") = .ok (.entry ["reports", bareDraft]) := by
  have hhead : "reports".toList.head? = some 'r' := by decide
  have hlast : "reports".toList.getLast? = some 's' := by decide
  have hfind := find_below_bare "reports" hhead (by decide) hlast (by decide) (by decide) (by decide) blocked
  rw [components_reports] at hfind
  exact hfind

theorem place_draft_blocked : blocked.place (bare.draftPath "reports") = ["reports", bareDraft] :=
  (location_of_find find_blocked.2).symm

/-- Nothing is there before the write. -/
theorem node?_draft_blocked : blocked.node? (blocked.place (bare.draftPath "reports")) = none := by
  rw [place_draft_blocked]
  simp [node?, blocked, List.lookup_cons, beq_false_of_ne bareDraft_ne]

/-- The write gets as far as the move and leaves the whole draft. -/
theorem write_blocked :
    bare.write "reports" blocked =
      (.error (.rename (bare.draftPath "reports") (bare.finalPath "reports") .isADirectory),
        blocked.put ["reports", bareDraft] (.file bare.text.toUTF8)) := by
  have hmade : blocked.makeDirectories "reports" = (.ok (), blocked) := by
    have hhead : "reports".toList.head? = some 'r' := by decide
    rw [makeDirectories, checkPath_of_head? hhead (by decide) (by decide), components_reports, start,
      isAbsolute_of_head? hhead (by decide)]
    rfl
  have hfree : blocked.node? ["reports", bareDraft] ≠ some .directory := by
    rw [← place_draft_blocked, node?_draft_blocked]
    simp
  rw [write_of_found hmade find_blocked.2 find_blocked.1 hfree]
  rfl

/-- The draft that the failed write leaves was not there before. -/
theorem blocked_write_leaves_draft :
    blocked.node? (blocked.place (bare.draftPath "reports")) = none ∧
      ∃ e after, bare.write "reports" blocked = (.error e, after) ∧
        after.node? (blocked.place (bare.draftPath "reports")) = some (.file bare.text.toUTF8) := by
  refine ⟨node?_draft_blocked, _, _, write_blocked, ?_⟩
  rw [place_draft_blocked]
  exact node?_put_self (List.cons_ne_nil _ _) _

/-- The draft that is left is the only file that is new, and it was the move that failed. -/
theorem blocked_write_keeps_others :
    blocked.node? (blocked.place (bare.draftPath "reports")) = none ∧
      ∃ e after, bare.write "reports" blocked = (.error e, after) ∧
        ∀ content, after.node? (blocked.place (bare.draftPath "reports")) = some (.file content) ↔
          content = bare.text.toUTF8 ∧ ∃ cause, e = .rename (bare.draftPath "reports") (bare.finalPath "reports") cause :=
  ⟨node?_draft_blocked, _, _, write_blocked, (failed_write_leaves_draft node?_draft_blocked write_blocked).2.1⟩

end HeapReport

end MemoryWatchdog
