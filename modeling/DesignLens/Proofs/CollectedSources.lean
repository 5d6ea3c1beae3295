import DesignLens.Proofs.CollectorAgreement
import Mathlib.Data.List.Infix

/-!
# What is collected

An entry stands for certain files of a tree: one with wildcards for source files in a folder, one
that leads to a folder for all source files below it, and one that leads to a source file for that
file. The collection for a list of entries holds each file that one of them stands for once, and
nothing else.

A path that leads from a folder on to a file below it can be followed unless it is too long. So a
collection fails only if a path is too long, or for two stars beside other characters.
-/

namespace DesignLens.Workspace

/-! ## Suffixes -/

theorem eq_takeWhile_point {cs : List Char}
    (h : (cs.drop (cs.takeWhile (· != '.')).length).drop 1 ≠ []) :
    ∃ rest, cs = cs.takeWhile (· != '.') ++ '.' :: rest := by
  induction cs with
  | nil => exact absurd rfl h
  | cons c cs ih =>
    by_cases hc : c = '.'
    · exact ⟨cs, by simp [hc]⟩
    · have hstep : (c :: cs).takeWhile (· != '.') = c :: cs.takeWhile (· != '.') := by simp [hc]
      rw [hstep, List.length_cons, List.drop_succ_cons] at h
      obtain ⟨rest, hrest⟩ := ih h
      refine ⟨rest, ?_⟩
      rw [hstep, List.cons_append, ← hrest]

/-- A name with a suffix ends in it. -/
theorem endsWith_of_suffixOf {name ending : String} (h : Path.suffixOf name = ending)
    (hending : ending ≠ "") : Text.endsWith ending name = true := by
  unfold Path.suffixOf at h
  simp only at h
  split_ifs at h with hnone
  · exact absurd h.symm hending
  · simp only [Bool.or_eq_true, List.isEmpty_iff, not_or] at hnone
    obtain ⟨rest, hrest⟩ := eq_takeWhile_point hnone.2
    rw [Text.endsWith, List.isSuffixOf_iff_suffix, ← h, String.toList_ofList]
    refine ⟨rest.reverse, ?_⟩
    rw [← List.reverse_inj]
    simpa using hrest.symm

/-! ## Patterns -/

theorem matchesWilds_exactly (ending cs : List Char) :
    matchesWilds (ending.map Wild.exactly) cs = true ↔ cs = ending := by
  induction ending generalizing cs with
  | nil => simp [matchesWilds]
  | cons d ending ih =>
    cases cs with
    | nil => simp [matchesWilds]
    | cons c cs => simp [matchesWilds, Wild.accepts, ih]

theorem eq_up_of_matchesPattern {name : String} (h : matchesPattern ".." name = true) :
    name = ".." := by
  have hwilds : wildsOf "..".toList = ['.', '.'].map Wild.exactly := by
    simp [wildsOf]
  rw [matchesPattern, hwilds, matchesWilds_exactly] at h
  exact String.toList_inj.mp h

variable {t : Tree} {p : Path} {c : Content}

/-! ## From a folder on to a file below it -/

/-- A tree as file systems have them: every part of the place of a file is a proper name, and no
place is that of a file and of a folder. -/
structure Tree.Proper (t : Tree) : Prop where
  names : t.OfNames
  down : ∀ f ∈ t.files, ".." ∉ f.1
  writable : ∀ f ∈ t.files, ∀ name ∈ f.1, '\x00' ∉ name.toList
  apart : ∀ f ∈ t.files, t.isFolderAt f.1 = false

/-- Nothing leads back on the way from a folder to a file below it. -/
theorem Tree.Proper.down_to_file (ht : t.Proper) {place more : Place}
    (h : t.fileAt? (place ++ more) = some c) : ".." ∉ more := fun hup =>
  ht.down _ (Tree.mem_files_of_fileAt? h) (List.mem_append_right _ hup)

/-- The path that goes on from a path along more names. -/
def Path.along (p : Path) (more : List String) : Path := ⟨p.absolute, p.parts ++ more⟩

theorem Path.destination_along {more : List String} (hdown : ".." ∉ more) :
    (p.along more).destination = p.destination ++ more := by
  rw [Path.destination, Path.along, destinationFrom_append, destinationFrom_of_down hdown]
  rfl

theorem Path.onward_append (place : Place) (more : List String) :
    p.onward place (place ++ more) = p.along more := by
  rw [Path.onward, Path.along, List.drop_left]

theorem Tree.locate_along (ht : t.Proper) (hrooted : t.Rooted) {more : List String}
    (hlocate : t.locate p = .ok p.destination)
    (hfile : t.fileAt? (p.destination ++ more) = some c) :
    t.locate (p.along more) = .ok (p.destination ++ more) ∨
      t.locate (p.along more) = .error .nameTooLong := by
  obtain ⟨hrelative, -, hfollow⟩ := Tree.locate_eq_ok.mp hlocate
  have hmem := Tree.mem_files_of_fileAt? hfile
  have hdown := ht.down_to_file hfile
  have hway : t.follow [] (p.along more).parts = t.follow p.destination more := by
    rw [Path.along, Tree.follow_append, hfollow]
    rfl
  unfold Tree.locate
  rw [hway, Path.along, hrelative, if_neg Bool.false_ne_true]
  split_ifs
  · exact Or.inr rfl
  · exact Tree.follow_down_to_file hrooted hdown hmem

/-- A path that goes on from a folder to a file below it leads to a file, unless it is too long to
tell. -/
theorem Tree.isFile_along (ht : t.Proper) (hrooted : t.Rooted) (hfolder : t.isFolder p = .ok true)
    {more : List String} (hfile : t.fileAt? (p.destination ++ more) = some c) :
    t.isFile (p.along more) ≠ .ok false := by
  -- only the length of the path is left to fail: its names are proper and its folders are there
  obtain ⟨hwritable, hlocate, -⟩ := Tree.isFolder_eq_true.mp hfolder
  have hmem := Tree.mem_files_of_fileAt? hfile
  have hdown := ht.down_to_file hfile
  have hwritable : (p.along more).isWritable = true := by
    rw [Path.isWritable_iff] at hwritable ⊢
    intro name hname
    rcases List.mem_append.mp hname with hname | hname
    · exact hwritable name hname
    · exact ht.writable _ hmem name (List.mem_append_right _ hname)
  rcases Tree.locate_along ht hrooted hlocate hfile with hplace | hlong
  · have hthere : t.isFile (p.along more) = .ok true := by
      rw [← Path.destination_along hdown] at hplace hfile hmem
      exact Tree.isFile_eq_true.mpr
        ⟨c, Tree.content_eq_ok.mpr ⟨hwritable, hplace, ht.apart _ hmem, hfile⟩⟩
    rw [hthere]
    exact fun h => nomatch h
  · have hfails : t.isFile (p.along more) = .error (refusal .nameTooLong (p.along more)) :=
      map_eq_error.mpr (Tree.look_eq_error.mpr ⟨hwritable, hlong, rfl⟩)
    rw [hfails]
    exact fun h => nomatch h

/-- What a path on from another one leads to, if that is a file. -/
theorem Tree.fileAt?_along {more : List String} (hdown : ".." ∉ more)
    (h : t.isFile (p.along more) = .ok true) :
    t.locate (p.along more) = .ok (p.destination ++ more) ∧
      ∃ c, t.fileAt? (p.destination ++ more) = some c := by
  obtain ⟨c, hc⟩ := Tree.isFile_eq_true.mp h
  obtain ⟨-, hlocate, -, hfile⟩ := Tree.content_eq_ok.mp hc
  rw [Path.destination_along hdown] at hlocate hfile
  exact ⟨hlocate, c, hfile⟩

/-! ## What entries stand for -/

/-- The files that an entry stands for. An entry with wildcards stands for files in the folder that
the rest of it leads to, and any other for the file it leads to or the files below its folder. -/
inductive StandsFor (t : Tree) (entry : String) : Place → Prop
  | matching {name : String} {c : Content} : isPattern entry = true →
      Text.occurs "**" (Path.ofString entry).name = false →
      t.isFolder (Path.ofString entry).parent = .ok true →
      t.fileAt? ((Path.ofString entry).parent.destination ++ [name]) = some c →
      matchesPattern (Path.ofString entry).name name = true → Path.suffixOf name = ".py" →
      StandsFor t entry ((Path.ofString entry).parent.destination ++ [name])
  | below {more : List String} {c : Content} : isPattern entry = false →
      t.isFolder (Path.ofString entry) = .ok true →
      t.fileAt? ((Path.ofString entry).destination ++ more) = some c →
      Text.endsWith ".py" (more.getLastD "") = true →
      StandsFor t entry ((Path.ofString entry).destination ++ more)
  | itself : isPattern entry = false → t.isFile (Path.ofString entry) = .ok true →
      (Path.ofString entry).suffix = ".py" → StandsFor t entry (Path.ofString entry).destination

section
variable {entry : String} {entries : List String} {files found : List Path} {place : Place}

theorem Tree.mem_namesIn {name : String} (hfile : t.fileAt? (place ++ [name]) = some c) :
    name ∈ t.namesIn place := by
  have hmem := Tree.mem_files_of_fileAt? hfile
  unfold Tree.namesIn
  rw [Text.sort, (List.mergeSort_perm _ _).mem_iff]
  refine List.mem_map.mpr ⟨place ++ [name], List.mem_filter.mpr ⟨?_, by simp⟩, by simp⟩
  exact List.mem_append_right _ (List.mem_map_of_mem (f := Prod.fst) hmem)

/-- The double point has no suffix. -/
theorem ne_up_of_suffixOf {name : String} (h : Path.suffixOf name = ".py") : name ≠ ".." := by
  rintro rfl
  exact absurd h (by decide)

theorem exists_matched_iff (ht : t.Proper) (hrooted : t.Rooted) {folder : Path} {pattern : String}
    (hfound : matching t folder pattern = .ok found)
    (h : found.filterM (fun q => do return (← t.isFile q) && q.suffix == ".py") = .ok files) :
    (∃ file ∈ files, t.locate file = .ok place) ↔
      Text.occurs "**" pattern = false ∧ t.isFolder folder = .ok true ∧
        ∃ name c, t.fileAt? (folder.destination ++ [name]) = some c ∧
          matchesPattern pattern name = true ∧ Path.suffixOf name = ".py" ∧
          place = folder.destination ++ [name] := by
  constructor
  · rintro ⟨file, hfile, hplace⟩
    obtain ⟨hmem, htest⟩ := mem_of_filterM h hfile
    obtain ⟨⟨-, hstars⟩, hfolder, name, -, hmatch, rfl⟩ := (mem_matching_iff hfound).mp hmem
    obtain ⟨isFile, hisFile, htest⟩ := matched_eq_ok.mp htest
    simp only [Bool.and_eq_true, beq_iff_eq] at htest
    have hsuffix : Path.suffixOf name = ".py" := by
      simpa [Path.suffix, Path.name, Path.child] using htest.2
    have hdown : ".." ∉ [name] := by simpa using (ne_up_of_suffixOf hsuffix).symm
    obtain ⟨hlocate, c, hc⟩ := Tree.fileAt?_along hdown (htest.1 ▸ hisFile)
    exact ⟨hstars, hfolder, name, c, hc, hmatch, hsuffix,
      Except.ok.inj (hplace.symm.trans hlocate)⟩
  · rintro ⟨hstars, hfolder, name, c, hc, hmatch, hsuffix, rfl⟩
    have hup : pattern ≠ ".." := by
      rintro rfl
      exact ne_up_of_suffixOf hsuffix (eq_up_of_matchesPattern hmatch)
    have hmem : folder.child name ∈ found :=
      (mem_matching_iff hfound).mpr
        ⟨⟨hup, hstars⟩, hfolder, name, Tree.mem_namesIn hc, hmatch, rfl⟩
    -- the selection was made, so the path was not too long to be tested
    have hkept : folder.child name ∈ files := by
      refine mem_filterM_of_ne h hmem fun htest => ?_
      obtain ⟨isFile, hisFile, htest⟩ := matched_eq_ok.mp htest
      have hchild : (folder.child name).suffix = ".py" := by
        simpa [Path.suffix, Path.name, Path.child] using hsuffix
      rw [hchild, beq_self_eq_true, Bool.and_true] at htest
      exact Tree.isFile_along ht hrooted hfolder hc (htest ▸ hisFile)
    have hdown : ".." ∉ [name] := by simpa using (ne_up_of_suffixOf hsuffix).symm
    obtain ⟨-, htest⟩ := mem_of_filterM h hkept
    obtain ⟨isFile, hisFile, htest⟩ := matched_eq_ok.mp htest
    have hisFile : t.isFile (folder.along [name]) = .ok true :=
      (Bool.and_eq_true_iff.mp htest).1 ▸ hisFile
    exact ⟨_, hkept, (Tree.fileAt?_along hdown hisFile).1⟩

theorem Tree.mem_filesBelow {more : List String} (hfile : t.fileAt? (place ++ more) = some c) :
    place ++ more ∈ t.filesBelow place := by
  have hmem := Tree.mem_files_of_fileAt? hfile
  unfold Tree.filesBelow
  rw [(List.mergeSort_perm _ _).mem_iff]
  refine List.mem_filter.mpr ⟨List.mem_map_of_mem (f := Prod.fst) hmem, ?_⟩
  exact List.isPrefixOf_iff_prefix.mpr (List.prefix_append place more)

theorem getLastD_append {more : List String} (hmore : more ≠ []) :
    (place ++ more).getLastD "" = more.getLastD "" := by
  rw [List.getLastD_eq_getLast?, List.getLastD_eq_getLast?, List.getLast?_append_of_ne_nil _ hmore]

/-- What is collected below a folder lies below it. -/
theorem along_of_sourcesBelow (ht : t.Proper) (hfolder : t.isFolder p = .ok true) {file : Path}
    (h : sourcesBelow t p p.destination = .ok files) (hfile : file ∈ files) :
    ∃ more, more ≠ [] ∧ ".." ∉ more ∧ Text.endsWith ".py" (more.getLastD "") = true ∧
      file = p.along more ∧ t.isFile file = .ok true := by
  obtain ⟨⟨q, content⟩, hf, ⟨more, rfl⟩, hending, rfl, hisFile⟩ := mem_of_sourcesBelow h hfile
  have hmore : more ≠ [] := by
    rintro rfl
    have hapart := ht.apart _ hf
    rw [List.append_nil, (Tree.isFolder_eq_true.mp hfolder).2.2] at hapart
    exact nomatch hapart
  have hdown : ".." ∉ more := fun hup => ht.down _ hf (List.mem_append_right _ hup)
  rw [getLastD_append hmore] at hending
  rw [Path.onward_append] at hisFile ⊢
  exact ⟨more, hmore, hdown, hending, rfl, hisFile⟩

theorem exists_below_iff (ht : t.Proper) (hrooted : t.Rooted) (hfolder : t.isFolder p = .ok true)
    (h : sourcesBelow t p p.destination = .ok files) :
    (∃ file ∈ files, t.locate file = .ok place) ↔
      ∃ more c, t.fileAt? (p.destination ++ more) = some c ∧
        Text.endsWith ".py" (more.getLastD "") = true ∧ place = p.destination ++ more := by
  constructor
  · rintro ⟨file, hfile, hplace⟩
    obtain ⟨more, -, hdown, hending, rfl, hisFile⟩ := along_of_sourcesBelow ht hfolder h hfile
    obtain ⟨hlocate, c, hc⟩ := Tree.fileAt?_along hdown hisFile
    exact ⟨more, c, hc, hending, Except.ok.inj (hplace.symm.trans hlocate)⟩
  · rintro ⟨more, c, hc, hending, rfl⟩
    have hmore : more ≠ [] := by
      rintro rfl
      exact absurd hending (by decide)
    have hdown := ht.down_to_file hc
    obtain ⟨named, hnamed, h⟩ := bind_eq_ok.mp h
    obtain rfl := eq_of_namedBelow hnamed
    have hkept : p.along more ∈ files := by
      refine mem_filterM_of_ne h ?_ (Tree.isFile_along ht hrooted hfolder hc)
      rw [← Path.onward_append p.destination more]
      refine List.mem_map_of_mem (List.mem_filter.mpr ⟨Tree.mem_filesBelow hc, ?_⟩)
      rw [getLastD_append hmore]
      exact hending
    exact ⟨_, hkept, (Tree.fileAt?_along hdown (mem_of_filterM h hkept).2).1⟩

/-- What is collected for an entry leads to the files that the entry stands for. -/
theorem standsFor_iff (ht : t.Proper) (hrooted : t.Rooted) (h : sourcesOf t entry = .ok files) :
    (∃ file ∈ files, t.locate file = .ok place) ↔ StandsFor t entry place := by
  rcases sourcesOf_cases h with
    ⟨hpattern, found, hfound, h⟩ | ⟨hpattern, hfolder, h⟩ |
      ⟨hpattern, hfolder, isFile, hisFile, rfl⟩
  · rw [exists_matched_iff ht hrooted hfound h]
    constructor
    · rintro ⟨hstars, hfolder, name, c, hc, hmatch, hsuffix, rfl⟩
      exact .matching hpattern hstars hfolder hc hmatch hsuffix
    · intro hstands
      cases hstands with
      | @matching name c _ hstars hfolder hc hmatch hsuffix =>
        exact ⟨hstars, hfolder, name, c, hc, hmatch, hsuffix, rfl⟩
      | below hplain => exact nomatch hpattern.symm.trans hplain
      | itself hplain => exact nomatch hpattern.symm.trans hplain
  · rw [exists_below_iff ht hrooted hfolder h]
    constructor
    · rintro ⟨more, c, hc, hending, rfl⟩
      exact .below hpattern hfolder hc hending
    · intro hstands
      cases hstands with
      | matching hwild => exact nomatch hpattern.symm.trans hwild
      | @below more c _ _ hc hending => exact ⟨more, c, hc, hending, rfl⟩
      | itself _ hfile =>
        obtain ⟨c, hc⟩ := Tree.isFile_eq_true.mp hfile
        have hplace := (Tree.isFolder_eq_true.mp hfolder).2.2
        exact nomatch hplace.symm.trans (Tree.content_eq_ok.mp hc).2.2.1
  · constructor
    · rintro ⟨file, hfile, hplace⟩
      split_ifs at hfile with hboth
      · obtain rfl := List.mem_singleton.mp hfile
        rw [Bool.and_eq_true, beq_iff_eq] at hboth
        rw [Tree.destination_of_locate hplace]
        exact .itself hpattern (hboth.1 ▸ hisFile) hboth.2
      · exact absurd hfile List.not_mem_nil
    · intro hstands
      cases hstands with
      | matching hwild => exact nomatch hpattern.symm.trans hwild
      | below _ hyes => exact nomatch Except.ok.inj (hfolder.symm.trans hyes)
      | itself _ hfile hsuffix =>
        obtain ⟨c, hc⟩ := Tree.isFile_eq_true.mp hfile
        obtain rfl := Except.ok.inj (hisFile.symm.trans hfile)
        rw [hsuffix]
        exact ⟨_, List.mem_singleton_self _, (Tree.content_eq_ok.mp hc).2.1⟩

/-! ## Failures -/

/-- Why the collection for an entry fails. -/
inductive Refused (t : Tree) (entry : String) : Failure → Prop
  | stars : isPattern entry = true → (Path.ofString entry).name ≠ "**" →
      Text.occurs "**" (Path.ofString entry).name = true →
      Refused t entry (.badValue "Invalid pattern: '**' can only be an entire path component")
  | long {p : Path} : (Path.ofString entry).parent.parts <+: p.parts →
      t.locate p = .error .nameTooLong → Refused t entry (refusal .nameTooLong p)

theorem Refused.of_look {failure : Failure} (hpath : (Path.ofString entry).parent.parts <+: p.parts)
    (h : t.look p = .error failure) : Refused t entry failure := by
  obtain ⟨-, hlong, rfl⟩ := Tree.look_eq_error.mp h
  exact .long hpath hlong

theorem parent_prefix_onward (place below : Place) :
    p.parent.parts <+: (p.onward place below).parts :=
  (List.dropLast_prefix p.parts).trans (List.prefix_append _ _)

theorem refused_of_matching {failure : Failure} (hpattern : isPattern entry = true)
    (h : matching t (Path.ofString entry).parent (Path.ofString entry).name = .error failure) :
    Refused t entry failure := by
  unfold Workspace.matching at h
  split_ifs at h with hnone hstars
  · obtain rfl := Except.error.inj h
    refine .stars hpattern (fun hname => hnone ?_) hstars
    rw [hname]
    rfl
  · rcases bind_eq_error.mp h with h | ⟨isFolder, hisFolder, h⟩
    · exact .of_look List.prefix_rfl (map_eq_error.mp h)
    · cases isFolder with
      | false => exact nomatch h
      | true =>
        rw [(Tree.isFolder_eq_true.mp hisFolder).2.1] at h
        exact nomatch h

theorem refused_of_sourcesBelow {failure : Failure} {folder : Place}
    (h : sourcesBelow t (Path.ofString entry) folder = .error failure) :
    Refused t entry failure := by
  rcases bind_eq_error.mp h with h | ⟨named, hnamed, h⟩
  · rcases bind_eq_error.mp h with h | ⟨entered, -, h⟩
    · obtain ⟨before, q, after, -, -, h⟩ := mapM_eq_error.mp h
      exact .of_look (parent_prefix_onward folder q) (map_eq_error.mp h)
    · exact nomatch h
  · obtain rfl := eq_of_namedBelow hnamed
    obtain ⟨path, hpath, h⟩ := exists_of_filterM_eq_error h
    obtain ⟨q, -, rfl⟩ := List.mem_map.mp hpath
    exact .of_look (parent_prefix_onward folder q) (map_eq_error.mp h)

theorem refused_of_sourcesOf {failure : Failure} (h : sourcesOf t entry = .error failure) :
    Refused t entry failure := by
  unfold sourcesOf at h
  simp only at h
  split_ifs at h with hpattern
  · rcases bind_eq_error.mp h with h | ⟨found, hfound, h⟩
    · exact refused_of_matching hpattern h
    · obtain ⟨file, hfile, h⟩ := exists_of_filterM_eq_error h
      obtain ⟨-, -, name, -, -, rfl⟩ := (mem_matching_iff hfound).mp hfile
      rcases bind_eq_error.mp h with h | ⟨isFile, -, h⟩
      · exact .of_look (List.prefix_append _ _) (map_eq_error.mp h)
      · exact nomatch h
  · rcases bind_eq_error.mp h with h | ⟨isFolder, hisFolder, h⟩
    · exact .of_look (List.dropLast_prefix _) (map_eq_error.mp h)
    · cases isFolder with
      | true =>
        rw [(Tree.isFolder_eq_true.mp hisFolder).2.1] at h
        exact refused_of_sourcesBelow h
      | false =>
        rcases bind_eq_error.mp h with h | ⟨isFile, -, h⟩
        · exact .of_look (List.dropLast_prefix _) (map_eq_error.mp h)
        · split_ifs at h
          · exact nomatch h
          · exact nomatch h

/-! ## The collection -/

/-- A name that is collected ends like the names of source files. -/
theorem endsWith_of_sourcesOf (ht : t.Proper) {file : Path} (h : sourcesOf t entry = .ok files)
    (hfile : file ∈ files) : Text.endsWith ".py" file.name = true := by
  rcases sourcesOf_cases h with ⟨-, found, -, h⟩ | ⟨-, hfolder, h⟩ | ⟨-, -, isFile, -, rfl⟩
  · obtain ⟨isFile, -, htest⟩ := matched_eq_ok.mp (mem_of_filterM h hfile).2
    rw [Bool.and_eq_true, beq_iff_eq] at htest
    exact endsWith_of_suffixOf htest.2 (by decide)
  · obtain ⟨more, hmore, -, hending, rfl, -⟩ := along_of_sourcesBelow ht hfolder h hfile
    rw [Path.name, Path.along, getLastD_append hmore]
    exact hending
  · split_ifs at hfile with hboth
    · rw [Bool.and_eq_true, beq_iff_eq] at hboth
      rw [List.mem_singleton.mp hfile]
      exact endsWith_of_suffixOf hboth.2 (by decide)
    · exact absurd hfile List.not_mem_nil

/-- What the collection for a list of entries is: source files, no two of them in one place, and
all files that one of the entries stands for. -/
structure Collection (t : Tree) (entries : List String) (files : List Path) : Prop where
  apart : ∃ places : List Place, files.map t.locate = places.map .ok ∧ places.Nodup
  regular : ∀ file ∈ files, t.isFile file = .ok true ∧ Text.endsWith ".py" file.name = true
  complete : ∀ place, (∃ file ∈ files, t.locate file = .ok place) ↔
    ∃ entry ∈ entries, StandsFor t entry place

theorem collection_of_sources (ht : t.Proper) (hrooted : t.Rooted)
    (h : sources t entries = .ok files) : Collection t entries files := by
  obtain ⟨found, places, hfound, hdistinct⟩ := distinct_of_sources h
  have hsource : ∀ file ∈ files, ∃ entry ∈ entries, ∃ part, sourcesOf t entry = .ok part ∧
      file ∈ part := by
    intro file hfile
    obtain ⟨part, hpart, hmem⟩ := List.mem_flatten.mp (hdistinct.sublist.subset hfile)
    obtain ⟨entry, hentry, hsource⟩ := exists_of_mem_mapM hfound hpart
    exact ⟨entry, hentry, part, hsource, hmem⟩
  refine ⟨⟨places, hdistinct.places_eq, hdistinct.nodup⟩, ?_, ?_⟩
  · intro file hfile
    obtain ⟨entry, -, part, hpart, hmem⟩ := hsource file hfile
    exact ⟨isFile_of_sourcesOf hpart hmem, endsWith_of_sourcesOf ht hpart hmem⟩
  · intro place
    constructor
    · rintro ⟨file, hfile, hplace⟩
      obtain ⟨entry, hentry, part, hpart, hmem⟩ := hsource file hfile
      exact ⟨entry, hentry, (standsFor_iff ht hrooted hpart).mp ⟨file, hmem, hplace⟩⟩
    · rintro ⟨entry, hentry, hstands⟩
      obtain ⟨part, hpart, hsource⟩ := exists_of_forall₂ (mapM_eq_ok.mp hfound) hentry
      obtain ⟨file, hmem, hplace⟩ := (standsFor_iff ht hrooted hsource).mpr hstands
      have hkept : Except.ok place ∈ files.map t.locate := by
        rw [hdistinct.places_eq]
        exact List.mem_map_of_mem
          (hdistinct.covers file (List.mem_flatten_of_mem hpart hmem) place hplace)
      exact List.mem_map.mp hkept

theorem refused_of_sources {failure : Failure} (h : sources t entries = .error failure) :
    ∃ entry ∈ entries, Refused t entry failure := by
  rcases bind_eq_error.mp h with h | ⟨found, -, h⟩
  · obtain ⟨before, entry, after, rfl, -, h⟩ := mapM_eq_error.mp h
    exact ⟨entry, by simp, refused_of_sourcesOf h⟩
  · exact nomatch h

end

end DesignLens.Workspace

namespace DesignLens.Analysis

open Workspace

/-- Without metrics the findings for paths are those of the collected files, one after another. -/
theorem analyzePaths_eq_filesOf (registry : Registry) (instruments : Metrics.Instruments) (t : Tree)
    {entries : List String} (hentries : entries ≠ []) :
    analyzePaths registry instruments t entries false =
      filesOf t entries >>= fun files =>
        (files.mapM (fileFindings registry t)).map fun parts => .ok ⟨parts.flatten, none⟩ := by
  have hexamine : examine registry none t =
      fun file => (fileFindings registry t file).map fun findings => (findings, []) := by
    funext file
    rw [examine]
    cases fileFindings registry t file <;> rfl
  have hempty : entries.isEmpty = false := by simpa using hentries
  rw [analyzePaths, hempty]
  cases filesOf t entries with
  | error failure => rfl
  | ok files =>
    have hfiles : files.mapM (examine registry none t) =
        (files.mapM (fileFindings registry t)).map fun parts =>
          parts.map fun part => (part, []) := by
      rw [hexamine, mapM_map]
    simp only [bind, Except.bind, Bool.false_eq_true, if_false, hfiles]
    cases files.mapM (fileFindings registry t) with
    | error failure => rfl
    | ok parts => simp [Except.map, pure, Except.pure, List.flatMap_def, Function.comp_def]

/-- The files that are analysed are those of the analysis's own collector, in order, and the
collector of the enforcement gives the same ones or fails in the same way. In a proper tree they are
source files, each once, and all that the entries stand for. Without entries nothing is collected
and nothing analysed. A collection fails only for a path that is too long or for two stars beside
other characters. -/
theorem analyzePaths_collection (t : Tree) (ht : t.Proper) (hrooted : t.Rooted)
    (registry : Registry) (instruments : Metrics.Instruments) (entries : List String) :
    (entries = [] → filesOf t entries = .ok [] ∧
      ∃ message, analyzePaths registry instruments t entries false = .ok (.error message)) ∧
    (entries ≠ [] → analyzePaths registry instruments t entries false =
      filesOf t entries >>= fun files =>
        (files.mapM (fileFindings registry t)).map fun parts => .ok ⟨parts.flatten, none⟩) ∧
    filesOf t entries = sources t entries ∧
    ((∃ files, sources t entries = .ok files ∧ Collection t entries files) ∨
      ∃ failure, sources t entries = .error failure ∧
        ∃ entry ∈ entries, Refused t entry failure) := by
  refine ⟨?_, analyzePaths_eq_filesOf registry instruments t, filesOf_eq_sources t entries, ?_⟩
  · rintro rfl
    exact ⟨rfl, _, rfl⟩
  · cases h : sources t entries with
    | ok files => exact Or.inl ⟨files, rfl, collection_of_sources ht hrooted h⟩
    | error failure => exact Or.inr ⟨failure, rfl, refused_of_sources h⟩

def sharedTree : Tree :=
  ⟨[["d"]], [(["a.py"], .text ""), (["d", "b.py"], .text "")]⟩

/-- Two ways to each of the two files. -/
def sharedEntries : List String := ["d/../a.py", "a.py", "d", "d/*.py"]

def sharedFiles : List Path := [⟨false, ["d", "..", "a.py"]⟩, ⟨false, ["d", "b.py"]⟩]

theorem sharedTree_proper : sharedTree.Proper where
  names := ⟨by simp [sharedTree, IsName], by simp [sharedTree, IsName]⟩
  down := by simp [sharedTree]
  writable := by simp [sharedTree]
  apart := by decide

theorem sharedTree_rooted : sharedTree.Rooted := by
  have habove : ∀ f ∈ sharedTree.files, ∀ place ∈ f.1.inits, place ≠ f.1 →
      sharedTree.isFolderAt place = true := by
    decide
  exact fun f hf place hplace => habove f hf place ((List.mem_inits place f.1).mpr hplace)

theorem sources_sharedTree : sources sharedTree sharedEntries = .ok sharedFiles := by
  have hfirst : sourcesOf sharedTree "d/../a.py" = .ok [⟨false, ["d", "..", "a.py"]⟩] := by decide
  have hsecond : sourcesOf sharedTree "a.py" = .ok [⟨false, ["a.py"]⟩] := by decide
  have hthird : sourcesOf sharedTree "d" = .ok [⟨false, ["d", "b.py"]⟩] := by
    have hfolders : sharedTree.foldersBelow ["d"] = [["d"]] := List.mergeSort_singleton _
    have hfiles : sharedTree.filesBelow ["d"] = [["d", "b.py"]] := List.mergeSort_singleton _
    change sourcesBelow sharedTree ⟨false, ["d"]⟩ ["d"] = _
    rw [sourcesBelow, namedBelow, hfolders, hfiles]
    decide
  have hfourth : sourcesOf sharedTree "d/*.py" = .ok [⟨false, ["d", "b.py"]⟩] := by
    have hnames : sharedTree.namesIn ["d"] = ["b.py"] := List.mergeSort_singleton _
    have hmatch : matchesPattern "*.py" "b.py" = true := by
      simp [matchesPattern, wildsOf, matchesWilds, Wild.accepts]
    have hfound : matching sharedTree ⟨false, ["d"]⟩ "*.py" = .ok [⟨false, ["d", "b.py"]⟩] := by
      change Except.ok (((sharedTree.namesIn ["d"]).filter (matchesPattern "*.py")).map _) = _
      rw [hnames, List.filter_cons_of_pos hmatch]
      rfl
    change matching sharedTree ⟨false, ["d"]⟩ "*.py" >>= _ = _
    rw [hfound]
    rfl
  rw [sources, sharedEntries, List.mapM_cons, List.mapM_cons, List.mapM_cons, List.mapM_cons,
    hfirst, hsecond, hthird, hfourth]
  decide

theorem analyzePaths_collection_shared :
    sharedTree.Proper ∧ sharedTree.Rooted ∧ filesOf sharedTree sharedEntries = .ok sharedFiles ∧
    analyzePaths builtins .missing sharedTree sharedEntries false =
      (sharedFiles.mapM (fileFindings builtins sharedTree)).map
        (fun parts => .ok ⟨parts.flatten, none⟩) ∧
    Collection sharedTree sharedEntries sharedFiles := by
  obtain ⟨-, hanalysis, hsame, hfiles | hfailure⟩ := analyzePaths_collection sharedTree
    sharedTree_proper sharedTree_rooted builtins .missing sharedEntries
  · obtain ⟨files, hsources, hcollection⟩ := hfiles
    obtain rfl := Except.ok.inj (hsources.symm.trans sources_sharedTree)
    refine ⟨sharedTree_proper, sharedTree_rooted, hsame.trans hsources, ?_, hcollection⟩
    rw [hanalysis (List.cons_ne_nil _ _), hsame, hsources]
    rfl
  · obtain ⟨failure, hsources, -⟩ := hfailure
    exact nomatch hsources.symm.trans sources_sharedTree

end DesignLens.Analysis
