import DesignLens.Proofs.Attempts
import DesignLens.Proofs.FileTree
import DesignLens.Proofs.TextPieces
import DesignLens.Workspace.Glob

/-!
# Names in paths and trees

A name stands between two slashes, so it has none itself. A path of names can be written down and
read again. In a tree of names all source files that are collected have such paths, and it stays a
tree of names when files are written and folders are created along such paths.
-/

namespace DesignLens.Text

/-! ## Pieces between slashes -/

theorem toList_slash : "/".toList = ['/'] := rfl

theorem pieces_slash_append (text : String) : pieces "/" ("/" ++ text) = "" :: pieces "/" text := by
  unfold pieces
  rw [String.toList_append, toList_slash, ← List.nil_append ['/'], List.append_assoc,
    List.singleton_append, List.nil_append, piecesFrom_append List.not_mem_nil]
  rfl

end DesignLens.Text

namespace DesignLens.Workspace

/-! ## Paths -/

/-- What may stand between two slashes. -/
def IsName (name : String) : Prop := name ≠ "" ∧ name ≠ "." ∧ '/' ∉ name.toList

def Path.OfNames (p : Path) : Prop := ∀ name ∈ p.parts, IsName name

theorem Path.ofNames_ofString (s : String) : (Path.ofString s).OfNames := by
  intro name hname
  obtain ⟨hpiece, hkept⟩ := List.mem_filter.mp hname
  obtain ⟨part, hpart, rfl⟩ := List.mem_map.mp hpiece
  simp only [Bool.and_eq_true, bne_iff_ne] at hkept
  refine ⟨hkept.1, hkept.2, ?_⟩
  rw [String.toList_ofList]
  exact Text.not_mem_of_mem_piecesFrom List.not_mem_nil hpart

theorem Path.OfNames.child {p : Path} (h : p.OfNames) {name : String} (hname : IsName name) :
    (p.child name).OfNames := by
  intro other hother
  rcases List.mem_append.mp hother with hother | hother
  · exact h other hother
  · exact List.mem_singleton.mp hother ▸ hname

theorem Path.OfNames.parent {p : Path} (h : p.OfNames) : p.parent.OfNames :=
  fun name hname => h name (List.dropLast_subset _ hname)

theorem filter_names {names : List String} (h : ∀ name ∈ names, IsName name) :
    names.filter (fun part => part != "" && part != ".") = names := by
  rw [List.filter_eq_self]
  intro name hname
  obtain ⟨hempty, hpoint, -⟩ := h name hname
  simp [hempty, hpoint]

theorem filter_pieces_intercalate {names : List String} (h : ∀ name ∈ names, IsName name) :
    (Text.pieces "/" ("/".intercalate names)).filter (fun part => part != "" && part != ".") =
      names := by
  cases names with
  | nil => rfl
  | cons name rest =>
    rw [Text.pieces_intercalate Text.toList_slash (by simp)
      fun other hother => (h other hother).2.2, filter_names h]

theorem startsWith_slash_intercalate {names : List String} (h : ∀ name ∈ names, IsName name) :
    Text.startsWith "/" ("/".intercalate names) = false := by
  cases names with
  | nil => rfl
  | cons name rest =>
    obtain ⟨hempty, -, hslash⟩ := h name List.mem_cons_self
    have hfirst : ∃ tail, ("/".intercalate (name :: rest)).toList = name.toList ++ tail := by
      cases rest with
      | nil => exact ⟨[], by simp⟩
      | cons next rest =>
        refine ⟨"/".toList ++ ("/".intercalate (next :: rest)).toList, ?_⟩
        rw [String.intercalate_cons_cons, String.toList_append, String.toList_append,
          List.append_assoc]
    obtain ⟨tail, htail⟩ := hfirst
    unfold Text.startsWith
    rw [htail, Text.toList_slash]
    cases hname : name.toList with
    | nil => exact absurd (String.toList_eq_nil_iff.mp hname) hempty
    | cons c cs =>
      rw [hname, List.mem_cons, not_or] at hslash
      simp [List.isPrefixOf, hslash.1]

/-- A path of names is read as it was written. -/
theorem Path.ofString_toString {p : Path} (h : p.OfNames) : Path.ofString p.toString = p := by
  obtain ⟨absolute, parts⟩ := p
  cases absolute with
  | true =>
    have hpieces := Text.pieces_slash_append ("/".intercalate parts)
    have hstart : Text.startsWith "/" ("/" ++ "/".intercalate parts) = true := by
      unfold Text.startsWith
      rw [String.toList_append, Text.toList_slash]
      rfl
    simp only [Path.ofString, Path.toString, if_true, hstart, hpieces]
    rw [List.filter_cons_of_neg (by simp), filter_pieces_intercalate h]
  | false =>
    simp only [Path.ofString, Path.toString, Bool.false_eq_true, if_false]
    split_ifs with hempty
    · rw [List.isEmpty_iff.mp hempty]
      decide
    · rw [startsWith_slash_intercalate h, filter_pieces_intercalate h]

/-- Following a path brings in no names but its own. -/
theorem mem_destinationFrom {names : List String} {place : Place} {name : String}
    (h : name ∈ destinationFrom place names) : name ∈ place ∨ name ∈ names := by
  induction names generalizing place with
  | nil => exact Or.inl h
  | cons first rest ih =>
    unfold destinationFrom at h
    split_ifs at h
    · rcases ih h with h | h
      · exact Or.inl (List.dropLast_subset _ h)
      · exact Or.inr (List.mem_cons_of_mem first h)
    · rcases ih h with h | h
      · rcases List.mem_append.mp h with h | h
        · exact Or.inl h
        · exact Or.inr (List.mem_singleton.mp h ▸ List.mem_cons_self)
      · exact Or.inr (List.mem_cons_of_mem first h)

theorem Path.OfNames.destination {p : Path} (h : p.OfNames) :
    ∀ name ∈ p.destination, IsName name := by
  intro name hname
  rcases mem_destinationFrom hname with hroot | hpart
  · exact absurd hroot List.not_mem_nil
  · exact h name hpart

/-! ## Trees -/

namespace Tree

variable {t t' : Tree}

/-- All files and folders of a tree have names. -/
structure OfNames (t : Tree) : Prop where
  folders : ∀ place ∈ t.folders, ∀ name ∈ place, IsName name
  files : ∀ f ∈ t.files, ∀ name ∈ f.1, IsName name

theorem isName_of_mem_namesIn (ht : t.OfNames) {place : Place} {name : String}
    (h : name ∈ t.namesIn place) : IsName name := by
  unfold namesIn at h
  rw [Text.sort, (List.mergeSort_perm _ _).mem_iff] at h
  obtain ⟨q, hq, rfl⟩ := List.mem_map.mp h
  obtain ⟨hthere, hinside⟩ := List.mem_filter.mp hq
  simp only [Bool.and_eq_true, Bool.not_eq_true', List.isEmpty_eq_false_iff] at hinside
  have hlast : q.getLastD "" ∈ q := by
    rw [List.getLastD_eq_getLast?, List.getLast?_eq_some_getLast hinside.1]
    exact List.getLast_mem hinside.1
  rcases List.mem_append.mp hthere with hfolder | hfile
  · exact ht.folders q hfolder _ hlast
  · obtain ⟨f, hf, rfl⟩ := List.mem_map.mp hfile
    exact ht.files f hf _ hlast

theorem OfNames.setFile (ht : t.OfNames) {place : Place} (hplace : ∀ name ∈ place, IsName name)
    (c : Content) : (t.setFile place c).OfNames := by
  refine ⟨fun q hq => ht.folders q (by simpa using hq), fun f hf => ?_⟩
  unfold Tree.setFile at hf
  split_ifs at hf
  · obtain ⟨old, hold, rfl⟩ := List.mem_map.mp hf
    split_ifs
    · exact hplace
    · exact ht.files old hold
  · rcases List.mem_append.mp hf with hf | hf
    · exact ht.files f hf
    · rw [List.mem_singleton.mp hf]
      exact hplace

theorem OfNames.makeFolder (ht : t.OfNames) {p : Path} (hp : p.OfNames)
    (h : t.makeFolder p = .ok t') : t'.OfNames := by
  rw [makeFolder_eq] at h
  split at h
  · exact nomatch h
  · rename_i place hlocate
    split_ifs at h
    obtain ⟨-, -, rfl⟩ := map_eq_ok.mp h
    refine ⟨fun q hq => ?_, ht.files⟩
    rcases List.mem_append.mp hq with hq | hq
    · exact ht.folders q hq
    · rw [List.mem_singleton.mp hq, destination_of_locate hlocate]
      exact hp.destination

theorem OfNames.settleFolder (ht : t.OfNames) {p : Path} {outcome : Except SystemCause Tree}
    (h : ∀ u, outcome = .ok u → u.OfNames) : (t.settleFolder p outcome).1.OfNames := by
  unfold Tree.settleFolder
  cases outcome with
  | ok u => exact h u rfl
  | error cause =>
    simp only
    split <;> exact ht

theorem OfNames.makeFoldersFrom (ht : t.OfNames) {absolute : Bool} {names : List String}
    (hnames : ∀ name ∈ names, IsName name) : (t.makeFoldersFrom absolute names).1.OfNames := by
  induction names with
  | nil => exact ht.settleFolder fun u hu => ht.makeFolder (by simp [Path.OfNames]) hu
  | cons name above ih =>
    have hp : (⟨absolute, (name :: above).reverse⟩ : Path).OfNames :=
      fun other hother => hnames other (List.mem_reverse.mp hother)
    have habove := ih fun other hother => hnames other (List.mem_cons_of_mem name hother)
    unfold Tree.makeFoldersFrom
    simp only
    split
    · cases hm : t.makeFoldersFrom absolute above with
      | mk u failure =>
        rw [hm] at habove
        cases failure with
        | some f => exact habove
        | none => exact habove.settleFolder fun v hv => habove.makeFolder hp hv
    · exact ht.settleFolder fun u hu => ht.makeFolder hp hu

theorem OfNames.makeFolders (ht : t.OfNames) {p : Path} (hp : p.OfNames) :
    (t.makeFolders p).1.OfNames := by
  unfold Tree.makeFolders
  split_ifs
  · exact ht.makeFoldersFrom fun name hname => hp name (List.mem_reverse.mp hname)
  · exact ht

end Tree

/-! ## Collected files -/

/-- The ways in which an entry stands for a file: its last part matches the name of the file, it
leads to a folder with the file below it, or it leads to the file itself. -/
inductive Collected (t : Tree) (entry : String) : Path → Prop
  | matching {place : Place} {name : String} : name ∈ t.namesIn place →
      ((Path.ofString entry).parent.child name).suffix = ".py" →
      Collected t entry ((Path.ofString entry).parent.child name)
  | below {place : Place} {f : Place × Content} : t.locate (Path.ofString entry) = .ok place →
      f ∈ t.files → place <+: f.1 → Text.endsWith ".py" (f.1.getLastD "") = true →
      Collected t entry
        ⟨(Path.ofString entry).absolute, (Path.ofString entry).parts ++ f.1.drop place.length⟩
  | itself : (Path.ofString entry).suffix = ".py" → Collected t entry (Path.ofString entry)

section
variable {t : Tree} {entry : String} {file : Path} {files : List Path}

theorem mem_matching_iff {folder : Path} {pattern : String}
    (h : matching t folder pattern = .ok files) :
    file ∈ files ↔ (pattern ≠ ".." ∧ Text.occurs "**" pattern = false) ∧
      t.isFolder folder = .ok true ∧ ∃ name ∈ t.namesIn folder.destination,
        matchesPattern pattern name = true ∧ file = folder.child name := by
  unfold Workspace.matching at h
  split_ifs at h with hnone hstars
  · obtain rfl := Except.ok.inj h
    rcases Bool.or_eq_true_iff.mp hnone with hnone | hnone
    · rw [beq_iff_eq.mp hnone]
      have hoccurs : Text.occurs "**" "**" = true := by decide
      simp [hoccurs]
    · simp [beq_iff_eq.mp hnone]
  · have hstars : Text.occurs "**" pattern = false := Bool.not_eq_true _ ▸ hstars
    have hup : pattern ≠ ".." := by
      rintro rfl
      exact hnone rfl
    obtain ⟨isFolder, hisFolder, h⟩ := bind_eq_ok.mp h
    cases isFolder with
    | false =>
      obtain rfl := pure_eq_ok.mp h
      simp [hisFolder]
    | true =>
      rw [(Tree.isFolder_eq_true.mp hisFolder).2.1] at h
      obtain rfl := pure_eq_ok.mp h
      constructor
      · intro hfile
        obtain ⟨name, hname, rfl⟩ := List.mem_map.mp hfile
        obtain ⟨hname, hmatch⟩ := List.mem_filter.mp hname
        exact ⟨⟨hup, hstars⟩, hisFolder, name, hname, hmatch, rfl⟩
      · rintro ⟨-, -, name, hname, hmatch, rfl⟩
        exact List.mem_map_of_mem (List.mem_filter.mpr ⟨hname, hmatch⟩)

theorem eq_of_namedBelow {p : Path} {place : Place} {named : List Path}
    (h : namedBelow t p place = .ok named) :
    named = ((t.filesBelow place).filter fun q => Text.endsWith ".py" (q.getLastD "")).map
      (p.onward place) := by
  obtain ⟨entered, -, h⟩ := bind_eq_ok.mp h
  exact (pure_eq_ok.mp h).symm

/-- What is collected below a folder: files at any depth that are named like source files. -/
theorem mem_of_sourcesBelow {p : Path} {place : Place} (h : sourcesBelow t p place = .ok files)
    (hfile : file ∈ files) :
    ∃ f ∈ t.files, place <+: f.1 ∧ Text.endsWith ".py" (f.1.getLastD "") = true ∧
      file = p.onward place f.1 ∧ t.isFile file = .ok true := by
  obtain ⟨named, hnamed, h⟩ := bind_eq_ok.mp h
  obtain rfl := eq_of_namedBelow hnamed
  obtain ⟨hmem, htest⟩ := mem_of_filterM h hfile
  obtain ⟨q, hq, rfl⟩ := List.mem_map.mp hmem
  obtain ⟨hbelow, hending⟩ := List.mem_filter.mp hq
  rw [Tree.filesBelow, (List.mergeSort_perm _ _).mem_iff] at hbelow
  obtain ⟨hthere, habove⟩ := List.mem_filter.mp hbelow
  obtain ⟨f, hf, rfl⟩ := List.mem_map.mp hthere
  exact ⟨f, hf, List.isPrefixOf_iff_prefix.mp habove, hending, rfl, htest⟩

/-- The test for files whose names match a pattern. -/
theorem matched_eq_ok {b : Bool} :
    (do return (← t.isFile file) && file.suffix == ".py") = Except.ok (ε := Failure) b ↔
      ∃ isFile, t.isFile file = .ok isFile ∧ (isFile && file.suffix == ".py") = b := by
  rw [bind_eq_ok]
  simp only [pure_eq_ok]

/-- The three ways to collect for an entry. -/
theorem sourcesOf_cases (h : sourcesOf t entry = .ok files) :
    (isPattern entry = true ∧
      ∃ found, matching t (Path.ofString entry).parent (Path.ofString entry).name = .ok found ∧
        found.filterM (fun q => do return (← t.isFile q) && q.suffix == ".py") = .ok files) ∨
    (isPattern entry = false ∧ t.isFolder (Path.ofString entry) = .ok true ∧
      sourcesBelow t (Path.ofString entry) (Path.ofString entry).destination = .ok files) ∨
    (isPattern entry = false ∧ t.isFolder (Path.ofString entry) = .ok false ∧
      ∃ isFile, t.isFile (Path.ofString entry) = .ok isFile ∧
        files = if isFile && (Path.ofString entry).suffix == ".py" then [Path.ofString entry]
          else []) := by
  unfold sourcesOf at h
  simp only at h
  split_ifs at h with hpattern
  · exact Or.inl ⟨hpattern, bind_eq_ok.mp h⟩
  · rw [Bool.not_eq_true] at hpattern
    obtain ⟨isFolder, hisFolder, h⟩ := bind_eq_ok.mp h
    cases isFolder with
    | true =>
      rw [(Tree.isFolder_eq_true.mp hisFolder).2.1] at h
      exact Or.inr (Or.inl ⟨hpattern, hisFolder, h⟩)
    | false =>
      obtain ⟨isFile, hisFile, h⟩ := bind_eq_ok.mp h
      refine Or.inr (Or.inr ⟨hpattern, hisFolder, isFile, hisFile, ?_⟩)
      split_ifs at h ⊢
      · exact (pure_eq_ok.mp h).symm
      · exact (pure_eq_ok.mp h).symm

theorem collected_of_sourcesOf (h : sourcesOf t entry = .ok files) (hfile : file ∈ files) :
    Collected t entry file := by
  rcases sourcesOf_cases h with ⟨-, found, hfound, h⟩ | ⟨-, hfolder, h⟩ | ⟨-, -, isFile, -, rfl⟩
  · obtain ⟨hmem, htest⟩ := mem_of_filterM h hfile
    obtain ⟨-, -, name, hname, -, rfl⟩ := (mem_matching_iff hfound).mp hmem
    obtain ⟨isFile, -, htest⟩ := matched_eq_ok.mp htest
    simp only [Bool.and_eq_true, beq_iff_eq] at htest
    exact .matching hname htest.2
  · obtain ⟨f, hf, habove, hending, rfl, -⟩ := mem_of_sourcesBelow h hfile
    exact .below (Tree.isFolder_eq_true.mp hfolder).2.1 hf habove hending
  · split_ifs at hfile with hsuffix
    · rw [List.mem_singleton.mp hfile]
      exact .itself (by simpa using (Bool.and_eq_true_iff.mp hsuffix).2)
    · exact absurd hfile List.not_mem_nil

/-- Only files are collected. -/
theorem isFile_of_sourcesOf (h : sourcesOf t entry = .ok files) (hfile : file ∈ files) :
    t.isFile file = .ok true := by
  rcases sourcesOf_cases h with ⟨-, found, -, h⟩ | ⟨-, -, h⟩ | ⟨-, -, isFile, hisFile, rfl⟩
  · obtain ⟨-, htest⟩ := mem_of_filterM h hfile
    obtain ⟨isFile, hisFile, htest⟩ := matched_eq_ok.mp htest
    rw [hisFile, (Bool.and_eq_true_iff.mp htest).1]
  · obtain ⟨f, -, -, -, -, htest⟩ := mem_of_sourcesBelow h hfile
    exact htest
  · split_ifs at hfile with hsuffix
    · rw [List.mem_singleton.mp hfile, hisFile, (Bool.and_eq_true_iff.mp hsuffix).1]
    · exact absurd hfile List.not_mem_nil

/-- Keeps a path if it leads to a place that is not among those of the paths before it. -/
def keepPlace (t : Tree) (acc : List Place × List Path) (p : Path) : List Place × List Path :=
  match t.locate p with
  | .ok place => if acc.1.contains place then acc else (acc.1 ++ [place], acc.2 ++ [p])
  | .error _ => acc

theorem distinctPlaces_eq (t : Tree) (paths : List Path) :
    distinctPlaces t paths = (paths.foldl (keepPlace t) ([], [])).2 := rfl

/-- The places of paths, and of the paths that lead to one place the first. -/
structure Distinct (t : Tree) (paths : List Path) (acc : List Place × List Path) : Prop where
  sublist : acc.2.Sublist paths
  places_eq : acc.2.map t.locate = acc.1.map .ok
  nodup : acc.1.Nodup
  covers : ∀ p ∈ paths, ∀ place, t.locate p = .ok place → place ∈ acc.1

theorem Distinct.keepPlace {paths : List Path} {acc : List Place × List Path}
    (h : Distinct t paths acc) (p : Path) : Distinct t (paths ++ [p]) (keepPlace t acc p) := by
  have hskip : (∀ place, t.locate p = .ok place → place ∈ acc.1) →
      Distinct t (paths ++ [p]) acc := by
    intro hp
    refine ⟨h.sublist.trans (List.sublist_append_left _ _), h.places_eq, h.nodup, ?_⟩
    intro q hq place hplace
    rcases List.mem_append.mp hq with hq | hq
    · exact h.covers q hq place hplace
    · exact hp place (List.mem_singleton.mp hq ▸ hplace)
  unfold Workspace.keepPlace
  cases hlocate : t.locate p with
  | error failure => exact hskip fun place hplace => nomatch hlocate.symm.trans hplace
  | ok place =>
    simp only [List.contains_iff_mem]
    split_ifs with hmem
    · exact hskip fun other hother => Except.ok.inj (hlocate.symm.trans hother) ▸ hmem
    · refine ⟨h.sublist.append (List.Sublist.refl _), ?_, ?_, ?_⟩
      · simp [h.places_eq, hlocate]
      · refine List.nodup_append.mpr ⟨h.nodup, by simp, ?_⟩
        rintro a ha b hb rfl
        exact hmem (List.mem_singleton.mp hb ▸ ha)
      · intro q hq other hother
        rcases List.mem_append.mp hq with hq | hq
        · exact List.mem_append_left _ (h.covers q hq other hother)
        · rw [List.mem_singleton.mp hq, hlocate] at hother
          exact List.mem_append_right _ (List.mem_singleton.mpr (Except.ok.inj hother).symm)

theorem Distinct.foldl_keepPlace {paths : List Path} {acc : List Place × List Path}
    (h : Distinct t paths acc) (rest : List Path) :
    Distinct t (paths ++ rest) (rest.foldl (Workspace.keepPlace t) acc) := by
  induction rest generalizing paths acc with
  | nil => rwa [List.append_nil]
  | cons p rest ih =>
    rw [List.append_cons]
    exact ih (h.keepPlace p)

theorem distinctPlaces_distinct (t : Tree) (paths : List Path) :
    ∃ places, Distinct t paths (places, distinctPlaces t paths) := by
  have hstart : Distinct t [] ([], []) := ⟨.slnil, rfl, .nil, fun _ h => absurd h List.not_mem_nil⟩
  rw [distinctPlaces_eq]
  exact ⟨_, hstart.foldl_keepPlace paths⟩

theorem distinct_of_sources {entries : List String} (h : sources t entries = .ok files) :
    ∃ found places, entries.mapM (sourcesOf t) = .ok found ∧
      Distinct t found.flatten (places, files) := by
  obtain ⟨found, hfound, h⟩ := bind_eq_ok.mp h
  obtain rfl := pure_eq_ok.mp h
  obtain ⟨places, hplaces⟩ := distinctPlaces_distinct t found.flatten
  exact ⟨found, places, hfound, hplaces⟩

theorem collected_of_sources {entries : List String} (h : sources t entries = .ok files)
    (hfile : file ∈ files) : ∃ entry ∈ entries, Collected t entry file := by
  obtain ⟨found, places, hfound, hdistinct⟩ := distinct_of_sources h
  obtain ⟨part, hpart, hfile⟩ := List.mem_flatten.mp (hdistinct.sublist.subset hfile)
  obtain ⟨entry, hmem, hentry⟩ := exists_of_mem_mapM hfound hpart
  exact ⟨entry, hmem, collected_of_sourcesOf hentry hfile⟩

/-- Files that are collected in a tree of names have paths of names. -/
theorem Collected.ofNames (h : Collected t entry file) (ht : t.OfNames) : file.OfNames := by
  have hentry := Path.ofNames_ofString entry
  cases h with
  | matching hname _ => exact hentry.parent.child (Tree.isName_of_mem_namesIn ht hname)
  | below _ hf _ _ =>
    intro name hname
    rcases List.mem_append.mp hname with hname | hname
    · exact hentry name hname
    · exact ht.files _ hf name (List.drop_subset _ _ hname)
  | itself _ => exact hentry

/-- The root is never collected. -/
theorem Collected.parts_ne_nil (h : Collected t entry file) : file.parts ≠ [] := by
  cases h with
  | matching _ _ => simp [Path.child]
  | @below place f hlocate _ _ hending =>
    intro hnil
    obtain ⟨hparts, hrest⟩ := List.append_eq_nil_iff.mp hnil
    have hplace : place = [] := by
      rw [Tree.destination_of_locate hlocate, Path.destination, hparts]
      rfl
    rw [hplace, List.length_nil, List.drop_zero] at hrest
    rw [hrest] at hending
    exact absurd hending (by decide)
  | itself hsuffix =>
    intro hnil
    rw [Path.suffix, Path.name, hnil] at hsuffix
    exact absurd hsuffix (by decide)

end

end DesignLens.Workspace
