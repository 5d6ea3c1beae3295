import DesignLens.Analysis.Paths
import DesignLens.Proofs.PathNames

/-!
# Two ways to collect source files

For an analysis the files are added one by one to those found before, and afterwards the paths that
lead to one place are told apart by where they lead. For an enforcement the files of all entries are
collected first. Both give the same files in the same order, and where one fails the other fails in
the same way.
-/

namespace DesignLens.Analysis

open Workspace

theorem foldlM_addIf (test : Path → Except Failure Bool) (items files : List Path) :
    items.foldlM (addIf test) files = (items.filterM test).map (files ++ ·) := by
  induction items generalizing files with
  | nil => exact congrArg Except.ok (List.append_nil files).symm
  | cons p items ih =>
    rw [List.foldlM_cons, filterM_cons, addIf]
    cases test p with
    | error failure => rfl
    | ok keep =>
      cases keep with
      | false =>
        simp only [bind, Except.bind, Bool.false_eq_true, if_false, pure, Except.pure]
        rw [ih]
        cases items.filterM test <;> rfl
      | true =>
        simp only [bind, Except.bind, if_true, pure, Except.pure]
        rw [ih]
        cases items.filterM test <;> simp [Except.map]

/-- What is added for an entry is what the entry stands for. -/
theorem addEntry_eq (t : Tree) (files : List Path) (entry : String) :
    addEntry t files entry = (sourcesOf t entry).map (files ++ ·) := by
  unfold addEntry sourcesOf
  simp only
  split_ifs with hpattern
  · cases matching t (Path.ofString entry).parent (Path.ofString entry).name with
    | error failure => rfl
    | ok found => exact foldlM_addIf _ found files
  · cases t.isFolder (Path.ofString entry) with
    | error failure => rfl
    | ok isFolder =>
      cases isFolder with
      | true =>
        simp only [bind, Except.bind, if_true]
        cases t.locate (Path.ofString entry) with
        | error cause => simp [Except.map, pure, Except.pure]
        | ok place =>
          simp only [sourcesBelow, bind, Except.bind]
          cases namedBelow t (Path.ofString entry) place with
          | error failure => rfl
          | ok named => exact foldlM_addIf _ named files
      | false =>
        simp only [addIf, bind, Except.bind, Bool.false_eq_true, if_false]
        cases t.isFile (Path.ofString entry) with
        | error failure => rfl
        | ok isFile =>
          simp only [pure, Except.pure]
          split_ifs <;> simp [Except.map]

theorem foldlM_addEntry (t : Tree) (entries : List String) (files : List Path) :
    entries.foldlM (addEntry t) files =
      (entries.mapM (sourcesOf t)).map fun found => files ++ found.flatten := by
  induction entries generalizing files with
  | nil => simp [Except.map, pure, Except.pure]
  | cons entry entries ih =>
    rw [List.foldlM_cons, List.mapM_cons, addEntry_eq]
    cases sourcesOf t entry with
    | error failure => rfl
    | ok part =>
      simp only [Except.map, bind, Except.bind]
      rw [ih]
      cases entries.mapM (sourcesOf t) <;> simp [Except.map, pure, Except.pure]

/-- Paths that can be followed are told apart by where they lead. -/
theorem uniqueFiles_eq {t : Tree} {files : List Path}
    (h : ∀ file ∈ files, t.locate file = .ok file.destination) :
    uniqueFiles files = distinctPlaces t files := by
  -- the two keep the same paths, and know the same places, though in opposite orders
  have hrel : ∀ file ∈ files, ∀ (acc : List Path × List Place) (acc' : List Place × List Path),
      acc.1 = acc'.2 ∧ (∀ place, place ∈ acc.2 ↔ place ∈ acc'.1) →
      (if acc.2.contains file.destination then acc
        else (acc.1 ++ [file], file.destination :: acc.2)).1 = (keepPlace t acc' file).2 ∧
      ∀ place, place ∈ (if acc.2.contains file.destination then acc
        else (acc.1 ++ [file], file.destination :: acc.2)).2 ↔
          place ∈ (keepPlace t acc' file).1 := by
    rintro file hfile acc acc' ⟨hfiles, hplaces⟩
    unfold keepPlace
    simp only [h file hfile, List.contains_iff_mem, hplaces]
    split_ifs with hseen
    · exact ⟨hfiles, hplaces⟩
    · refine ⟨by rw [hfiles], fun place => ?_⟩
      simp only [List.mem_cons, List.mem_append, hplaces, List.not_mem_nil, or_false]
      exact or_comm
  exact (List.foldl_rel (r := fun (acc : List Path × List Place) (acc' : List Place × List Path) =>
    acc.1 = acc'.2 ∧ ∀ place, place ∈ acc.2 ↔ place ∈ acc'.1)
    ⟨rfl, fun _ => Iff.rfl⟩ hrel).1

/-- Both collectors give the same files in the same order, or fail alike. -/
theorem filesOf_eq_sources (t : Tree) (entries : List String) :
    filesOf t entries = sources t entries := by
  unfold filesOf sources
  rw [foldlM_addEntry]
  cases hfound : entries.mapM (sourcesOf t) with
  | error failure => rfl
  | ok found =>
    have hplace : ∀ file ∈ found.flatten, t.locate file = .ok file.destination := by
      intro file hfile
      obtain ⟨part, hpart, hmem⟩ := List.mem_flatten.mp hfile
      obtain ⟨entry, -, hentry⟩ := exists_of_mem_mapM hfound hpart
      obtain ⟨content, hcontent⟩ := Tree.isFile_eq_true.mp (isFile_of_sourcesOf hentry hmem)
      exact (Tree.content_eq_ok.mp hcontent).2.1
    simp only [Except.map, bind, Except.bind, List.nil_append, uniqueFiles_eq hplace]

end DesignLens.Analysis
