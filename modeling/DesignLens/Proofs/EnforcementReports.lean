import DesignLens.Proofs.CollectedSources
import DesignLens.Proofs.EnforcementEffects
import DesignLens.Proofs.IntroductionCompiles

/-!
# Reports of an enforcement

A report has one entry for each selected file, in order. But there need not be a report: a failure
to read or write a file ends the work, and what was done to the files before it remains.

Without a folder for results every file that was selected is read again, and the work ends at the
first one that holds no text. Only the scope that looks for hits keeps such files out, for nothing
is found in a file that cannot be read.
-/

namespace DesignLens.Scaffold

open Workspace

variable {w : Workshop} {t t' : Tree} {r : Request} {c : Content}

/-! ## Introductions into files -/

theorem existing_of_content {p : Path} (h : t.content p = .ok c) :
    existing t p = c.read.map some := by
  obtain ⟨hwritable, hlocate, hfolder, hfile⟩ := Tree.content_eq_ok.mp h
  have hlook : t.look p = .ok (some (.file c)) := by
    simp [Tree.look, Tree.entryAt?, hwritable, hlocate, hfolder, hfile]
  rw [existing_eq, hlook, Tree.read_of_content h]

/-- An introduction leaves what other files hold. -/
theorem content_of_introduction {answer : Except Failure Answer}
    (h : Introduction w t r t' answer) {p : Path} (hp : t.content p = .ok c)
    (hne : p.destination ≠ r.target.destination) : t'.content p = .ok c := by
  obtain ⟨hwritable, hlocate, hfolder, hfile⟩ := Tree.content_eq_ok.mp hp
  have hgrown {u : Tree} (hu : Tree.Grown t u) : u.content p = .ok c := by
    refine Tree.content_eq_ok.mpr ⟨hwritable, Tree.locate_mono hu.folders hlocate, ?_, ?_⟩
    · cases hnew : u.isFolderAt p.destination with
      | false => rfl
      | true =>
        rcases hu.apart _ hnew with hold | hnone
        · exact absurd hold (by simp [hfolder])
        · exact absurd hnone (by simp [hfile])
    · rw [hu.fileAt?, hfile]
  have hput {text : String} {outcome : Option Failure}
      (houtcome : put t r.target text = (t', outcome)) : t'.content p = .ok c := by
    rcases put_cases houtcome with ⟨_, -, hu⟩ | ⟨-, -, u, hu, -, -, rfl⟩
    · exact hgrown hu
    · obtain ⟨-, hlocate, hfolder, hfile⟩ := Tree.content_eq_ok.mp (hgrown hu)
      refine Tree.content_eq_ok.mpr ⟨hwritable, ?_, ?_, ?_⟩
      · exact Tree.locate_mono (fun q hq => by rwa [Tree.isFolderAt_setFile]) hlocate
      · rwa [Tree.isFolderAt_setFile]
      · rw [Tree.fileAt?_setFile, if_neg hne, hfile]
  cases h with
  | failed _ _ _ _ _ h => exact hput h
  | written _ _ _ _ _ h => exact hput h
  | _ => exact hp

theorem exists_compose (hw : w.Plain) {d : Draft} (hd : w.draft r = .ok d) (old : String) :
    ∃ scaffold, w.compose d old = .ok scaffold := by
  obtain ⟨heading, hheading, -⟩ := hw.heading hd (Size.ofText (if old.isEmpty then d.code else old))
  exact ⟨_, compose_eq_ok.mpr ⟨heading, hheading, rfl⟩⟩

/-- There is an answer for every file that holds a text. -/
theorem exists_answer (hw : w.Plain) (hc : t.content r.target = .ok c) {text : String}
    (hread : c.read = .ok text) : ∃ answer, (w.introduce t r).2 = .ok answer := by
  have hexisting : existing t r.target = .ok (some text) := by
    rw [existing_of_content hc, hread]
    rfl
  have hintroduction := introduce_introduction w t r
  generalize (w.introduce t r).1 = t', (w.introduce t r).2 = answer at hintroduction ⊢
  cases hintroduction with
  | unreadable _ h => exact nomatch hexisting.symm.trans h
  | @headless d old failure hd _ hcompose =>
    obtain ⟨scaffold, hok⟩ := exists_compose hw hd (old.getD "")
    exact nomatch hok.symm.trans hcompose
  | failed _ _ _ _ _ hput =>
    rcases put_cases hput with ⟨_, -, hgrown⟩ | ⟨hnone, -⟩
    · exact absurd (existing_of_grown hgrown hexisting) (existing_ne_some_of_put_failed hput text)
    · exact nomatch hnone
  | refused _ => exact ⟨_, rfl⟩
  | present _ _ _ _ => exact ⟨_, rfl⟩
  | trial _ _ _ _ _ => exact ⟨_, rfl⟩
  | written _ _ _ _ _ _ => exact ⟨_, rfl⟩

/-- A file that holds no text makes an introduction fail, unless there is nothing to introduce. -/
theorem introduce_undecodable (hw : w.Plain) (hselect : w.select (r.name.getD "") ≠ none)
    (hc : t.content r.target = .ok c) {failure : Failure} (hread : c.read = .error failure) :
    w.introduce t r = (t, .error failure) := by
  obtain ⟨⟨category, name, generator⟩, hsome⟩ := Option.ne_none_iff_exists'.mp hselect
  obtain ⟨d, hd, -⟩ := hw.exists_draft hsome
  have hexisting : existing t r.target = .error failure := by
    rw [existing_of_content hc, hread]
    rfl
  unfold Workshop.introduce Workshop.place
  rw [hd]
  simp only [hexisting]

theorem introduce_unselected (hselect : w.select (r.name.getD "") = none) :
    ∃ answer, w.introduce t r = (t, .ok answer) := by
  unfold Workshop.introduce Workshop.draft
  rw [hselect]
  exact ⟨_, rfl⟩

/-- A failure to introduce something is a failure to read or to write the target. -/
theorem cause_of_failure (hw : w.Plain) {failure : Failure}
    (h : w.introduce t r = (t', .error failure)) :
    t' = t ∧ existing t r.target = .error failure ∨
      r.dryRun = false ∧ ∃ text, put t r.target text = (t', some failure) := by
  have hintroduction := introduce_introduction w t r
  rw [h] at hintroduction
  cases hintroduction with
  | unreadable _ hexisting => exact Or.inl ⟨rfl, hexisting⟩
  | @headless d old _ hd _ hcompose =>
    obtain ⟨scaffold, hok⟩ := exists_compose hw hd (old.getD "")
    exact nomatch hok.symm.trans hcompose
  | failed _ _ _ _ hwrite hput => exact Or.inr ⟨hwrite, _, hput⟩

end DesignLens.Scaffold

namespace DesignLens.Enforcement

open Workspace Scaffold

/-! ## Files one after another -/

theorem destinations_of_locate {t : Tree} {files : List Path} {places : List Place}
    (h : files.map t.locate = places.map .ok) : files.map Path.destination = places := by
  induction files generalizing places with
  | nil => exact (List.map_eq_nil_iff.mp h.symm).symm
  | cons file files ih =>
    cases places with
    | nil => exact nomatch h
    | cons place places =>
      obtain ⟨hfirst, hrest⟩ := List.cons.inj h
      rw [List.map_cons, ih hrest, ← Tree.destination_of_locate hfirst]

/-- The files that are selected hold something, each in a place of its own. -/
theorem selected_contents {s : Setting} {t : Tree} {r : Request} {files : List Path}
    (h : selectedFiles s t r = .ok (some files)) :
    (files.map Path.destination).Nodup ∧ ∀ file ∈ files, ∃ c, t.content file = .ok c := by
  obtain ⟨sources, hsources, h⟩ := bind_eq_ok.mp h
  split_ifs at h
  · exact nomatch h
  · obtain ⟨chosen, hchosen, h⟩ := bind_eq_ok.mp h
    obtain rfl := Option.some.inj (pure_eq_ok.mp h)
    have hsublist := (select_eq_ok hchosen).1
    obtain ⟨found, places, hfound, hdistinct⟩ := distinct_of_sources hsources
    refine ⟨?_, fun file hfile => ?_⟩
    · refine List.Nodup.sublist (hsublist.map Path.destination) ?_
      rw [destinations_of_locate hdistinct.places_eq]
      exact hdistinct.nodup
    · have hsource := hsublist.subset hfile
      obtain ⟨part, hpart, hmem⟩ := List.mem_flatten.mp (hdistinct.sublist.subset hsource)
      obtain ⟨entry, -, hentry⟩ := exists_of_mem_mapM hfound hpart
      exact Tree.isFile_eq_true.mp (isFile_of_sourcesOf hentry hmem)

theorem files_of_applyTo {w : Workshop} {name : String} {r : Request} {t : Tree}
    {files : List Path} {changes : List Change} (h : (applyTo w name r t files).2 = .ok changes) :
    changes.map Change.file = files := by
  induction files generalizing t changes with
  | nil =>
    cases h
    rfl
  | cons file files ih =>
    rw [applyTo] at h
    cases hstep : w.introduce t (introductionFor name r file) with
    | mk u answer =>
      rw [hstep] at h
      cases answer with
      | error failure => cases h
      | ok answer =>
        obtain ⟨later, hlater, rfl⟩ := map_eq_ok.mp h
        rw [List.map_cons, ih hlater]

/-- A failure is that of one introduction, after those before it were done. -/
theorem applyTo_failed {w : Workshop} {name : String} {r : Request} {t : Tree} {files : List Path}
    {failure : Failure} (h : (applyTo w name r t files).2 = .error failure) :
    ∃ done file rest u changes, files = done ++ file :: rest ∧
      applyTo w name r t done = (u, .ok changes) ∧
      w.introduce u (introductionFor name r file) =
        ((applyTo w name r t files).1, .error failure) := by
  induction files generalizing t with
  | nil => cases h
  | cons file files ih =>
    rw [applyTo] at h ⊢
    cases hstep : w.introduce t (introductionFor name r file) with
    | mk u answer =>
      rw [hstep] at h
      cases answer with
      | error other =>
        obtain rfl := Except.error.inj h
        exact ⟨[], file, files, t, [], rfl, rfl, hstep⟩
      | ok answer =>
        have hlater : (applyTo w name r u files).2 = .error failure := by
          cases hrest : (applyTo w name r u files).2 with
          | error other =>
            simp only [hrest] at h
            exact h
          | ok changes =>
            simp only [hrest] at h
            cases h
        obtain ⟨done, bad, rest, v, changes, rfl, hdone, hbad⟩ := ih hlater
        refine ⟨file :: done, bad, rest, v, ⟨file, answer⟩ :: changes, rfl, ?_, hbad⟩
        rw [applyTo, hstep]
        simp only [hdone]
        rfl

/-- An introduction that fails after others were done is the last one. -/
theorem applyTo_stops {w : Workshop} {name : String} {r : Request} {t u v : Tree}
    {done : List Path} {changes : List Change} {file : Path} {failure : Failure}
    (hdone : applyTo w name r t done = (u, .ok changes))
    (hfile : w.introduce u (introductionFor name r file) = (v, .error failure))
    (rest : List Path) : applyTo w name r t (done ++ file :: rest) = (v, .error failure) := by
  induction done generalizing t changes with
  | nil =>
    obtain ⟨rfl, -⟩ := Prod.mk.inj hdone
    rw [List.nil_append, applyTo, hfile]
  | cons first done ih =>
    rw [List.cons_append, applyTo]
    rw [applyTo] at hdone
    cases hstep : w.introduce t (introductionFor name r first) with
    | mk t' answer =>
      rw [hstep] at hdone
      cases answer with
      | error other => cases hdone
      | ok answer =>
        obtain ⟨htree, hrest⟩ := Prod.mk.inj hdone
        obtain ⟨later, hlater, -⟩ := map_eq_ok.mp hrest
        simp only [ih (Prod.ext htree hlater)]
        rfl

/-! ## Files in place -/

/-- The introductions go into the files themselves. -/
def InPlace (r : Request) : Prop := r.outFolder.filter (!·.isEmpty) = none

/-- The introductions of a name into files have these files as targets. -/
def Targets (name : String) (r : Request) (files : List Path) : Prop :=
  ∀ file ∈ files, (introductionFor name r file).target = file

section

variable {w : Workshop} {name : String} {r : Request} {files : List Path}

theorem getD_name_introductionFor (name : String) (r : Request) (file : Path) :
    (introductionFor name r file).name.getD "" = name := rfl

/-- What other files hold is left. -/
theorem content_applyTo {t : Tree} (htargets : Targets name r files) {p : Path} {c : Content}
    (hp : t.content p = .ok c) (hne : p.destination ∉ files.map Path.destination) :
    (applyTo w name r t files).1.content p = .ok c := by
  induction files generalizing t with
  | nil => exact hp
  | cons file files ih =>
    obtain ⟨htarget, hrest⟩ := List.forall_mem_cons.mp htargets
    rw [List.map_cons, List.mem_cons, not_or] at hne
    have hstep := introduce_introduction w t (introductionFor name r file)
    have hkept := content_of_introduction hstep hp (by rw [htarget]; exact hne.1)
    rw [applyTo]
    cases hintroduce : w.introduce t (introductionFor name r file) with
    | mk u answer =>
      rw [hintroduce] at hkept
      cases answer with
      | error failure => exact hkept
      | ok answer => exact ih hrest hkept hne.2

/-- Files that hold texts are all treated. -/
theorem applyTo_texts (hw : w.Plain) {t : Tree} (htargets : Targets name r files)
    (hnodup : (files.map Path.destination).Nodup)
    (htexts : ∀ file ∈ files, ∃ c text, t.content file = .ok c ∧ c.read = .ok text) :
    ∃ changes, (applyTo w name r t files).2 = .ok changes := by
  induction files generalizing t with
  | nil => exact ⟨[], rfl⟩
  | cons file files ih =>
    obtain ⟨htarget, hrest⟩ := List.forall_mem_cons.mp htargets
    obtain ⟨⟨c, text, hc, hread⟩, htexts⟩ := List.forall_mem_cons.mp htexts
    rw [List.map_cons, List.nodup_cons] at hnodup
    have hstep := introduce_introduction w t (introductionFor name r file)
    obtain ⟨answer, hanswer⟩ := exists_answer hw (r := introductionFor name r file)
      (htarget.symm ▸ hc) hread
    rw [applyTo]
    cases hintroduce : w.introduce t (introductionFor name r file) with
    | mk u outcome =>
      rw [hintroduce] at hanswer hstep
      obtain rfl := hanswer
      have hlater : ∀ other ∈ files, ∃ c text, u.content other = .ok c ∧ c.read = .ok text := by
        intro other hother
        obtain ⟨c, text, hc, hread⟩ := htexts other hother
        refine ⟨c, text, content_of_introduction hstep hc ?_, hread⟩
        rw [htarget]
        exact fun heq => hnodup.1 (heq ▸ List.mem_map_of_mem hother)
      obtain ⟨changes, hchanges⟩ := ih hrest hnodup.2 hlater
      exact ⟨⟨file, answer⟩ :: changes, by simp only [hchanges, Except.map]⟩

theorem applyTo_unselected {t : Tree} (hselect : w.select name = none) :
    ∃ changes, applyTo w name r t files = (t, .ok changes) := by
  induction files with
  | nil => exact ⟨[], rfl⟩
  | cons file files ih =>
    obtain ⟨changes, hchanges⟩ := ih
    rw [← getD_name_introductionFor name r file] at hselect
    obtain ⟨answer, hanswer⟩ := introduce_unselected (t := t) hselect
    exact ⟨⟨file, answer⟩ :: changes, by simp only [applyTo, hanswer, hchanges, Except.map]⟩

/-- The first file that holds no text ends the work with its failure. -/
theorem applyTo_undecodable (hw : w.Plain) {t : Tree} {good rest : List Path} {bad : Path}
    (htargets : Targets name r (good ++ bad :: rest))
    (hnodup : ((good ++ bad :: rest).map Path.destination).Nodup) (hselect : w.select name ≠ none)
    (htexts : ∀ file ∈ good, ∃ c text, t.content file = .ok c ∧ c.read = .ok text) {c : Content}
    (hc : t.content bad = .ok c) {failure : Failure} (hread : c.read = .error failure) :
    (∃ changes, (applyTo w name r t good).2 = .ok changes) ∧
      applyTo w name r t (good ++ bad :: rest) = ((applyTo w name r t good).1, .error failure) := by
  obtain ⟨hgood, hothers⟩ := List.forall_mem_append.mp htargets
  have htarget : (introductionFor name r bad).target = bad := hothers bad List.mem_cons_self
  rw [List.map_append, List.map_cons] at hnodup
  have hapart : bad.destination ∉ good.map Path.destination := by
    intro hmem
    exact (List.nodup_append.mp hnodup).2.2 _ hmem _ List.mem_cons_self rfl
  obtain ⟨changes, hchanges⟩ := applyTo_texts hw hgood (List.nodup_append.mp hnodup).1 htexts
  refine ⟨⟨changes, hchanges⟩, applyTo_stops (Prod.ext rfl hchanges) ?_ rest⟩
  rw [← getD_name_introductionFor name r bad] at hselect
  refine introduce_undecodable hw hselect ?_ hread
  rw [htarget]
  exact content_applyTo hgood hc hapart

end

/-! ## Ends -/

section

variable {s : Setting} {t : Tree} {r : Request} {files : List Path}

theorem enforce_of_selected (hpaths : r.paths ≠ [])
    (hfiles : selectedFiles s t r = .ok (some files)) :
    enforce s t r =
      ((applyTo s.workshop (Naming.canonical r.name) r t files).1,
        (applyTo s.workshop (Naming.canonical r.name) r t files).2.map
          (.done (categoryFor s (Naming.canonical r.name)) (Naming.canonical r.name) r)) := by
  unfold enforce
  rw [if_neg (by simpa using hpaths), hfiles]

theorem enforce_eq_error_iff (hpaths : r.paths ≠ [])
    (hfiles : selectedFiles s t r = .ok (some files)) {u : Tree} {failure : Failure} :
    enforce s t r = (u, .error failure) ↔
      applyTo s.workshop (Naming.canonical r.name) r t files = (u, .error failure) := by
  rw [enforce_of_selected hpaths hfiles]
  cases applyTo s.workshop (Naming.canonical r.name) r t files with
  | mk v outcome => cases outcome <;> simp [Except.map]

theorem exists_report_iff (hpaths : r.paths ≠ [])
    (hfiles : selectedFiles s t r = .ok (some files)) :
    (∃ report, (enforce s t r).2 = .ok report) ↔
      ∃ changes, (applyTo s.workshop (Naming.canonical r.name) r t files).2 = .ok changes := by
  rw [enforce_of_selected hpaths hfiles]
  constructor
  · rintro ⟨report, hreport⟩
    obtain ⟨changes, hchanges, -⟩ := map_eq_ok.mp hreport
    exact ⟨changes, hchanges⟩
  · rintro ⟨changes, hchanges⟩
    exact ⟨_, map_eq_ok.mpr ⟨changes, hchanges, rfl⟩⟩

theorem targets_of_selected (ht : t.OfNames) (hplace : InPlace r)
    (hfiles : selectedFiles s t r = .ok (some files)) (name : String) : Targets name r files := by
  intro file hfile
  rw [target_of_selected ht ⟨files, hfiles, hfile⟩, targetFor, hplace]

/-- What is found in a file is found in its text. -/
theorem read_of_fileMatches {registry : Analysis.Registry} {wanted : String} {file : Path}
    (h : fileMatches registry t wanted file = .ok true) : ∃ text, t.read file = .ok text := by
  unfold fileMatches at h
  cases hread : t.read file with
  | error failure =>
    rw [hread] at h
    exact nomatch h
  | ok text => exact ⟨text, rfl⟩

theorem read_of_hits (hscope : r.scope = hitsScope)
    (hfiles : selectedFiles s t r = .ok (some files)) :
    ∀ file ∈ files, ∃ text, t.read file = .ok text := by
  intro file hfile
  obtain ⟨sources, -, h⟩ := bind_eq_ok.mp hfiles
  split_ifs at h
  · exact nomatch h
  · obtain ⟨chosen, hchosen, h⟩ := bind_eq_ok.mp h
    obtain rfl := Option.some.inj (pure_eq_ok.mp h)
    exact read_of_fileMatches ((select_eq_ok hchosen).2 hscope file hfile)

/-- How the work on selected files ends. -/
structure Ends (s : Setting) (t : Tree) (r : Request) (files : List Path) : Prop where
  /-- A report has an entry for each file, in order. -/
  entries : ∀ report, (enforce s t r).2 = .ok report → report.changes.map Change.file = files
  /-- There is a failure instead if an introduction fails after those before it were done. What they
  did remains. -/
  failed_iff : ∀ u failure, enforce s t r = (u, .error failure) ↔
    ∃ done file rest v changes, files = done ++ file :: rest ∧
      applyTo s.workshop (Naming.canonical r.name) r t done = (v, .ok changes) ∧
      s.workshop.introduce v (introductionFor (Naming.canonical r.name) r file) =
        (u, .error failure)
  /-- Then the target cannot be read, or it cannot be written. -/
  cause : ∀ file ∈ files, ∀ v u failure,
    s.workshop.introduce v (introductionFor (Naming.canonical r.name) r file) =
      (u, .error failure) →
    u = v ∧ existing v (targetFor r.outFolder file) = .error failure ∨
      r.dryRun = false ∧ ∃ text, put v (targetFor r.outFolder file) text = (u, some failure)
  /-- In place, there is a report if all the files hold texts, and for a name that is not known. -/
  in_place : InPlace r →
    ((∃ report, (enforce s t r).2 = .ok report) ↔
      s.workshop.select (Naming.canonical r.name) = none ∨
        ∀ file ∈ files, ∃ text, t.read file = .ok text)
  /-- In place, the first file that holds no text ends the work. The files before it were treated,
  and those after it are left. -/
  first_unreadable : InPlace r → s.workshop.select (Naming.canonical r.name) ≠ none →
    ∀ good bad rest failure, files = good ++ bad :: rest →
      (∀ file ∈ good, ∃ text, t.read file = .ok text) → t.read bad = .error failure →
      ∃ u changes, applyTo s.workshop (Naming.canonical r.name) r t good = (u, .ok changes) ∧
        changes.map Change.file = good ∧ enforce s t r = (u, .error failure)
  /-- In place, there is a report on the files where something was found. -/
  hits : InPlace r → r.scope = hitsScope → ∃ report, (enforce s t r).2 = .ok report

theorem exists_content_read (hfiles : selectedFiles s t r = .ok (some files))
    {file : Path} (hfile : file ∈ files) {outcome : Except Failure String}
    (hread : t.read file = outcome) : ∃ c, t.content file = .ok c ∧ c.read = outcome := by
  obtain ⟨c, hc⟩ := (selected_contents hfiles).2 file hfile
  exact ⟨c, hc, Tree.read_of_content hc ▸ hread⟩

theorem exists_content_texts (hfiles : selectedFiles s t r = .ok (some files))
    {good : List Path} (hgood : good ⊆ files)
    (htexts : ∀ file ∈ good, ∃ text, t.read file = .ok text) :
    ∀ file ∈ good, ∃ c text, t.content file = .ok c ∧ c.read = .ok text := by
  intro file hfile
  obtain ⟨text, hread⟩ := htexts file hfile
  obtain ⟨c, hc, htext⟩ := exists_content_read hfiles (hgood hfile) hread
  exact ⟨c, text, hc, htext⟩

theorem applyTo_first_unreadable (hw : s.workshop.Plain) (ht : t.Proper) (hplace : InPlace r)
    {good rest : List Path} {bad : Path}
    (hfiles : selectedFiles s t r = .ok (some (good ++ bad :: rest))) {name : String}
    (hselect : s.workshop.select name ≠ none)
    (htexts : ∀ file ∈ good, ∃ text, t.read file = .ok text) {failure : Failure}
    (hbad : t.read bad = .error failure) :
    (∃ changes, (applyTo s.workshop name r t good).2 = .ok changes) ∧
      applyTo s.workshop name r t (good ++ bad :: rest) =
        ((applyTo s.workshop name r t good).1, .error failure) := by
  obtain ⟨c, hc, hread⟩ := exists_content_read hfiles (by simp) hbad
  exact applyTo_undecodable hw (targets_of_selected ht.names hplace hfiles name)
    (selected_contents hfiles).1 hselect
    (exists_content_texts hfiles (List.subset_append_left _ _) htexts) hc hread

/-- All the files hold texts, or there is a first one that does not. -/
theorem readable_or_first (t : Tree) (files : List Path) :
    (∀ file ∈ files, ∃ text, t.read file = .ok text) ∨
      ∃ good bad rest failure, files = good ++ bad :: rest ∧
        (∀ file ∈ good, ∃ text, t.read file = .ok text) ∧ t.read bad = .error failure := by
  induction files with
  | nil => exact Or.inl (fun _ h => absurd h List.not_mem_nil)
  | cons file files ih =>
    cases hread : t.read file with
    | error failure =>
      exact Or.inr ⟨[], file, files, failure, rfl, fun _ h => absurd h List.not_mem_nil, hread⟩
    | ok text =>
      rcases ih with hall | ⟨good, bad, rest, failure, rfl, hgood, hbad⟩
      · exact Or.inl (List.forall_mem_cons.mpr ⟨⟨text, hread⟩, hall⟩)
      · exact Or.inr ⟨file :: good, bad, rest, failure, rfl,
          List.forall_mem_cons.mpr ⟨⟨text, hread⟩, hgood⟩, hbad⟩

theorem exists_report_of_texts (hw : s.workshop.Plain) (ht : t.Proper) (hpaths : r.paths ≠ [])
    (hplace : InPlace r) (hfiles : selectedFiles s t r = .ok (some files))
    (htexts : ∀ file ∈ files, ∃ text, t.read file = .ok text) :
    ∃ report, (enforce s t r).2 = .ok report :=
  (exists_report_iff hpaths hfiles).mpr
    (applyTo_texts hw (targets_of_selected ht.names hplace hfiles _) (selected_contents hfiles).1
      (exists_content_texts hfiles (List.Subset.refl _) htexts))

theorem exists_report_in_place (hw : s.workshop.Plain) (ht : t.Proper) (hpaths : r.paths ≠ [])
    (hplace : InPlace r) (hfiles : selectedFiles s t r = .ok (some files)) :
    (∃ report, (enforce s t r).2 = .ok report) ↔
      s.workshop.select (Naming.canonical r.name) = none ∨
        ∀ file ∈ files, ∃ text, t.read file = .ok text := by
  constructor
  · intro hreport
    by_contra hneither
    obtain ⟨hselect, hunreadable⟩ := not_or.mp hneither
    obtain ⟨good, bad, rest, failure, rfl, hgood, hbad⟩ :=
      (readable_or_first t files).resolve_left hunreadable
    obtain ⟨changes, hchanges⟩ := (exists_report_iff hpaths hfiles).mp hreport
    rw [(applyTo_first_unreadable hw ht hplace hfiles hselect hgood hbad).2] at hchanges
    exact nomatch hchanges
  · rintro (hselect | htexts)
    · obtain ⟨changes, hchanges⟩ : ∃ changes,
          applyTo s.workshop (Naming.canonical r.name) r t files = (t, .ok changes) :=
        applyTo_unselected hselect
      exact (exists_report_iff hpaths hfiles).mpr ⟨changes, by rw [hchanges]⟩
    · exact exists_report_of_texts hw ht hpaths hplace hfiles htexts

theorem ends (hw : s.workshop.Plain) (ht : t.Proper) (hpaths : r.paths ≠ [])
    (hfiles : selectedFiles s t r = .ok (some files)) : Ends s t r files where
  entries := by
    intro report hreport
    rw [enforce_of_selected hpaths hfiles] at hreport
    obtain ⟨changes, hchanges, rfl⟩ := map_eq_ok.mp hreport
    exact files_of_applyTo hchanges
  failed_iff := by
    intro u failure
    rw [enforce_eq_error_iff hpaths hfiles]
    constructor
    · intro h
      have hfailed := applyTo_failed (congrArg Prod.snd h)
      rwa [h] at hfailed
    · rintro ⟨done, file, rest, v, changes, rfl, hdone, hfile⟩
      exact applyTo_stops hdone hfile rest
  cause := by
    intro file hfile v u failure h
    rw [← target_of_selected ht.names ⟨files, hfiles, hfile⟩ (Naming.canonical r.name)]
    exact cause_of_failure hw h
  in_place hplace := exists_report_in_place hw ht hpaths hplace hfiles
  first_unreadable := by
    rintro hplace hselect good bad rest failure rfl hgood hbad
    obtain ⟨⟨changes, hchanges⟩, hfailed⟩ :=
      applyTo_first_unreadable hw ht hplace hfiles hselect hgood hbad
    exact ⟨_, changes, Prod.ext rfl hchanges, files_of_applyTo hchanges,
      (enforce_eq_error_iff hpaths hfiles).mpr hfailed⟩
  hits hplace hscope :=
    exists_report_of_texts hw ht hpaths hplace hfiles (read_of_hits hscope hfiles)

end

/-- Enforcing a target fails before anything is done, or there are no files, or the work on the
selected files ends with a report on all of them or at the first introduction that fails. -/
theorem enforce_ends (s : Setting) (hw : s.workshop.Plain) (t : Tree) (ht : t.Proper) (r : Request)
    (hpaths : r.paths ≠ []) :
    (∀ failure, selectedFiles s t r = .error failure → enforce s t r = (t, .error failure)) ∧
      (selectedFiles s t r = .ok none →
        enforce s t r = (t, .ok (.idle (categoryFor s (Naming.canonical r.name))))) ∧
      ∀ files, selectedFiles s t r = .ok (some files) → Ends s t r files := by
  refine ⟨fun failure h => ?_, fun h => ?_, fun files h => ends hw ht hpaths h⟩
  · unfold enforce
    rw [if_neg (by simpa using hpaths), h]
  · unfold enforce
    rw [if_neg (by simpa using hpaths), h]

/-- A file with a text, and a file that holds no text. -/
def mixedTree (text : String) : Tree :=
  ⟨[], [(["a.py"], .text text), (["b.py"], .ofBytes [255])]⟩

def brokenPath : Path := ⟨false, ["b.py"]⟩

def bothRequest : Request := ⟨"visitor", ["a.py", "b.py"], "all", false, none, none⟩

theorem mixedTree_proper (text : String) : (mixedTree text).Proper where
  names := by constructor <;> simp [mixedTree, IsName]
  down := by simp [mixedTree]
  writable := by simp [mixedTree]
  apart := by
    intro f hf
    simp only [mixedTree, List.mem_cons, List.not_mem_nil, or_false] at hf
    rcases hf with rfl | rfl <;> rfl

theorem selectedFiles_both :
    selectedFiles plainSetting (mixedTree "pass\n") bothRequest =
      .ok (some [passPath, brokenPath]) := by
  decide

/-- The work on a file with a text and a file without one. -/
theorem enforce_ends_both :
    bothRequest.paths ≠ [] ∧ plainSetting.workshop.Plain ∧ (mixedTree "pass\n").Proper ∧
      selectedFiles plainSetting (mixedTree "pass\n") bothRequest =
        .ok (some [passPath, brokenPath]) ∧
      Ends plainSetting (mixedTree "pass\n") bothRequest [passPath, brokenPath] := by
  have hpaths : bothRequest.paths ≠ [] := List.cons_ne_nil _ _
  have hproper := mixedTree_proper "pass\n"
  exact ⟨hpaths, stocked_plain, hproper, selectedFiles_both,
    (enforce_ends plainSetting stocked_plain _ hproper _ hpaths).2.2 _ selectedFiles_both⟩

theorem canonical_both : Naming.canonical bothRequest.name = "visitor" := by
  decide

theorem introductionFor_both :
    introductionFor "visitor" bothRequest passPath = (ask "visitor").request := by
  have hshown : passPath.toString = "a.py" := by decide
  unfold introductionFor
  rw [hshown]
  rfl

theorem existing_mixed : existing (mixedTree "pass\n") passPath = .ok (some "pass\n") := by
  refine existing_eq_some.mpr ⟨by decide, rfl, rfl, .text "pass\n", rfl, ?_⟩
  rw [Content.read, Text.plainNewlines_eq_self (by decide), String.ofList_toList]

theorem merged_pass_ne (scaffold : String) : merged (some "pass\n") scaffold ≠ "pass\n" := by
  have htrim : Text.trimRight "pass\n" = "pass" := by decide
  intro h
  have hlength := congrArg String.length h
  simp only [merged, htrim, String.length_append] at hlength
  have hshort : "pass\n".length = 5 ∧ "pass".length = 4 ∧ "\n\n".length = 2 := by decide
  omega

/-- A visitor is introduced into the file with a text. -/
theorem introduce_mixed : ∃ scaffold answer,
    Workshop.stocked.introduce (mixedTree "pass\n")
        (introductionFor "visitor" bothRequest passPath) =
      (mixedTree (merged (some "pass\n") scaffold), .ok answer) := by
  obtain ⟨d, hd, -⟩ := draft_visitor
  obtain ⟨scaffold, hcompose⟩ := exists_compose stocked_plain hd "pass\n"
  have ho : existing (mixedTree "pass\n") (ask "visitor").request.target = .ok (some "pass\n") := by
    rw [target_ask, existing_mixed]
  have hput : put (mixedTree "pass\n") (ask "visitor").request.target
      (merged (some "pass\n") scaffold) = (mixedTree (merged (some "pass\n") scaffold), none) := by
    rw [target_ask]
    rfl
  rw [introductionFor_both]
  exact ⟨scaffold, _,
    introduce_eq_written hd ho hcompose (isPresent_of_none rfl pass_parses.2 scaffold) rfl hput⟩

theorem select_visitor : Workshop.stocked.select "visitor" ≠ none := by
  obtain ⟨d, hd, -⟩ := draft_visitor
  obtain ⟨generator, -, hselect, -⟩ := draft_eq_ok hd
  exact Option.ne_none_iff_exists'.mpr ⟨_, hselect⟩

/-- Nothing is introduced into the file without a text. -/
theorem introduce_broken (text : String) : ∃ failure, failure.kind = .undecodable ∧
    Workshop.stocked.introduce (mixedTree text) (introductionFor "visitor" bothRequest brokenPath) =
      (mixedTree text, .error failure) := by
  have hcontent : (mixedTree text).content brokenPath = .ok (.ofBytes [255]) := rfl
  have htarget : (introductionFor "visitor" bothRequest brokenPath).target = brokenPath := by
    decide
  obtain ⟨failure, hread, hkind⟩ : ∃ failure, (Content.ofBytes [255]).read = .error failure ∧
      failure.kind = .undecodable := ⟨_, rfl, rfl⟩
  rw [← htarget] at hcontent
  have hselect := select_visitor
  rw [← getD_name_introductionFor "visitor" bothRequest brokenPath] at hselect
  exact ⟨failure, hkind, introduce_undecodable stocked_plain hselect hcontent hread⟩

/-- The second file holds no text, and there is no report; but the first file is not what it
was. -/
theorem enforce_fails_halfway : ∃ failure text,
    enforce plainSetting (mixedTree "pass\n") bothRequest = (mixedTree text, .error failure) ∧
      failure.kind = .undecodable ∧ text ≠ "pass\n" := by
  obtain ⟨scaffold, answer, hfirst⟩ := introduce_mixed
  obtain ⟨failure, hkind, hlast⟩ := introduce_broken (merged (some "pass\n") scaffold)
  refine ⟨failure, _, ?_, hkind, merged_pass_ne scaffold⟩
  have hdone : applyTo Workshop.stocked "visitor" bothRequest (mixedTree "pass\n") [passPath] =
      (mixedTree (merged (some "pass\n") scaffold), .ok [⟨passPath, answer⟩]) := by
    rw [applyTo, hfirst]
    rfl
  rw [enforce_eq_error_iff (List.cons_ne_nil _ _) selectedFiles_both, canonical_both]
  exact applyTo_stops hdone hlast []

end DesignLens.Enforcement
