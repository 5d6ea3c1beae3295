import DesignLens.Enforcement.Ranked
import DesignLens.Proofs.IntroductionFiles
import DesignLens.Proofs.PathNames

/-!
# What enforcing does to the files

Enforcing is a course of introductions, each into the tree that the one before it left. At every
point of it, the files that are not what they were are targets of introductions that were done, and
these are the selected files or files of their names in the folder for results. A trial leaves the
tree as it is.
-/

namespace DesignLens.Enforcement

open Workspace Scaffold

/-! ## Courses of introductions -/

/-- One introduction into a file and what came of it. -/
structure Treatment where
  file : Path
  request : Scaffold.Request
  before : Tree
  after : Tree
  answer : Except Failure Answer

/-- The change that an introduction is reported as. -/
def Treatment.change (s : Treatment) : Except Failure Change := s.answer.map fun a => ⟨s.file, a⟩

def treeAfter (t : Tree) (steps : List Treatment) : Tree := steps.foldl (fun _ s => s.after) t

@[simp] theorem treeAfter_nil (t : Tree) : treeAfter t [] = t := rfl

@[simp] theorem treeAfter_cons (t : Tree) (s : Treatment) (steps : List Treatment) :
    treeAfter t (s :: steps) = treeAfter s.after steps := rfl

theorem treeAfter_append (t : Tree) (steps more : List Treatment) :
    treeAfter t (steps ++ more) = treeAfter (treeAfter t steps) more :=
  List.foldl_append

/-- Introductions that start from a tree, each in the tree that the one before it left. -/
inductive Course (w : Workshop) : Tree → List Treatment → Prop
  | nil {t : Tree} : Course w t []
  | cons {s : Treatment} {steps : List Treatment} :
      w.introduce s.before s.request = (s.after, s.answer) → Course w s.after steps →
      Course w s.before (s :: steps)

theorem Course.append {w : Workshop} {t : Tree} {steps more : List Treatment}
    (h : Course w t steps) (hmore : Course w (treeAfter t steps) more) :
    Course w t (steps ++ more) := by
  induction h with
  | nil => exact hmore
  | cons hstep _ ih => exact .cons hstep (ih hmore)

theorem Course.of_prefix {w : Workshop} {t : Tree} {done steps : List Treatment}
    (h : Course w t steps) (hdone : done <+: steps) : Course w t done := by
  induction h generalizing done with
  | nil =>
    rw [List.prefix_nil.mp hdone]
    exact .nil
  | cons hstep _ ih =>
    rcases List.prefix_cons_iff.mp hdone with rfl | ⟨rest, rfl, hrest⟩
    · exact .nil
    · exact .cons hstep (ih hrest)

/-- The points of a course with the introductions before them: between two introductions, and
within one when the folders above its target are there and the file is still to be written. -/
inductive Point (t : Tree) (steps : List Treatment) : List Treatment → Tree → Prop
  | between {done : List Treatment} : done <+: steps → Point t steps done (treeAfter t done)
  | within {done : List Treatment} {s : Treatment} : done ++ [s] <+: steps →
      s.request.dryRun = false →
      Point t steps done ((treeAfter t done).makeFolders s.request.target.parent).1

/-- A trial leaves the tree as it is. -/
theorem tree_of_trial {w : Workshop} {t t' : Tree} {r : Scaffold.Request}
    {answer : Except Failure Answer} (h : Introduction w t r t' answer) (hdry : r.dryRun = true) :
    t' = t := by
  cases h with
  | failed _ _ _ _ hwrite => exact absurd hdry (by simp [hwrite])
  | written _ _ _ _ hwrite => exact absurd hdry (by simp [hwrite])
  | _ => rfl

/-- A file that an introduction changes is its target, and the introduction says that it wrote
it. -/
theorem written_of_changed {w : Workshop} {t t' : Tree} {r : Scaffold.Request}
    {answer : Except Failure Answer} (h : w.introduce t r = (t', answer)) {place : Place}
    (hchanged : t'.fileAt? place ≠ t.fileAt? place) :
    r.target.destination = place ∧
      ∃ e, answer = .ok (.done e) ∧ e.writtenTo = some r.target := by
  have hkeeps := introduce_introduction w t r |>.keepsFiles
  rw [h] at hkeeps
  have hplace : place = r.target.destination := by
    by_contra hother
    exact hchanged (hkeeps.others place hother)
  by_cases hdone : r.dryRun = true ∨ ∀ e, answer ≠ .ok (.done e)
  · exact absurd (hkeeps.unchanged hdone place) hchanged
  · simp only [not_or, not_forall, not_not, Bool.not_eq_true] at hdone
    obtain ⟨hwrite, e, he⟩ := hdone
    refine ⟨hplace.symm, e, he, ?_⟩
    rw [(hkeeps.written_to e he).1, hwrite]
    rfl

theorem Course.changed {w : Workshop} {t : Tree} {steps : List Treatment} (h : Course w t steps)
    {place : Place} (hchanged : (treeAfter t steps).fileAt? place ≠ t.fileAt? place) :
    ∃ s ∈ steps, s.request.target.destination = place ∧
      ∃ e, s.answer = .ok (.done e) ∧ e.writtenTo = some s.request.target := by
  induction h with
  | nil => exact absurd rfl hchanged
  | @cons s steps hstep _ ih =>
    by_cases hlater : (treeAfter s.after steps).fileAt? place = s.after.fileAt? place
    · rw [treeAfter_cons, hlater] at hchanged
      exact ⟨s, List.mem_cons_self, written_of_changed hstep hchanged⟩
    · obtain ⟨later, hmem, hwritten⟩ := ih hlater
      exact ⟨later, List.mem_cons_of_mem s hmem, hwritten⟩

theorem Course.tree_of_trial {w : Workshop} {t : Tree} {steps : List Treatment}
    (h : Course w t steps) (hdry : ∀ s ∈ steps, s.request.dryRun = true) :
    treeAfter t steps = t := by
  induction h with
  | nil => rfl
  | @cons s steps hstep _ ih =>
    obtain ⟨hfirst, hrest⟩ := List.forall_mem_cons.mp hdry
    have htree := Enforcement.tree_of_trial (introduce_introduction w s.before s.request) hfirst
    rw [hstep] at htree
    rw [treeAfter_cons, ih hrest]
    exact htree

/-! ## Trees of names -/

theorem ofNames_put {t : Tree} (ht : t.OfNames) {p : Path} (hp : p.OfNames) (text : String) :
    (put t p text).1.OfNames := by
  have hfolders := ht.makeFolders hp.parent
  unfold put
  cases hm : t.makeFolders p.parent with
  | mk u failure =>
    rw [hm] at hfolders
    cases failure with
    | some f => exact hfolders
    | none =>
      simp only
      cases hw : u.writeText p text with
      | error f => exact hfolders
      | ok v =>
        obtain ⟨-, -, -, rfl⟩ := Tree.write_eq_ok.mp hw
        exact hfolders.setFile hp.destination _

/-- Introducing keeps a tree of names. -/
theorem ofNames_of_introduction {w : Workshop} {t t' : Tree} {r : Scaffold.Request}
    {answer : Except Failure Answer} (h : Introduction w t r t' answer) (ht : t.OfNames) :
    t'.OfNames := by
  have hput : ∀ text outcome, put t r.target text = (t', outcome) → t'.OfNames := by
    intro text outcome hput
    have htarget : r.target.OfNames := Path.ofNames_ofString _
    have hnames := ofNames_put ht htarget text
    rwa [hput] at hnames
  cases h with
  | failed _ _ _ _ _ h => exact hput _ _ h
  | written _ _ _ _ _ h => exact hput _ _ h
  | _ => exact ht

theorem Course.ofNames {w : Workshop} {t : Tree} {steps : List Treatment} (h : Course w t steps)
    (ht : t.OfNames) : (treeAfter t steps).OfNames := by
  induction h with
  | nil => exact ht
  | @cons s steps hstep _ ih =>
    have hintroduction := introduce_introduction w s.before s.request
    rw [hstep] at hintroduction
    exact ih (ofNames_of_introduction hintroduction ht)

/-! ## The course of an enforcement -/

/-- Introduces a name into a file. -/
def treat (w : Workshop) (name : String) (r : Request) (t : Tree) (file : Path) : Treatment :=
  let outcome := w.introduce t (introductionFor name r file)
  ⟨file, introductionFor name r file, t, outcome.1, outcome.2⟩

/-- The introductions into files one after another, up to the first failure. -/
def treatments (w : Workshop) (name : String) (r : Request) : Tree → List Path → List Treatment
  | _, [] => []
  | t, file :: rest =>
    treat w name r t file ::
      match (treat w name r t file).answer with
      | .error _ => []
      | .ok _ => treatments w name r (treat w name r t file).after rest

theorem applyTo_eq (w : Workshop) (name : String) (r : Request) (t : Tree) (files : List Path) :
    applyTo w name r t files =
      (treeAfter t (treatments w name r t files),
        (treatments w name r t files).mapM Treatment.change) := by
  induction files generalizing t with
  | nil => rfl
  | cons file rest ih =>
    rw [applyTo, treatments, List.mapM_cons, treeAfter_cons]
    unfold treat
    cases w.introduce t (introductionFor name r file) with
    | mk t' answer =>
      cases answer with
      | error failure => rfl
      | ok answer =>
        simp only [ih]
        rfl

theorem course_treatments (w : Workshop) (name : String) (r : Request) (t : Tree)
    (files : List Path) : Course w t (treatments w name r t files) := by
  induction files generalizing t with
  | nil => exact .nil
  | cons file rest ih =>
    rw [treatments]
    refine Course.cons (s := treat w name r t file) rfl ?_
    split
    · exact .nil
    · exact ih _

theorem mem_treatments {w : Workshop} {name : String} {r : Request} {t : Tree} {files : List Path}
    {s : Treatment} (h : s ∈ treatments w name r t files) :
    s.file ∈ files ∧ s.request = introductionFor name r s.file := by
  induction files generalizing t with
  | nil => exact absurd h List.not_mem_nil
  | cons file rest ih =>
    rw [treatments] at h
    rcases List.mem_cons.mp h with rfl | h
    · exact ⟨List.mem_cons_self, rfl⟩
    · split at h
      · exact absurd h List.not_mem_nil
      · obtain ⟨hfile, hrequest⟩ := ih h
        exact ⟨List.mem_cons_of_mem file hfile, hrequest⟩

/-- The introductions that enforcing a target comes to. -/
def steps (s : Setting) (t : Tree) (r : Request) : List Treatment :=
  if r.paths.isEmpty then []
  else
    match selectedFiles s t r with
    | .ok (some files) => treatments s.workshop (Naming.canonical r.name) r t files
    | _ => []

/-- The changes that a report names. -/
def Report.changes : Report → List Change
  | .done _ _ _ changes => changes
  | _ => []

theorem enforce_tree (s : Setting) (t : Tree) (r : Request) :
    (enforce s t r).1 = treeAfter t (steps s t r) := by
  unfold enforce steps
  split_ifs
  · rfl
  · simp only
    cases selectedFiles s t r with
    | error failure => rfl
    | ok selected =>
      cases selected with
      | none => rfl
      | some files =>
        simp only
        rw [applyTo_eq]

theorem changes_of_enforce {s : Setting} {t : Tree} {r : Request} {report : Report}
    (h : (enforce s t r).2 = .ok report) :
    (steps s t r).mapM Treatment.change = .ok report.changes := by
  unfold enforce at h
  unfold steps
  split_ifs at h ⊢
  · cases h
    rfl
  · cases hselected : selectedFiles s t r with
    | error failure =>
      rw [hselected] at h
      exact nomatch h
    | ok selected =>
      cases selected with
      | none =>
        rw [hselected] at h
        cases h
        rfl
      | some files =>
        rw [hselected] at h
        simp only [applyTo_eq] at h
        obtain ⟨changes, hchanges, rfl⟩ := map_eq_ok.mp h
        exact hchanges

theorem course_steps (s : Setting) (t : Tree) (r : Request) :
    Course s.workshop t (steps s t r) := by
  unfold steps
  split_ifs
  · exact .nil
  · split
    · exact course_treatments _ _ _ _ _
    · exact .nil

/-- A file is selected by a request in a tree. -/
def SelectedIn (s : Setting) (t : Tree) (r : Request) (file : Path) : Prop :=
  ∃ files, selectedFiles s t r = .ok (some files) ∧ file ∈ files

theorem mem_steps {s : Setting} {t : Tree} {r : Request} {step : Treatment}
    (h : step ∈ steps s t r) :
    SelectedIn s t r step.file ∧
      step.request = introductionFor (Naming.canonical r.name) r step.file := by
  unfold steps at h
  split_ifs at h
  · exact absurd h List.not_mem_nil
  · split at h
    · rename_i files hfiles
      obtain ⟨hfile, hrequest⟩ := mem_treatments h
      exact ⟨⟨files, hfiles, hfile⟩, hrequest⟩
    · exact absurd h List.not_mem_nil

/-! ## Targets -/

/-- Where the result for a file goes: into the folder for results, if there is one, or into the
file. -/
def targetFor (outFolder : Option String) (file : Path) : Path :=
  match outFolder.filter (!·.isEmpty) with
  | some folder => (Path.ofString folder).child file.name
  | none => file

/-- The files to treat are some of the files, in their order. If the scope is that of hits,
something is found in each of them. -/
theorem select_eq_ok {registry : Analysis.Registry} {t : Tree} {wanted : String} {r : Request}
    {files chosen : List Path} (h : select registry t wanted r files = .ok chosen) :
    chosen.Sublist files ∧
      (r.scope = hitsScope → ∀ file ∈ chosen, fileMatches registry t wanted file = .ok true) := by
  obtain ⟨found, hfound, hlimited⟩ : ∃ found, (found.Sublist files ∧
      (r.scope = hitsScope → ∀ file ∈ found, fileMatches registry t wanted file = .ok true)) ∧
      chosen.Sublist found := by
    unfold select at h
    dsimp only at h
    split_ifs at h with hscope
    · obtain ⟨found, hfound, h⟩ := bind_eq_ok.mp h
      obtain rfl := pure_eq_ok.mp h
      refine ⟨found,
        ⟨sublist_of_filterM hfound, fun _ file hfile => (mem_of_filterM hfound hfile).2⟩, ?_⟩
      split
      · split_ifs
        · exact List.take_sublist _ _
        · exact List.Sublist.refl _
      · exact List.Sublist.refl _
    · obtain rfl := pure_eq_ok.mp h
      refine ⟨files, ⟨List.Sublist.refl _, fun hhits => absurd hhits hscope⟩, ?_⟩
      split
      · split_ifs
        · exact List.take_sublist _ _
        · exact List.Sublist.refl _
      · exact List.Sublist.refl _
  exact ⟨hlimited.trans hfound.1,
    fun hscope file hfile => hfound.2 hscope file (hlimited.subset hfile)⟩

theorem collected_of_selected {s : Setting} {t : Tree} {r : Request} {file : Path}
    (h : SelectedIn s t r file) : ∃ entry ∈ r.paths, Collected t entry file := by
  obtain ⟨selected, hselected, hfile⟩ := h
  obtain ⟨files, hfiles, hselected⟩ := bind_eq_ok.mp hselected
  split_ifs at hselected
  · exact nomatch hselected
  · obtain ⟨chosen, hchosen, hselected⟩ := bind_eq_ok.mp hselected
    obtain rfl := Option.some.inj (pure_eq_ok.mp hselected)
    exact collected_of_sources hfiles ((select_eq_ok hchosen).1.subset hfile)

theorem isName_name {p : Path} (hp : p.OfNames) (hne : p.parts ≠ []) : IsName p.name := by
  apply hp
  unfold Path.name
  rw [List.getLastD_eq_getLast?, List.getLast?_eq_some_getLast hne]
  exact List.getLast_mem hne

theorem target_introductionFor {name : String} {r : Request} {file : Path} (hfile : file.OfNames)
    (hne : file.parts ≠ []) :
    (introductionFor name r file).target = targetFor r.outFolder file := by
  unfold introductionFor Scaffold.Request.target targetFor
  cases r.outFolder.filter (!·.isEmpty) with
  | none => exact Path.ofString_toString hfile
  | some folder =>
    have hchild := (Path.ofNames_ofString folder).child (isName_name hfile hne)
    have hread := Path.ofString_toString hchild
    -- The path of the result has a last name, so that it is not written as the empty text.
    have hshown : ((Path.ofString folder).child file.name).toString ≠ "" := by
      intro hempty
      rw [hempty] at hread
      exact absurd (congrArg Path.parts hread)
        (by simp [Path.child, Path.ofString, Text.pieces, Text.piecesFrom])
    simp only [Option.map_some, String.isEmpty_iff, hshown, if_false]
    exact hread

/-! ## The course of several enforcements -/

/-- The request that a ranked target is enforced with. -/
def targetRequest (r : RankedRequest) (target : Ranking.Target) : Request :=
  ⟨target.name, r.paths, r.scope, r.dryRun, r.outFolder, none⟩

/-- The introductions that enforcing targets one after another comes to. -/
def targetsSteps (s : Setting) (r : RankedRequest) : Tree → List Ranking.Target → List Treatment
  | _, [] => []
  | t, target :: rest =>
    steps s t (targetRequest r target) ++
      match (enforce s t (targetRequest r target)).2 with
      | .error _ => []
      | .ok _ => targetsSteps s r (treeAfter t (steps s t (targetRequest r target))) rest

/-- The targets that a ranked enforcement goes through. -/
def leadingTargets (s : Setting) (t : Tree) (r : RankedRequest) : List Ranking.Target :=
  if r.paths.isEmpty then []
  else
    match rankedTargets s t r.paths with
    | .error _ => []
    | .ok targets => targets.take (countOr defaultTargets r.topCount)

def rankedSteps (s : Setting) (t : Tree) (r : RankedRequest) : List Treatment :=
  targetsSteps s r t (leadingTargets s t r)

theorem applyTargets_tree (s : Setting) (r : RankedRequest) (t : Tree)
    (targets : List Ranking.Target) :
    (applyTargets s r t targets).1 = treeAfter t (targetsSteps s r t targets) := by
  induction targets generalizing t with
  | nil => rfl
  | cons target rest ih =>
    have htree := enforce_tree s t (targetRequest r target)
    rw [applyTargets, targetsSteps, treeAfter_append, ← htree]
    unfold targetRequest
    cases enforce s t ⟨target.name, r.paths, r.scope, r.dryRun, r.outFolder, none⟩ with
    | mk u outcome =>
      cases outcome with
      | error failure => rfl
      | ok report => exact ih u

theorem changes_of_applyTargets {s : Setting} {r : RankedRequest} {t : Tree}
    {targets : List Ranking.Target} {applied : List Applied}
    (h : (applyTargets s r t targets).2 = .ok applied) :
    (targetsSteps s r t targets).mapM Treatment.change =
      .ok (applied.flatMap fun a => a.report.changes) := by
  induction targets generalizing t applied with
  | nil =>
    cases h
    rfl
  | cons target rest ih =>
    have htree := enforce_tree s t (targetRequest r target)
    have hchanges : ∀ report, (enforce s t (targetRequest r target)).2 = .ok report →
        (steps s t (targetRequest r target)).mapM Treatment.change = .ok report.changes :=
      fun _ => changes_of_enforce
    rw [applyTargets] at h
    rw [targetsSteps, List.mapM_append, ← htree]
    unfold targetRequest at hchanges ⊢
    cases henforce : enforce s t ⟨target.name, r.paths, r.scope, r.dryRun, r.outFolder, none⟩ with
    | mk u outcome =>
      rw [henforce] at h hchanges
      cases outcome with
      | error failure => exact nomatch h
      | ok report =>
        obtain ⟨later, hlater, rfl⟩ := map_eq_ok.mp h
        rw [hchanges report rfl, List.flatMap_cons]
        simp only
        rw [ih hlater]
        rfl

theorem enforceRanked_eq (s : Setting) (t : Tree) (r : RankedRequest) :
    (enforceRanked s t r).1 = treeAfter t (rankedSteps s t r) ∧
      ∀ applied, (enforceRanked s t r).2 = .ok (some applied) →
        (rankedSteps s t r).mapM Treatment.change =
          .ok (applied.flatMap fun a => a.report.changes) := by
  unfold enforceRanked rankedSteps leadingTargets
  split_ifs
  · exact ⟨rfl, fun _ h => nomatch h⟩
  · cases rankedTargets s t r.paths with
    | error failure => exact ⟨rfl, fun _ h => nomatch h⟩
    | ok targets =>
      refine ⟨applyTargets_tree s r t _, fun applied h => ?_⟩
      obtain ⟨applied', happlied, heq⟩ := map_eq_ok.mp h
      obtain rfl := Option.some.inj heq
      exact changes_of_applyTargets happlied

theorem course_targetsSteps (s : Setting) (r : RankedRequest) (t : Tree)
    (targets : List Ranking.Target) : Course s.workshop t (targetsSteps s r t targets) := by
  induction targets generalizing t with
  | nil => exact .nil
  | cons target rest ih =>
    rw [targetsSteps]
    refine (course_steps s t (targetRequest r target)).append ?_
    split
    · exact .nil
    · exact ih _

/-- A file is selected for one of the targets, in the tree that the work on the targets before it
left. -/
def SelectedInTurn (s : Setting) (t : Tree) (r : RankedRequest) (targets : List Ranking.Target)
    (file : Path) : Prop :=
  ∃ earlier target later, targets = earlier ++ target :: later ∧
    SelectedIn s (treeAfter t (targetsSteps s r t earlier)) (targetRequest r target) file

theorem mem_targetsSteps {s : Setting} {r : RankedRequest} {t : Tree}
    {targets : List Ranking.Target} {step : Treatment} (h : step ∈ targetsSteps s r t targets) :
    SelectedInTurn s t r targets step.file ∧ ∃ target,
      step.request =
        introductionFor (Naming.canonical target.name) (targetRequest r target) step.file := by
  induction targets generalizing t with
  | nil => exact absurd h List.not_mem_nil
  | cons target rest ih =>
    rw [targetsSteps] at h
    rcases List.mem_append.mp h with h | h
    · obtain ⟨hselected, hrequest⟩ := mem_steps h
      exact ⟨⟨[], target, rest, rfl, hselected⟩, target, hrequest⟩
    · split at h
      · exact absurd h List.not_mem_nil
      · rename_i report henforce
        obtain ⟨⟨earlier, target', later, rfl, hselected⟩, hrequest⟩ := ih h
        refine ⟨⟨target :: earlier, target', later, rfl, ?_⟩, hrequest⟩
        rw [targetsSteps, henforce, treeAfter_append]
        exact hselected

/-! ## Confinement -/

/-- A course that keeps to its targets. A trial is in the tree that it started from at every point.
A file that is not what it was at the start is the target of an introduction that was done before
the point, into a selected file. -/
structure Confined (w : Workshop) (dryRun : Bool) (outFolder : Option String)
    (Selected : Path → Prop) (t : Tree) (steps : List Treatment) : Prop where
  course : Course w t steps
  targets : ∀ s ∈ steps, Selected s.file ∧ s.request.target = targetFor outFolder s.file
  trial : dryRun = true → ∀ done u, Point t steps done u → u = t
  changed : ∀ done u, Point t steps done u → ∀ place, u.fileAt? place ≠ t.fileAt? place →
    ∃ s ∈ done, s ∈ steps ∧ (targetFor outFolder s.file).destination = place ∧
      ∃ e, s.answer = .ok (.done e) ∧ e.writtenTo = some (targetFor outFolder s.file)

theorem Point.done_prefix {t u : Tree} {steps done : List Treatment}
    (h : Point t steps done u) : done <+: steps := by
  cases h with
  | between h => exact h
  | within h => exact (List.prefix_append _ _).trans h

theorem Point.fileAt? {t u : Tree} {steps done : List Treatment} (h : Point t steps done u)
    (place : Place) : u.fileAt? place = (treeAfter t done).fileAt? place := by
  cases h with
  | between _ => rfl
  | within _ => exact (Tree.grown_makeFolders _ _).fileAt? place

theorem Course.point_of_trial {w : Workshop} {t u : Tree} {steps done : List Treatment}
    (hcourse : Course w t steps) (hdry : ∀ s ∈ steps, s.request.dryRun = true)
    (h : Point t steps done u) : u = t := by
  cases h with
  | between h =>
    exact (hcourse.of_prefix h).tree_of_trial fun s hs => hdry s (h.subset hs)
  | @within s h hwrite =>
    have hmem : s ∈ steps := h.subset (by simp)
    exact absurd (hdry s hmem) (by simp [hwrite])

theorem Course.confined {w : Workshop} {dryRun : Bool} {outFolder : Option String}
    {Selected : Path → Prop} {t : Tree} {steps : List Treatment} (hcourse : Course w t steps)
    (hdry : ∀ s ∈ steps, s.request.dryRun = dryRun)
    (htargets : ∀ s ∈ steps, Selected s.file ∧ s.request.target = targetFor outFolder s.file) :
    Confined w dryRun outFolder Selected t steps where
  course := hcourse
  targets := htargets
  trial := by
    rintro rfl done u hpoint
    exact hcourse.point_of_trial hdry hpoint
  changed := by
    intro done u hpoint place hchanged
    rw [hpoint.fileAt? place] at hchanged
    obtain ⟨s, hs, hplace, hdone⟩ := (hcourse.of_prefix hpoint.done_prefix).changed hchanged
    have hmem := hpoint.done_prefix.subset hs
    rw [(htargets s hmem).2] at hplace hdone
    exact ⟨s, hs, hmem, hplace, hdone⟩

theorem target_of_selected {s : Setting} {t : Tree} (ht : t.OfNames) {r : Request} {file : Path}
    (h : SelectedIn s t r file) (name : String) :
    (introductionFor name r file).target = targetFor r.outFolder file := by
  obtain ⟨entry, -, hcollected⟩ := collected_of_selected h
  exact target_introductionFor (hcollected.ofNames ht) hcollected.parts_ne_nil

theorem steps_confined (s : Setting) {t : Tree} (ht : t.OfNames) (r : Request) :
    Confined s.workshop r.dryRun r.outFolder (SelectedIn s t r) t (steps s t r) := by
  refine (course_steps s t r).confined ?_ ?_
  · intro step hstep
    rw [(mem_steps hstep).2]
    rfl
  · intro step hstep
    obtain ⟨hselected, hrequest⟩ := mem_steps hstep
    rw [hrequest]
    exact ⟨hselected, target_of_selected ht hselected _⟩

theorem targetsSteps_confined (s : Setting) {t : Tree} (ht : t.OfNames) (r : RankedRequest)
    (targets : List Ranking.Target) :
    Confined s.workshop r.dryRun r.outFolder (SelectedInTurn s t r targets) t
      (targetsSteps s r t targets) := by
  refine (course_targetsSteps s r t targets).confined ?_ ?_
  · intro step hstep
    obtain ⟨-, target, hrequest⟩ := mem_targetsSteps hstep
    rw [hrequest]
    rfl
  · intro step hstep
    obtain ⟨hselected, target, hrequest⟩ := mem_targetsSteps hstep
    refine ⟨hselected, ?_⟩
    obtain ⟨earlier, target', -, -, hin⟩ := hselected
    -- The file was collected from the tree that earlier targets left, which has only names, too.
    obtain ⟨entry, -, hcollected⟩ := collected_of_selected hin
    have hnames := (course_targetsSteps s r t earlier).ofNames ht
    rw [hrequest]
    exact target_introductionFor (hcollected.ofNames hnames) hcollected.parts_ne_nil

/-- Enforcing a target, and enforcing the leading targets of a ranking one after another, are
courses of introductions that keep to their targets, whether they come to an end or fail on the way;
the reports list the introductions. -/
theorem enforcement_confined (s : Setting) (t : Tree) (ht : t.OfNames) :
    (∀ r : Request,
      (enforce s t r).1 = treeAfter t (steps s t r) ∧
      (∀ report, (enforce s t r).2 = .ok report →
        (steps s t r).mapM Treatment.change = .ok report.changes) ∧
      Confined s.workshop r.dryRun r.outFolder (SelectedIn s t r) t (steps s t r)) ∧
    ∀ r : RankedRequest,
      (enforceRanked s t r).1 = treeAfter t (rankedSteps s t r) ∧
      (∀ applied, (enforceRanked s t r).2 = .ok (some applied) →
        (rankedSteps s t r).mapM Treatment.change =
          .ok (applied.flatMap fun a => a.report.changes)) ∧
      Confined s.workshop r.dryRun r.outFolder (SelectedInTurn s t r (leadingTargets s t r)) t
        (rankedSteps s t r) := by
  constructor
  · intro r
    exact ⟨enforce_tree s t r, fun _ => changes_of_enforce, steps_confined s ht r⟩
  · intro r
    obtain ⟨htree, hchanges⟩ := enforceRanked_eq s t r
    exact ⟨htree, hchanges, targetsSteps_confined s ht r _⟩

/-- The scaffolds at hand, and nothing to look for in texts. -/
def plainSetting : Setting where
  registry := []
  advice := ⟨[], []⟩
  workshop := .stocked
  instruments := .ready fun _ => ⟨.ok [], .ok .null, .ok .null, .ok (.obj [])⟩
  linter := false
  outline := fun _ => none
  editor := ⟨fun _ => none, fun _ => "", .ok⟩

/-- A folder with a file. -/
def folderTree : Tree := ⟨[["pkg"]], [(["pkg", "a.py"], .text "pass\n")]⟩

def folderRequest : Request := ⟨"three_tier", ["pkg"], "all", false, some "out", none⟩

/-- The file of a folder is selected, and its result goes to another folder. -/
theorem enforcement_confined_to_folder :
    folderTree.OfNames ∧ SelectedIn plainSetting folderTree folderRequest ⟨false, ["pkg", "a.py"]⟩ ∧
      targetFor (some "out") ⟨false, ["pkg", "a.py"]⟩ = ⟨false, ["out", "a.py"]⟩ ∧
      Confined plainSetting.workshop false (some "out")
        (SelectedIn plainSetting folderTree folderRequest) folderTree
        (steps plainSetting folderTree folderRequest) := by
  have hnames : folderTree.OfNames := by
    constructor <;> simp [folderTree, IsName]
  refine ⟨hnames, ⟨[⟨false, ["pkg", "a.py"]⟩], ?_, List.mem_singleton_self _⟩, ?_,
    ((enforcement_confined plainSetting folderTree hnames).1 folderRequest).2.2⟩
  · decide +kernel
  · decide

end DesignLens.Enforcement
