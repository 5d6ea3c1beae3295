import DesignLens.Proofs.ShippedScaffolds

/-!
# What introducing does to the files

An introduction changes no file but its target, and that one only if it reports so.

The old text is kept if it is seen. A path may lead to a file through a folder that is missing and
back out of it. Such a file is not seen, but once the missing folder is created the path leads to
it, and its text is replaced.
-/

namespace DesignLens.Scaffold

open Workspace

variable {t t' : Tree} {p : Path}

/-- A header, a blank line and the rendered code of the generator of a name. -/
def IsScaffold (w : Workshop) (r : Request) (scaffold : String) : Prop :=
  ∃ category name generator snippet brief heading,
    w.select (r.name.getD "") = some (category, name, generator) ∧
      generator (w.catalog.find? name category.word) = .ok (some snippet) ∧ snippet ≠ "" ∧
      brief.name = name ∧ brief.category = category.word ∧
      header w.catalog brief = .ok heading ∧
      scaffold = heading ++ "\n\n" ++
        w.engine.render [("name", .str name), ("module_path", .str r.modulePath)] snippet

theorem isScaffold_of_compose {w : Workshop} {r : Request} {d : Draft} {old scaffold : String}
    (hd : w.draft r = .ok d) (hc : w.compose d old = .ok scaffold) : IsScaffold w r scaffold := by
  obtain ⟨generator, snippet, hselect, hentry, hsnippet, hne, hcode⟩ := draft_eq_ok hd
  obtain ⟨heading, hheading, rfl⟩ := compose_eq_ok.mp hc
  exact ⟨d.category, d.name, generator, snippet, _, heading, hselect, hentry ▸ hsnippet, hne, rfl,
    rfl, hheading, by rw [hcode]⟩

/-- A path can be followed to its last name. -/
def Reaches (t : Tree) (p : Path) : Prop := p.isWritable = true ∧ ∃ place, t.locate p = .ok place

/-- What is seen of a file that is there depends on whether its path can be followed. -/
theorem isNone_existing_iff {old : Option String} (h : existing t p = .ok old) :
    old.isNone = true ↔ t.fileAt? p.destination = none ∨ ¬ Reaches t p := by
  cases old with
  | some text =>
    obtain ⟨hw, hl, -, c, hc, -⟩ := existing_eq_some.mp h
    simp [hc, Reaches, hw, hl]
  | none =>
    simp only [Option.isNone_none, true_iff]
    rcases existing_eq_none.mp h with hw | ⟨cause, hl, -⟩ | ⟨-, he⟩
    · exact Or.inr (by simp [Reaches, hw])
    · exact Or.inr (by simp [Reaches, hl])
    · refine Or.inl ?_
      unfold Tree.entryAt? at he
      split_ifs at he
      exact Option.map_eq_none_iff.mp he

/-- What an introduction may do to the files of a tree.

A report that a file was created is wrong about a file that is there exactly if its path cannot be
followed before the introduction. The path of such a file leads through a missing folder and
back. -/
structure KeepsFiles (w : Workshop) (t : Tree) (r : Request) (t' : Tree)
    (answer : Except Failure Answer) : Prop where
  others : ∀ place, place ≠ r.target.destination → t'.fileAt? place = t.fileAt? place
  unchanged : (r.dryRun = true ∨ ∀ e, answer ≠ .ok (.done e)) →
    ∀ place, t'.fileAt? place = t.fileAt? place
  written_to : ∀ e, answer = .ok (.done e) →
    e.writtenTo = (if r.dryRun then none else some r.target) ∧ e.appended = !e.created
  created : ∀ e, answer = .ok (.done e) → e.created = true → ∃ scaffold, IsScaffold w r scaffold ∧
    (r.dryRun = false → t'.fileAt? r.target.destination = some (.text scaffold))
  appended : ∀ e, answer = .ok (.done e) → e.created = false →
    ∃ scaffold c text blanks, IsScaffold w r scaffold ∧
      t.fileAt? r.target.destination = some c ∧ c.read = .ok text ∧
      (∀ x ∈ blanks, Text.isBlank x = true) ∧
      text.toList = (Text.trimRight text).toList ++ blanks ∧
      (r.dryRun = false → t'.fileAt? r.target.destination =
        some (.text (Text.trimRight text ++ "\n\n" ++ scaffold ++ "\n")))
  created_iff : ∀ e, answer = .ok (.done e) →
    (e.created = true ↔ t.fileAt? r.target.destination = none ∨ ¬ Reaches t r.target)
  created_iff_of_down : t.Rooted → ".." ∉ r.target.parts → r.dryRun = false →
    ∀ e, answer = .ok (.done e) → (e.created = true ↔ t.fileAt? r.target.destination = none)

/-- An introduction that is not done, or only as a trial, keeps all files. -/
theorem KeepsFiles.of_unchanged {w : Workshop} {r : Request} {answer : Except Failure Answer}
    (hfiles : ∀ place, t'.fileAt? place = t.fileAt? place) (h : ∀ e, answer ≠ .ok (.done e)) :
    KeepsFiles w t r t' answer where
  others := fun place _ => hfiles place
  unchanged := fun _ => hfiles
  written_to := fun e he => absurd he (h e)
  created := fun e he => absurd he (h e)
  appended := fun e he => absurd he (h e)
  created_iff := fun e he => absurd he (h e)
  created_iff_of_down := fun _ _ _ e he => absurd he (h e)

/-- A file that is there and can be written is seen if its path never leads back. -/
theorem fileAt?_eq_none_of_down (hrooted : t.Rooted) (hdown : ".." ∉ p.parts)
    (hwritable : p.isWritable = true) (hrelative : p.absolute = false)
    (h : existing t p = .ok none) : t.fileAt? p.destination = none := by
  cases hfile : t.fileAt? p.destination with
  | none => rfl
  | some c =>
    have hlocate := Tree.locate_down_to_file hrooted hrelative hdown hfile
    rcases existing_eq_none.mp h with hw | ⟨cause, hl, hcause⟩ | ⟨-, he⟩
    · simp [hwritable] at hw
    · rw [hl] at hlocate
      rcases hlocate with hlocate | hlocate
      · simp at hlocate
      · exact absurd (Except.error.inj hlocate) hcause
    · unfold Tree.entryAt? at he
      split_ifs at he
      simp [hfile] at he

/-- The reports of an introduction that is done, from what happened to the target. -/
theorem KeepsFiles.of_done {w : Workshop} {r : Request} {d : Draft} {old : Option String}
    {scaffold : String} (hd : w.draft r = .ok d) (ho : existing t r.target = .ok old)
    (hc : w.compose d (old.getD "") = .ok scaffold)
    (hothers : ∀ place, place ≠ r.target.destination → t'.fileAt? place = t.fileAt? place)
    (htrial : r.dryRun = true → ∀ place, t'.fileAt? place = t.fileAt? place)
    (hwritten : r.dryRun = false → r.target.isWritable = true ∧ r.target.absolute = false ∧
      t'.fileAt? r.target.destination = some (.text (merged old scaffold))) :
    KeepsFiles w t r t' (.ok (.done (w.change r d old scaffold))) where
  others := hothers
  unchanged := by
    rintro (hdry | hnot)
    · exact htrial hdry
    · exact absurd rfl (hnot _)
  written_to := by
    rintro e ⟨rfl⟩
    exact ⟨rfl, by cases old <;> rfl⟩
  created := by
    rintro e ⟨rfl⟩ hcreated
    have hold : old = none := Option.isNone_iff_eq_none.mp hcreated
    subst hold
    exact ⟨scaffold, isScaffold_of_compose hd hc, fun hdry => (hwritten hdry).2.2⟩
  appended := by
    rintro e ⟨rfl⟩ hcreated
    cases old with
    | none => simp [Workshop.change, Request.nothingToDo] at hcreated
    | some text =>
      obtain ⟨-, -, -, c, hfile, hread⟩ := existing_eq_some.mp ho
      obtain ⟨blanks, hblank, htext⟩ := Text.trimRight_append_blanks text
      exact ⟨scaffold, c, text, blanks, isScaffold_of_compose hd hc, hfile, hread, hblank, htext,
        fun hdry => (hwritten hdry).2.2⟩
  created_iff := by
    rintro e ⟨rfl⟩
    exact isNone_existing_iff ho
  created_iff_of_down := by
    rintro hrooted hdown hdry e ⟨rfl⟩
    obtain ⟨hwritable, hrelative, -⟩ := hwritten hdry
    constructor
    · intro hcreated
      rw [Option.isNone_iff_eq_none.mp hcreated] at ho
      exact fileAt?_eq_none_of_down hrooted hdown hwritable hrelative ho
    · intro hfile
      exact (isNone_existing_iff ho).mpr (Or.inl hfile)

theorem Introduction.keepsFiles {w : Workshop} {r : Request} {answer : Except Failure Answer}
    (h : Introduction w t r t' answer) : KeepsFiles w t r t' answer := by
  cases h with
  | refused hd =>
    obtain ⟨message, name, rfl⟩ := draft_eq_error hd
    exact .of_unchanged (fun _ => rfl) (by simp)
  | unreadable hd ho => exact .of_unchanged (fun _ => rfl) (by simp)
  | headless hd ho hc => exact .of_unchanged (fun _ => rfl) (by simp)
  | present hd ho hc hp => exact .of_unchanged (fun _ => rfl) (by simp)
  | trial hd ho hc hp hdry =>
    refine .of_done hd ho hc (fun _ _ => rfl) (fun _ _ => rfl) fun hwrite => ?_
    simp [hdry] at hwrite
  | failed hd ho hc hp hdry hput =>
    obtain ⟨-, -, hgrown⟩ | ⟨hnone, -⟩ := put_cases hput
    · exact .of_unchanged hgrown.fileAt? (by simp)
    · simp at hnone
  | @written d old scaffold t' hd ho hc hp hdry hput =>
    obtain ⟨failure, hsome, -⟩ | ⟨-, hwritable, u, hgrown, hlocate, -, rfl⟩ := put_cases hput
    · simp at hsome
    · refine .of_done hd ho hc (fun place hplace => ?_) (fun htrial => ?_) fun _ => ?_
      · rw [Tree.fileAt?_setFile, if_neg hplace, hgrown.fileAt?]
      · simp [hdry] at htrial
      · exact ⟨hwritable, (Tree.locate_eq_ok.mp hlocate).1, fileAt?_of_put hput⟩

/-! ## A text that is not seen -/

/-- Nothing is present in a text that defines nothing, as long as no index is asked. -/
theorem isPresent_of_none {w : Workshop} {text : String} (h : w.index text = none)
    (htext : topLevelNames text = []) (scaffold : String) : w.isPresent scaffold text = false := by
  unfold Workshop.isPresent
  rw [htext, h]
  cases topLevelNames scaffold with
  | nil => rfl
  | cons name names => simp [indexHas]

/-- Where no text is seen, the scaffold alone is written, whatever is there. -/
theorem exists_created {w : Workshop} {r : Request} {d : Draft} (hw : w.Plain)
    (hindex : w.index "" = none) (hd : w.draft r = .ok d) (ho : existing t r.target = .ok none)
    (hwrite : r.dryRun = false) (hput : ∀ text, ∃ t', put t r.target text = (t', none)) :
    ∃ t' e text, w.introduce t r = (t', .ok (.done e)) ∧ e.created = true ∧
      t'.fileAt? r.target.destination = some (.text text) ∧ text.toList.head? = some '"' := by
  have hempty : topLevelNames "" = [] := by decide +kernel
  obtain ⟨heading, hheading, body, hchars, -⟩ := hw.heading hd (Size.ofText d.code)
  have hcompose : w.compose d "" = .ok (heading ++ "\n\n" ++ d.code) :=
    compose_eq_ok.mpr ⟨heading, hheading, rfl⟩
  obtain ⟨t', hput⟩ := hput (merged none (heading ++ "\n\n" ++ d.code))
  refine ⟨t', _, merged none (heading ++ "\n\n" ++ d.code),
    introduce_eq_written hd ho hcompose (isPresent_of_none hindex hempty _) hwrite hput, rfl,
    fileAt?_of_put hput, ?_⟩
  rw [merged, String.toList_append, String.toList_append, hchars]
  rfl

/-- A file with a text and no folders beside it. -/
def hiddenTree : Tree := ⟨[], [(["t.py"], .text "x = 1\n")]⟩

/-- A request for the file that goes through a folder which is not there. -/
def roundabout : Request := ⟨some "singleton", "a/../t.py", false, none⟩

theorem target_roundabout : roundabout.target = ⟨false, ["a", "..", "t.py"]⟩ := by
  decide

theorem existing_hidden : existing hiddenTree ⟨false, ["a", "..", "t.py"]⟩ = .ok none := by
  rw [existing_eq_none]
  exact Or.inr (Or.inl ⟨.missing, by decide, by decide⟩)

theorem put_hidden (text : String) : put hiddenTree ⟨false, ["a", "..", "t.py"]⟩ text =
    (⟨[["a"]], [(["t.py"], .text text)]⟩, none) := by
  rfl

theorem select_singleton : Workshop.stocked.select "singleton" =
    some (.pattern, "singleton", Creational.singleton) := by
  have hfind : Table.find? "singleton" Workshop.stocked.patterns = some Creational.singleton := by
    simp [Workshop.stocked, Workshop.equipped, patternGenerators, Table.find?_cons]
  have hcanonical : Naming.canonical "singleton" = "singleton" := by decide
  unfold Workshop.select
  simp only [hcanonical, hfind]

theorem exists_draft_of_singleton {r : Request} (h : r.name = some "singleton") :
    ∃ d, Workshop.stocked.draft r = .ok d := by
  have hselect : Workshop.stocked.select (r.name.getD "") =
      some (.pattern, "singleton", Creational.singleton) := by
    rw [h]
    exact select_singleton
  obtain ⟨d, hd, -⟩ := stocked_plain.exists_draft hselect
  exact ⟨d, hd⟩

theorem exists_draft_singleton : ∃ d, Workshop.stocked.draft roundabout = .ok d :=
  exists_draft_of_singleton rfl

/-! ## Every introduction -/

/-- Whatever the tree, the request and what comes of it, an introduction changes no file but its
target, changes that only if it says so, and keeps the text that it saw there. -/
theorem introduce_keepsFiles (w : Workshop) (t : Tree) (r : Request) :
    KeepsFiles w t r (w.introduce t r).1 (w.introduce t r).2 :=
  (introduce_introduction w t r).keepsFiles

/-- The text of a file that is not seen is not kept: the scaffold alone is there afterwards, and
the file is said to be new. -/
theorem introduce_replaces_hidden_text :
    hiddenTree.fileAt? roundabout.target.destination = some (.text "x = 1\n") ∧
      ∃ t' e text, Workshop.stocked.introduce hiddenTree roundabout = (t', .ok (.done e)) ∧
        e.created = true ∧ t'.fileAt? roundabout.target.destination = some (.text text) ∧
        ¬ "x = 1".toList <+: text.toList := by
  have hput : ∀ text, ∃ t', put hiddenTree roundabout.target text = (t', none) := by
    intro text
    rw [target_roundabout]
    exact ⟨_, put_hidden text⟩
  obtain ⟨d, hd⟩ := exists_draft_singleton
  obtain ⟨t', e, text, hdone, hcreated, htext, hhead⟩ := exists_created stocked_plain rfl hd
    (target_roundabout ▸ existing_hidden) rfl hput
  refine ⟨by rw [target_roundabout]; rfl, t', e, text, hdone, hcreated, htext, ?_⟩
  rintro ⟨rest, hrest⟩
  rw [← hrest] at hhead
  exact absurd hhead (by simp)

end DesignLens.Scaffold
