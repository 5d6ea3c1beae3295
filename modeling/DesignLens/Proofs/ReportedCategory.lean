import DesignLens.Proofs.EnforcementReports
import DesignLens.Proofs.NameForms

/-!
# The category of an enforcement

A report names the category by looking the canonical name up among the architectures that there is
advice on. These have capitals, whatever the detectors that give the advice, and canonical names
have none. So every report and every change of it says that a pattern was enforced. The generator
that is applied has a category of its own, and for ten names it is the other one.
-/

namespace DesignLens.Advice

theorem architectureNames_capital : ∀ name ∈ architectureNames, hasCapital name = true :=
  Scaffold.Spelt.forall_toList (p := fun cs => cs.any Char.isUpper) (by repeat constructor)
    (by decide)

/-- The architectures that there is advice on have capitals, whatever the detectors are called. -/
theorem architectures_capital (advisers : Table Adviser) :
    ∀ name ∈ Table.keys (Maps.build advisers).architectures, hasCapital name = true := by
  intro name hname
  have hcategory := Maps.build_sorted advisers .architecture hname
  unfold categoryOf at hcategory
  split_ifs at hcategory with hmem
  exact architectureNames_capital name (List.contains_iff_mem.mp hmem)

end DesignLens.Advice

namespace DesignLens.Scaffold

open Workspace Naming
open Advice (Category)

/-! ## The category of what is introduced -/

/-- What an answer says was done, or would be. -/
def Answer.effect? : Answer → Option Effect
  | .refused _ _ => none
  | .present e => some e
  | .done e => some e

/-- An introduction speaks for the category and the name of its draft. -/
theorem effect_of_introduce {w : Workshop} {t : Tree} {r : Request} {answer : Answer}
    (h : (w.introduce t r).2 = .ok answer) :
    (answer.effect?.map fun e => (e.category, e.name)) =
      (w.draft r).toOption.map fun d => (d.category, d.name) := by
  have hintroduction := introduce_introduction w t r
  rw [h] at hintroduction
  generalize (w.introduce t r).1 = t' at hintroduction
  cases hintroduction with
  | refused hdraft =>
    obtain ⟨message, name, rfl⟩ := draft_eq_error hdraft
    rw [hdraft]
    rfl
  | present hdraft => rw [hdraft]; rfl
  | trial hdraft => rw [hdraft]; rfl
  | written hdraft => rw [hdraft]; rfl

theorem select_canonical (w : Workshop) (name : String) :
    w.select (canonical name) = w.select name := by
  unfold Workshop.select
  rw [canonical_canonical]

theorem category_of_select {w : Workshop} {name known : String} {category : Category}
    {g : Generator} (h : w.select name = some (category, known, g)) :
    category = .pattern ↔ known ∈ Table.keys w.patterns := by
  unfold Workshop.select at h
  dsimp only at h
  split at h
  · rename_i found hfound
    simp only [Option.some.injEq, Prod.mk.injEq] at h
    obtain ⟨rfl, rfl, -⟩ := h
    exact iff_of_true rfl (Table.mem_keys_of_find? hfound)
  · rename_i hnone
    obtain ⟨found, -, heq⟩ := Option.map_eq_some_iff.mp h
    simp only [Prod.mk.injEq] at heq
    obtain ⟨rfl, rfl, -⟩ := heq
    exact iff_of_false nofun (Table.find?_eq_none_iff.mp hnone)

/-- The names whose generators are those of architectures. -/
def misreported : List String :=
  ["cqrs", "domain_events", "message_bus", "repository", "service_layer", "unit_of_work", "clean",
    "hexagonal", "layered", "three_tier"]

theorem misreported_iff :
    ∀ name ∈ Table.keys patternGenerators ++ Table.keys architectureGenerators,
      name ∉ Table.keys patternGenerators ↔ name ∈ misreported := by
  decide

end DesignLens.Scaffold

namespace DesignLens.Enforcement

open Workspace Scaffold Advice

/-! ## The category of a report -/

section
variable {s : Setting} {advisers : Table Adviser} (hadvice : s.advice = .build advisers)
  {t : Tree} {r : Request} {report : Report}
include hadvice

theorem categoryFor_canonical (name : String) :
    categoryFor s (Naming.canonical name) = .pattern := by
  unfold categoryFor
  rw [if_neg]
  rw [Table.contains_iff_mem_keys, hadvice]
  exact canonical_not_mem (architectures_capital advisers) name

theorem report_of_enforce (hpaths : r.paths ≠ []) (h : (enforce s t r).2 = .ok report) :
    report = .idle .pattern ∨
      report = .done .pattern (Naming.canonical r.name) r report.changes := by
  unfold enforce at h
  rw [if_neg (by simpa using hpaths)] at h
  dsimp only at h
  rw [categoryFor_canonical hadvice] at h
  split at h
  · exact nomatch h
  · exact Or.inl (Except.ok.inj h).symm
  · obtain ⟨changes, -, rfl⟩ := map_eq_ok.mp h
    exact Or.inr rfl

theorem fields_of_enforce (hpaths : r.paths ≠ []) (h : (enforce s t r).2 = .ok report) :
    report.toJson.field? "category" = some (.str Category.pattern.word) ∧
      report.toJson.field? "changes" =
        some (.arr (report.changes.map (Change.toJson .pattern))) := by
  rcases report_of_enforce hadvice hpaths h with rfl | hdone
  · exact ⟨rfl, rfl⟩
  · rw [hdone]
    exact ⟨rfl, rfl⟩

end

theorem field?_category (category : Category) (c : Change) :
    (c.toJson category).field? "category" = some (.str category.word) :=
  Table.find?_insert_self ..

/-- The introductions of an enforcement select what its name selects. -/
theorem select_introductionFor (w : Workshop) (r : Request) (file : Path) :
    w.select ((introductionFor (Naming.canonical r.name) r file).name.getD "") =
      w.select r.name := by
  rw [getD_name_introductionFor, select_canonical]

section
variable {s : Setting} {t : Tree} {r : Request} {report : Report}
  (h : (enforce s t r).2 = .ok report) {category : Category} {name : String} {g : Generator}
  (hselect : s.workshop.select r.name = some (category, name, g)) {c : Change}
  (hc : c ∈ report.changes)
include h hselect hc

theorem effect_of_change {e : Effect} (he : c.answer.effect? = some e) :
    e.category = category ∧ e.name = name := by
  obtain ⟨u, hintroduce⟩ := introduce_of_change h hc
  have heffect := effect_of_introduce hintroduce
  rw [he] at heffect
  cases hdraft : s.workshop.draft (introductionFor (Naming.canonical r.name) r c.file) with
  | error answer =>
    rw [hdraft] at heffect
    exact nomatch heffect
  | ok d =>
    rw [hdraft] at heffect
    obtain ⟨generator, -, hdrafted, -⟩ := draft_eq_ok hdraft
    rw [select_introductionFor, hselect] at hdrafted
    simp only [Option.map_some, Except.toOption, Option.some.injEq, Prod.mk.injEq]
      at heffect hdrafted
    exact ⟨heffect.1.trans hdrafted.1.symm, heffect.2.trans hdrafted.2.1.symm⟩

theorem exists_effect_of_change (hplain : s.workshop.Plain) :
    ∃ e, c.answer.effect? = some e := by
  obtain ⟨u, hintroduce⟩ := introduce_of_change h hc
  obtain ⟨d, hd, -⟩ := hplain.exists_draft
    ((select_introductionFor s.workshop r c.file).trans hselect)
  have heffect := effect_of_introduce hintroduce
  rw [hd] at heffect
  obtain ⟨e, he, -⟩ := Option.map_eq_some_iff.mp heffect
  exact ⟨e, he⟩

end

/-- A report on paths and all its changes say that a pattern was enforced, whatever the category of
the generator that was applied. With the generators of this library that is wrong for ten names. -/
theorem reported_as_pattern {s : Setting} {advisers : Table Adviser}
    (hadvice : s.advice = .build advisers) {t : Tree} {r : Request} {report : Report}
    (h : (enforce s t r).2 = .ok report) {category : Category} {name : String} {g : Generator}
    (hselect : s.workshop.select r.name = some (category, name, g)) :
    report.toJson.field? "category" =
        (if r.paths = [] then none else some (.str Category.pattern.word)) ∧
      (r.paths ≠ [] → report.toJson.field? "changes" =
        some (.arr (report.changes.map (Change.toJson .pattern)))) ∧
      (∀ c ∈ report.changes,
        (c.toJson .pattern).field? "category" = some (.str Category.pattern.word) ∧
          ∀ e, c.answer.effect? = some e → e.category = category ∧ e.name = name) ∧
      (category = .pattern ↔ name ∈ Table.keys s.workshop.patterns) ∧
      (s.workshop.patterns = patternGenerators → s.workshop.architectures = architectureGenerators →
        (category ≠ .pattern ↔ name ∈ misreported)) := by
  have hcategory := category_of_select hselect
  refine ⟨?_, fun hpaths => (fields_of_enforce hadvice hpaths h).2,
    fun c hc => ⟨field?_category _ c, fun e he => effect_of_change h hselect hc he⟩, hcategory, ?_⟩
  · by_cases hpaths : r.paths = []
    · unfold enforce at h
      rw [if_pos (by simpa using hpaths)] at h
      rw [if_pos hpaths, ← Except.ok.inj h]
      rfl
    · rw [if_neg hpaths]
      exact (fields_of_enforce hadvice hpaths h).1
  · intro hpatterns harchitectures
    rw [ne_eq, hcategory, hpatterns]
    apply misreported_iff
    have hmem := (select_eq_some hselect).2
    rw [hpatterns, harchitectures] at hmem
    rw [Table.keys, Table.keys, ← List.map_append]
    exact List.mem_map_of_mem hmem

/-! ## Architectures that are reported as patterns -/

/-- A trial on the file of the tree with one file. -/
def trialRequest (name : String) : Request := ⟨name, ["a.py"], "all", true, none, none⟩

theorem passTree_proper : passTree.Proper where
  names := by constructor <;> simp [passTree, IsName]
  down := by simp [passTree]
  writable := by simp [passTree]
  apart := by simp [passTree, Tree.isFolderAt]

theorem selectedFiles_trial (s : Setting) (name : String) :
    selectedFiles s passTree (trialRequest name) = .ok (some [passPath]) := rfl

/-- The trial of a name that has a generator is one change with an effect. -/
theorem exists_trial_report {s : Setting} (hs : s.workshop = .stocked) {name known : String}
    {category : Category} {g : Generator}
    (hselect : s.workshop.select name = some (category, known, g)) :
    ∃ report c e, (enforce s passTree (trialRequest name)).2 = .ok report ∧
      report.changes = [c] ∧ c.answer.effect? = some e := by
  have hplain : s.workshop.Plain := hs ▸ stocked_plain
  have hpaths : (trialRequest name).paths ≠ [] := List.cons_ne_nil _ _
  have hfiles := selectedFiles_trial s name
  have hread : ∀ file ∈ [passPath], ∃ text, passTree.read file = .ok text := by
    intro file hfile
    rw [List.mem_singleton.mp hfile]
    exact ⟨_, Tree.read_of_content (t := passTree) (p := passPath) rfl⟩
  obtain ⟨report, hreport⟩ :=
    (exists_report_in_place hplain passTree_proper hpaths rfl hfiles).mpr (Or.inr hread)
  have happlied := hreport
  rw [enforce_of_selected hpaths hfiles] at happlied
  obtain ⟨changes, hchanges, rfl⟩ := map_eq_ok.mp happlied
  obtain ⟨c, rfl, -⟩ := List.map_eq_singleton_iff.mp (files_of_applyTo hchanges)
  obtain ⟨e, he⟩ := exists_effect_of_change hreport hselect (List.mem_singleton_self c) hplain
  exact ⟨_, c, e, hreport, rfl, he⟩

theorem select_layered : Workshop.stocked.select "Layered Architecture" =
    some (.architecture, "layered", Architectural.layered) :=
  select_architecture (by decide) (by decide)
    (by simp [Workshop.stocked, Workshop.equipped, architectureGenerators, Table.find?_cons])

/-- The layered architecture is reported as a pattern under its own name. -/
theorem reported_as_pattern_layered :
    (Proposal.shippedSetting plainSetting).advice = .build advisers ∧
      (Proposal.shippedSetting plainSetting).workshop.select "Layered Architecture" =
        some (.architecture, "layered", Architectural.layered) ∧
      ∃ report, (enforce (Proposal.shippedSetting plainSetting) passTree
          (trialRequest "Layered Architecture")).2 = .ok report ∧
        report.toJson.field? "category" = some (.str "Pattern") ∧ "layered" ∈ misreported := by
  have hadvice := Proposal.shippedSetting_advice plainSetting
  obtain ⟨report, c, e, hreport, -⟩ :=
    exists_trial_report (s := Proposal.shippedSetting plainSetting) rfl select_layered
  obtain ⟨hcategory, -, -, -, hmisreported⟩ :=
    reported_as_pattern hadvice hreport select_layered
  exact ⟨hadvice, select_layered, report, hreport, hcategory, (hmisreported rfl rfl).mp nofun⟩

/-- A trial applies the generator of an architecture, and its report and the change in it name a
pattern. -/
theorem tiers_reported_as_pattern :
    ∃ report c e, (enforce (Proposal.shippedSetting plainSetting) passTree
        (trialRequest "three_tier")).2 = .ok report ∧
      report.changes = [c] ∧ c.answer.effect? = some e ∧ e.category = .architecture ∧
      report.toJson.field? "category" = some (.str "Pattern") ∧
      report.toJson.field? "changes" = some (.arr [c.toJson .pattern]) ∧
      (c.toJson .pattern).field? "category" = some (.str "Pattern") := by
  obtain ⟨report, c, e, hreport, hchanges, he⟩ :=
    exists_trial_report (s := Proposal.shippedSetting plainSetting) rfl select_tier
  have hc : c ∈ report.changes := hchanges ▸ List.mem_singleton_self c
  have hcategory := (effect_of_change hreport select_tier hc he).1
  have hfields := fields_of_enforce (Proposal.shippedSetting_advice plainSetting)
    (List.cons_ne_nil _ _) hreport
  rw [hchanges] at hfields
  exact ⟨report, c, e, hreport, hchanges, he, hcategory, hfields.1, hfields.2,
    field?_category _ c⟩

end DesignLens.Enforcement
