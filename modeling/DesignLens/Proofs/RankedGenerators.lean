import DesignLens.Proofs.EnforcementEffects
import DesignLens.Proofs.ShippedAdvice
import Mathlib.Data.List.Basic

/-!
# Ranked targets without a generator

The names that a ranking speaks for are those of the advice, and the names that scaffolds are
generated for are canonical ones. The table of spellings leads from the former to the latter, but
not from all of them: seven names that every indicator speaks for lead to no generator. Enforcing
one of them does nothing but report an unknown name for each file.
-/

namespace DesignLens.Naming

/-! ## Canonical names letter by letter -/

def normalChars (cs : List Char) : List Char := Text.lowerChars [] (Text.trimChars cs)

/-- The canonical name by spellings and the names that they lead to. -/
def canonicalChars (spellings known : List (List Char)) (cs : List Char) : List Char :=
  ((spellings.zip known).lookup (normalChars cs)).getD (normalChars cs)

theorem toList_normal (name : String) : (normal name).toList = normalChars name.toList := by
  rw [normal, Text.lower, Text.trim, String.toList_ofList, String.toList_ofList]
  rfl

theorem map_toList_find? (name : String) (t : Table String) :
    (Table.find? name t).map String.toList =
      (((Table.keys t).map String.toList).zip ((Table.values t).map String.toList)).lookup
        name.toList := by
  induction t with
  | nil => rfl
  | cons entry rest ih =>
    rw [Table.find?_cons]
    by_cases h : entry.1 = name
    · simp [Table.keys, Table.values, h]
    · have hchars : name.toList ≠ entry.1.toList := fun heq => h (String.toList_inj.mp heq).symm
      rw [if_neg h, ih]
      simp [Table.keys, Table.values, List.lookup_cons, beq_eq_false_iff_ne.mpr hchars]

theorem toList_canonical {spellings known : List (List Char)}
    (hspellings : (Table.keys aliases).map String.toList = spellings)
    (hknown : (Table.values aliases).map String.toList = known) (name : String) :
    (canonical name).toList = canonicalChars spellings known name.toList := by
  unfold canonical resolve canonicalChars
  rw [← hspellings, ← hknown, ← toList_normal, ← map_toList_find?]
  cases Table.find? (normal name) aliases <;> rfl

end DesignLens.Naming

namespace DesignLens.Scaffold

open Naming Ranking

/-! ## Names without a generator -/

/-- The names of rankings whose canonical names have no generator. -/
def ungenerated : List String :=
  ["Delegation Pattern", "Dependency Injection", "Front Controller", "Hierarchical State Machine",
    "Hierarchical State Machine (HSM)", "Iterator (Alt)", "Template"]

theorem generated_of_spelt {names without generated : List String}
    {css uss gss spellings known : List (List Char)} (hnames : Spelt names css)
    (hwithout : Spelt without uss) (hgenerated : Spelt generated gss)
    (hspellings : Spelt (Table.keys aliases) spellings)
    (hknown : Spelt (Table.values aliases) known)
    (h : (css.all fun cs =>
      (!gss.contains (canonicalChars spellings known (canonicalChars spellings known cs))) ==
        uss.contains cs) = true) :
    ∀ name ∈ names, canonical (canonical name) ∉ generated ↔ name ∈ without := by
  intro name hname
  have hcheck := hnames.forall_toList h name hname
  have hchars := toList_canonical hspellings.map_toList hknown.map_toList
  rw [hgenerated.mem_iff, hwithout.mem_iff, hchars, hchars]
  rw [beq_iff_eq, Bool.eq_iff_iff] at hcheck
  simpa using hcheck

theorem rankableNames_generated : ∀ name ∈ rankableNames,
    canonical (canonical name) ∉ Table.keys patternGenerators ++ Table.keys architectureGenerators ↔
      name ∈ ungenerated :=
  generated_of_spelt (by repeat constructor) (by repeat constructor) (by repeat constructor)
    (by repeat constructor) (by repeat constructor) (by decide +kernel)

theorem ungenerated_advised : ungenerated ⊆ Advice.advisedNames :=
  Spelt.subset (by repeat constructor) (by repeat constructor) (by decide)

theorem select_eq_none_iff {w : Workshop} {name : String} :
    w.select name = none ↔
      canonical name ∉ Table.keys w.patterns ++ Table.keys w.architectures := by
  unfold Workshop.select
  dsimp only
  rw [List.mem_append, not_or, ← Table.find?_eq_none_iff, ← Table.find?_eq_none_iff]
  cases Table.find? (canonical name) w.patterns <;> simp

/-- The answer to a request for a name that has no generator. -/
def unknownName (name : Option String) : Answer :=
  .refused s!"Unknown name: {shownName name}" name

theorem draft_ne_unknownName {w : Workshop} {r : Request}
    (h : w.select (r.name.getD "") ≠ none) : w.draft r ≠ .error (unknownName r.name) := by
  obtain ⟨⟨category, name, generator⟩, hselect⟩ := Option.ne_none_iff_exists'.mp h
  unfold Workshop.draft unknownName
  rw [hselect]
  dsimp only
  split
  · intro heq
    have hmessage := congrArg String.toList (Answer.refused.inj (Except.error.inj heq)).1
    simp [String.toList_append, toString] at hmessage
  · split
    · intro heq
      have hmessage := congrArg String.toList (Answer.refused.inj (Except.error.inj heq)).1
      simp [String.toList_append, toString] at hmessage
    · exact nofun

/-- A name is reported as unknown if it has no generator, and only then. -/
theorem introduce_eq_unknownName_iff {w : Workshop} {t : Workspace.Tree} {r : Request} :
    (w.introduce t r).2 = .ok (unknownName r.name) ↔ w.select (r.name.getD "") = none := by
  constructor
  · intro h
    by_contra hselect
    have hintroduction := introduce_introduction w t r
    rw [h] at hintroduction
    generalize (w.introduce t r).1 = t' at hintroduction
    cases hintroduction with
    | refused hdraft => exact draft_ne_unknownName hselect hdraft
  · intro h
    unfold Workshop.introduce Workshop.draft
    rw [h]
    rfl

end DesignLens.Scaffold

namespace DesignLens.Enforcement

open Workspace Scaffold Ranking Advice

/-! ## Enforcing such names -/

theorem Course.introduce_eq {w : Workshop} {t : Tree} {steps : List Treatment}
    (h : Course w t steps) {s : Treatment} (hs : s ∈ steps) :
    (w.introduce s.before s.request).2 = s.answer := by
  induction h with
  | nil => exact absurd hs List.not_mem_nil
  | cons hstep _ ih =>
    rcases List.mem_cons.mp hs with rfl | hs
    · rw [hstep]
    · exact ih hs

/-- A change is what introducing the canonical name into a file came to. -/
theorem introduce_of_change {s : Setting} {t : Tree} {r : Request} {report : Report}
    (h : (enforce s t r).2 = .ok report) {c : Change} (hc : c ∈ report.changes) :
    ∃ u, (s.workshop.introduce u (introductionFor (Naming.canonical r.name) r c.file)).2 =
      .ok c.answer := by
  obtain ⟨step, hstep, hchange⟩ := exists_of_mem_mapM (changes_of_enforce h) hc
  obtain ⟨answer, hanswer, rfl⟩ := map_eq_ok.mp hchange
  have hintroduce := (course_steps s t r).introduce_eq hstep
  rw [(mem_steps hstep).2, hanswer] at hintroduce
  exact ⟨step.before, hintroduce⟩

theorem unknownName_of_change {s : Setting} {t : Tree} {r : Request} {report : Report}
    (h : (enforce s t r).2 = .ok report) {c : Change} (hc : c ∈ report.changes) :
    c.answer = unknownName (some (Naming.canonical r.name)) ↔
      s.workshop.select (Naming.canonical r.name) = none := by
  obtain ⟨u, hintroduce⟩ := introduce_of_change h hc
  have hname : (introductionFor (Naming.canonical r.name) r c.file).name =
      some (Naming.canonical r.name) := rfl
  have hunknown := introduce_eq_unknownName_iff (w := s.workshop) (t := u)
    (r := introductionFor (Naming.canonical r.name) r c.file)
  rwa [hintroduce, hname, Except.ok.injEq, Option.getD_some] at hunknown

theorem exists_enforce_of_applied {s : Setting} {r : RankedRequest} {t : Tree}
    {targets : List Target} {applied : List Applied}
    (h : (applyTargets s r t targets).2 = .ok applied) {a : Applied} (ha : a ∈ applied) :
    a.target ∈ targets ∧ ∃ u, (enforce s u (targetRequest r a.target)).2 = .ok a.report := by
  induction targets generalizing t applied with
  | nil =>
    cases h
    exact absurd ha List.not_mem_nil
  | cons target rest ih =>
    rw [applyTargets] at h
    cases henforce : enforce s t ⟨target.name, r.paths, r.scope, r.dryRun, r.outFolder, none⟩ with
    | mk u outcome =>
      rw [henforce] at h
      cases outcome with
      | error failure => cases h
      | ok report =>
        obtain ⟨later, hlater, rfl⟩ := map_eq_ok.mp h
        rcases List.mem_cons.mp ha with rfl | ha
        · exact ⟨List.mem_cons_self, t, congrArg Prod.snd henforce⟩
        · obtain ⟨hmem, henforced⟩ := ih hlater ha
          exact ⟨List.mem_cons_of_mem target hmem, henforced⟩

/-- What a ranked enforcement applies are targets of a ranking by the advice of the setting. -/
theorem exists_rank_of_applied {s : Setting} {t : Tree} {r : RankedRequest}
    {applied : List Applied} (h : (enforceRanked s t r).2 = .ok (some applied)) {a : Applied}
    (ha : a ∈ applied) :
    (∃ kinds words, a.target ∈ rank s.advice Naming.aliases kinds words) ∧
      ∃ u, (enforce s u (targetRequest r a.target)).2 = .ok a.report := by
  unfold enforceRanked at h
  split_ifs at h
  · exact nomatch h
  · cases htargets : rankedTargets s t r.paths with
    | error failure =>
      rw [htargets] at h
      exact nomatch h
    | ok targets =>
      rw [htargets] at h
      obtain ⟨applied', happlied, heq⟩ := map_eq_ok.mp h
      obtain rfl := Option.some.inj heq
      obtain ⟨hmem, henforced⟩ := exists_enforce_of_applied happlied ha
      refine ⟨?_, henforced⟩
      obtain ⟨files, -, hrest⟩ := bind_eq_ok.mp htargets
      obtain ⟨results, -, hranked⟩ := bind_eq_ok.mp hrest
      obtain rfl := pure_eq_ok.mp hranked
      exact ⟨_, _, List.mem_of_mem_take hmem⟩

/-- With the advice, the spellings and the generators of this library, the targets of a ranking that
lead to no generator are seven names. All of them are ranked as soon as one indicator of a known
kind is there, and enforcing a target reports nothing but an unknown name for each file if it is one
of them, and never if it is not. -/
theorem ranked_without_generator_iff {s : Setting} (hadvice : s.advice = .shipped)
    (hpatterns : s.workshop.patterns = patternGenerators)
    (harchitectures : s.workshop.architectures = architectureGenerators) :
    (∀ kinds words, ∀ t ∈ rank s.advice Naming.aliases kinds words,
      s.workshop.select (Naming.canonical t.name) = none ↔ t.name ∈ ungenerated) ∧
    (∀ kinds words, (∃ kind ∈ kinds, kind ∈ Table.keys favourites) → ∀ name ∈ ungenerated,
      ∃ t ∈ rank s.advice Naming.aliases kinds words, t.name = name) ∧
    ∀ t r applied, (enforceRanked s t r).2 = .ok (some applied) → ∀ a ∈ applied,
      ∀ c ∈ a.report.changes,
        c.answer = unknownName (some (Naming.canonical a.target.name)) ↔
          a.target.name ∈ ungenerated := by
  have hnamed : s.advice.Named := hadvice ▸ Maps.shipped_named
  have hcomplete : s.advice.Complete := hadvice ▸ Maps.shipped_complete
  have hselect : ∀ kinds words, ∀ t ∈ rank s.advice Naming.aliases kinds words,
      s.workshop.select (Naming.canonical t.name) = none ↔ t.name ∈ ungenerated := by
    intro kinds words t ht
    rw [select_eq_none_iff, hpatterns, harchitectures]
    exact rankableNames_generated t.name (rankable_of_mem_rank hnamed ht)
  refine ⟨hselect, ?_, ?_⟩
  · rintro kinds words ⟨kind, hkind, hknown⟩ name hname
    exact exists_mem_rank hcomplete hkind hknown (ungenerated_advised hname)
  · intro t r applied happlied a ha c hc
    obtain ⟨⟨kinds, words, hranked⟩, u, henforced⟩ := exists_rank_of_applied happlied ha
    rw [← hselect kinds words a.target hranked]
    exact unknownName_of_change henforced hc

/-- A text with a global variable speaks most for injecting dependencies, which leads to no
generator, though there is one under another spelling. -/
theorem ranked_without_generator_iff_injection :
    (Proposal.shippedSetting plainSetting).advice = .shipped ∧
      (Proposal.shippedSetting plainSetting).workshop.patterns = patternGenerators ∧
      (Proposal.shippedSetting plainSetting).workshop.architectures = architectureGenerators ∧
      ∃ t ∈ rank (Proposal.shippedSetting plainSetting).advice Naming.aliases
          [Scan.IndicatorKind.globalState.word] "",
        t.name = "Dependency Injection" ∧
          (Proposal.shippedSetting plainSetting).workshop.select (Naming.canonical t.name) =
            none := by
  have hadvice := Proposal.shippedSetting_advice plainSetting
  refine ⟨hadvice, rfl, rfl, ?_⟩
  obtain ⟨hselect, hranked, -⟩ := ranked_without_generator_iff hadvice rfl rfl
  obtain ⟨t, ht, hname⟩ := hranked [Scan.IndicatorKind.globalState.word] ""
    ⟨_, List.mem_singleton_self _, by decide⟩ "Dependency Injection" (by decide)
  refine ⟨t, ht, hname, (hselect _ _ t ht).mpr ?_⟩
  rw [hname]
  decide

theorem injection_ranked_without_generator :
    ∃ t ∈ rank .shipped Naming.aliases [Scan.IndicatorKind.globalState.word] "",
      t.name = "Dependency Injection" ∧
        Workshop.stocked.select (Naming.canonical t.name) = none ∧
        Workshop.stocked.select "dependency_injection" ≠ none := by
  have hadvised : "Dependency Injection" ∈ advisedNames := ungenerated_advised (by decide)
  have hranked : ∃ t ∈ rank .shipped Naming.aliases [Scan.IndicatorKind.globalState.word] "",
      t.name = "Dependency Injection" :=
    exists_mem_rank Maps.shipped_complete (List.mem_singleton_self _) (by decide) hadvised
  obtain ⟨t, ht, hname⟩ := hranked
  refine ⟨t, ht, hname, ?_, ?_⟩
  · rw [select_eq_none_iff, hname]
    exact (rankableNames_generated _ (List.mem_append_left _ hadvised)).mpr (by decide)
  · rw [ne_eq, select_eq_none_iff]
    decide

end DesignLens.Enforcement
