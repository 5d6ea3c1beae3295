import DesignLens.Proofs.SurveyParts

/-!
# Architectures among the findings

The survey of architectures reports the same failures as the survey of patterns, and of the findings
it keeps those that name an architecture or one of its building blocks. What it keeps stays in order
and changes in nothing but the name, which is taken from the pattern where there is none.
-/

namespace DesignLens.Analysis

open Workspace Source

/-- The name of a record, or for want of it the pattern it stands for. -/
def properName (record : Json) : Json :=
  (record.fieldD "name" .null).orElse (record.fieldD "pattern" .null)

/-- Whether a record names an architecture or one of its building blocks. -/
def isArchitectural (record : Json) : Bool :=
  namesArchitecture ((properName record).orElse (.str "")).shown

/-- How the survey of architectures shows a record that it keeps. -/
structure Renamed (record kept : Json) : Prop where
  others : ∀ name, name ≠ "name" → name ≠ "pattern" → kept.field? name = record.field? name
  /-- The name is filled in from the pattern. -/
  name : kept.field? "name" = some (properName record)
  /-- The pattern of the record was filled in from the name. -/
  pattern : record.field? "pattern" = (kept.field? "pattern").or (kept.field? "name")

/-- A record of the survey of patterns, and whether it tells of a failure to examine a sample. -/
structure Reported where
  record : Json
  isFailure : Bool

namespace Reported

def isKept (r : Reported) : Bool := r.isFailure || isArchitectural r.record

theorem isKept_finding (record : Json) : isKept ⟨record, false⟩ = isArchitectural record :=
  Bool.false_or _

/-- The record of a failure is kept as it is. -/
def KeptAs (r : Reported) (kept : Json) : Prop :=
  if r.isFailure then kept = r.record else Renamed r.record kept

end Reported

/-- What the survey of patterns reports of a sample. -/
inductive Reports (registry : Registry) (sample : Sample) : List Reported → Prop
  | failed {failure : Failure} (h : (sample.text >>= probe registry) = .error failure) :
    Reports registry sample [⟨errorRecord sample.label failure.message, true⟩]
  | probed {findings : List Json} {part : List Reported}
    (h : (sample.text >>= probe registry) = .ok findings)
    (hlabelled : List.Forall₂ (Labelled sample.label) findings (part.map Reported.record))
    (hpart : ∀ r ∈ part, r.isFailure = false) : Reports registry sample part

/-! ## One finding -/

theorem orElse_of_truthy {v : Json} (h : v.truthy = true) (other : Json) : v.orElse other = v :=
  if_pos h

theorem orElse_of_not_truthy {v : Json} (h : v.truthy = false) (other : Json) :
    v.orElse other = other :=
  if_neg (by simp [h])

theorem orElse_self (v : Json) : v.orElse v = v := by
  unfold Json.orElse
  split_ifs <;> rfl

section
variable (label : String) (fields : Table Json)

/-- The name under which a finding is looked at, before its record is made. -/
def ownName : Json :=
  ((Table.find? "name" fields).getD .null).orElse ((Table.find? "pattern" fields).getD .null)

def patternRecord : Json := .obj (Table.insert "source" (.str label) (withPattern fields))

def architectureRecord : Json :=
  .obj (Table.insert "source" (.str label) (Table.insert "name" (ownName fields) fields))

theorem architectureFinding_obj :
    architectureFinding label (.obj fields) =
      .ok (if namesArchitecture ((ownName fields).orElse (.str "")).shown then
        [architectureRecord label fields] else []) := by
  have hname : nameOrPattern (.obj fields) = .ok (ownName fields) := rfl
  unfold architectureFinding
  rw [hname]
  simp only [bind, Except.bind]
  split_ifs <;> rfl

theorem name_patternRecord :
    (patternRecord label fields).field? "name" = Table.find? "name" fields := by
  have hsource : "name" ≠ "source" := by decide
  have hpattern : "name" ≠ "pattern" := by decide
  rw [patternRecord, Json.field?, Table.find?_insert_of_ne hsource, find?_withPattern,
    if_neg hpattern]

theorem pattern_patternRecord :
    (patternRecord label fields).field? "pattern" =
      (Table.find? "pattern" fields).or (Table.find? "name" fields) :=
  (labelled_record label fields).pattern

/-- The name of a record is the one that the finding is looked at with, unless there is none. -/
theorem properName_patternRecord :
    properName (patternRecord label fields) = ownName fields ∨
      (ownName fields).truthy = false ∧
        (properName (patternRecord label fields)).truthy = false := by
  unfold properName ownName Json.fieldD
  rw [name_patternRecord, pattern_patternRecord]
  cases Table.find? "pattern" fields with
  | some pattern => exact Or.inl rfl
  | none =>
    rw [Option.none_or, Option.getD_none, orElse_self]
    generalize (Table.find? "name" fields).getD .null = name
    cases hname : name.truthy with
    | true => exact Or.inl (orElse_of_truthy hname .null).symm
    | false => exact Or.inr ⟨by rw [orElse_of_not_truthy hname]; rfl, rfl⟩

theorem isArchitectural_patternRecord :
    isArchitectural (patternRecord label fields) =
      namesArchitecture ((ownName fields).orElse (.str "")).shown := by
  unfold isArchitectural
  rcases properName_patternRecord label fields with hsame | ⟨hown, hproper⟩
  · rw [hsame]
  · rw [orElse_of_not_truthy hown, orElse_of_not_truthy hproper]

/-- What has no name is no architecture. -/
theorem truthy_of_namesArchitecture {v : Json}
    (h : namesArchitecture (v.orElse (.str "")).shown = true) : v.truthy = true := by
  cases hv : v.truthy with
  | true => rfl
  | false =>
    rw [orElse_of_not_truthy hv] at h
    exact absurd h (by decide)

/-- The two records of a finding about an architecture differ in the name and the pattern only. -/
theorem renamed_records
    (h : namesArchitecture ((ownName fields).orElse (.str "")).shown = true) :
    Renamed (patternRecord label fields) (architectureRecord label fields) where
  others := by
    intro name hname hpattern
    by_cases hsource : name = "source"
    · rw [hsource, architectureRecord, patternRecord, Json.field?, Json.field?,
        Table.find?_insert_self, Table.find?_insert_self]
    · rw [architectureRecord, Json.field?, Table.find?_insert_of_ne hsource,
        Table.find?_insert_of_ne hname]
      exact ((labelled_record label fields).others name hsource hpattern).symm
  name := by
    have hne : "name" ≠ "source" := by decide
    have htruthy := truthy_of_namesArchitecture h
    rcases properName_patternRecord label fields with hsame | ⟨hown, -⟩
    · rw [architectureRecord, Json.field?, Table.find?_insert_of_ne hne, Table.find?_insert_self,
        hsame]
    · exact absurd (htruthy.symm.trans hown) (by decide)
  pattern := by
    have hsource : "pattern" ≠ "source" := by decide
    have hname : "pattern" ≠ "name" := by decide
    have hne : "name" ≠ "source" := by decide
    have hkept : (architectureRecord label fields).field? "pattern" =
        Table.find? "pattern" fields := by
      rw [architectureRecord, Json.field?, Table.find?_insert_of_ne hsource,
        Table.find?_insert_of_ne hname]
    have hfilled : (architectureRecord label fields).field? "name" = some (ownName fields) := by
      rw [architectureRecord, Json.field?, Table.find?_insert_of_ne hne, Table.find?_insert_self]
    have htruthy := truthy_of_namesArchitecture h
    rw [pattern_patternRecord, hkept, hfilled]
    cases hpattern : Table.find? "pattern" fields with
    | some pattern => rfl
    | none =>
      -- Without a pattern the name is what the finding is looked at with, and it is not empty.
      have hown : ownName fields = ((Table.find? "name" fields).getD .null).orElse .null := by
        rw [ownName, hpattern, Option.getD_none]
      rw [hown] at htruthy ⊢
      generalize Table.find? "name" fields = own at htruthy ⊢
      cases own with
      | none => exact absurd htruthy (by decide)
      | some own =>
        rw [Option.getD_some] at htruthy ⊢
        cases hthere : own.truthy with
        | true => rw [orElse_of_truthy hthere]
        | false =>
          rw [orElse_of_not_truthy hthere] at htruthy
          exact absurd htruthy (by decide)

end

/-! ## The findings in a sample -/

theorem exists_kept (label : String) {findings : List Json}
    (h : ∀ finding ∈ findings, ∃ fields, finding = .obj fields) :
    ∃ (part : List Reported) (found : List Json),
      (findings.mapM (presentPattern label)).map List.flatten = .ok (part.map Reported.record) ∧
      (findings.mapM (architectureFinding label)).map List.flatten = .ok found ∧
      List.Forall₂ (Labelled label) findings (part.map Reported.record) ∧
      (∀ r ∈ part, r.isFailure = false) ∧
      List.Forall₂ Reported.KeptAs (part.filter Reported.isKept) found := by
  induction findings with
  | nil => exact ⟨[], [], rfl, rfl, .nil, fun r hr => absurd hr List.not_mem_nil, .nil⟩
  | cons finding findings ih =>
    obtain ⟨⟨fields, rfl⟩, hrest⟩ := List.forall_mem_cons.mp h
    obtain ⟨part, found, hpart, hfound, hlabelled, hfindings, hkept⟩ := ih hrest
    obtain ⟨parts, hparts, hpart⟩ := map_eq_ok.mp hpart
    obtain ⟨founds, hfounds, rfl⟩ := map_eq_ok.mp hfound
    have hpresent : presentPattern label (.obj fields) = .ok [patternRecord label fields] := rfl
    have hchosen : Reported.isKept ⟨patternRecord label fields, false⟩ =
        namesArchitecture ((ownName fields).orElse (.str "")).shown := by
      rw [Reported.isKept_finding, isArchitectural_patternRecord]
    refine ⟨⟨patternRecord label fields, false⟩ :: part,
      (if Reported.isKept ⟨patternRecord label fields, false⟩ then
        [architectureRecord label fields] else []) ++ founds.flatten, ?_, ?_, ?_, ?_, ?_⟩
    · rw [List.mapM_cons, hpresent, hparts, List.map_cons, ← hpart]
      rfl
    · rw [List.mapM_cons, architectureFinding_obj, hfounds, hchosen]
      simp only [bind, Except.bind, pure, Except.pure, Except.map, List.flatten_cons]
    · exact .cons (labelled_record label fields) hlabelled
    · exact List.forall_mem_cons.mpr ⟨rfl, hfindings⟩
    · rw [List.filter_cons]
      split_ifs with hkeep
      · exact .cons (renamed_records label fields (hchosen ▸ hkeep)) hkept
      · exact hkept

/-- Both surveys report the same failure of a sample, or the second keeps some of the findings. -/
theorem surveySample_reports {registry : Registry} (hregistry : registry.IsProper) {sample : Sample}
    (hsample : sample.IsSettled) :
    ∃ (part : List Reported) (found : List Json),
      surveySample registry presentPattern sample = .ok (part.map Reported.record) ∧
      surveySample registry architectureFinding sample = .ok found ∧
      Reports registry sample part ∧
      List.Forall₂ Reported.KeptAs (part.filter Reported.isKept) found := by
  obtain ⟨label, text⟩ := sample
  rcases outcome_cases hregistry hsample with
    ⟨findings, houtcome, hobjects⟩ | ⟨failure, houtcome, hhandled⟩
  · obtain ⟨part, found, hpart, hfound, hlabelled, hfindings, hkept⟩ := exists_kept label hobjects
    refine ⟨part, found, ?_, ?_, .probed houtcome hlabelled hfindings, hkept⟩
    · exact (surveySample_of_ok houtcome presentPattern label).trans hpart
    · exact (surveySample_of_ok houtcome architectureFinding label).trans hfound
  · refine ⟨[⟨errorRecord label failure.message, true⟩], [errorRecord label failure.message],
      ?_, ?_, .failed houtcome, .cons rfl .nil⟩
    · exact surveySample_of_error houtcome hhandled presentPattern label
    · exact surveySample_of_error houtcome hhandled architectureFinding label

/-- What a whole list of samples reports. -/
theorem exists_reports {registry : Registry} (hregistry : registry.IsProper) {samples : List Sample}
    (hsamples : ∀ sample ∈ samples, sample.IsSettled) :
    ∃ (parts : List (List Reported)) (founds : List (List Json)),
      samples.mapM (surveySample registry presentPattern) =
        .ok (parts.map (List.map Reported.record)) ∧
      samples.mapM (surveySample registry architectureFinding) = .ok founds ∧
      List.Forall₂ (Reports registry) samples parts ∧
      List.Forall₂ Reported.KeptAs (parts.flatten.filter Reported.isKept) founds.flatten := by
  induction samples with
  | nil => exact ⟨[], [], rfl, rfl, .nil, .nil⟩
  | cons sample samples ih =>
    obtain ⟨hsample, hrest⟩ := List.forall_mem_cons.mp hsamples
    obtain ⟨parts, founds, hparts, hfounds, hreports, hkept⟩ := ih hrest
    obtain ⟨part, found, hpart, hfound, hreport, hkeep⟩ := surveySample_reports hregistry hsample
    refine ⟨part :: parts, found :: founds, ?_, ?_, .cons hreport hreports, ?_⟩
    · rw [List.mapM_cons, hpart, hparts]
      rfl
    · rw [List.mapM_cons, hfound, hfounds]
      rfl
    · rw [List.flatten_cons, List.filter_append, List.flatten_cons]
      exact List.rel_append hkeep hkept

/-- The survey of architectures keeps the failures and the findings about architectures of the
survey of patterns, in order. Both surveys refuse an empty subject. -/
theorem architectures_select (registry : Registry) (hregistry : registry.IsProper) (t : Tree)
    (s : Subject) :
    (s.isEmpty = true → architectures registry t s = patterns registry t s) ∧
    (s.isEmpty = false → ∃ (parts : List (List Reported)) (found : List Json),
      List.Forall₂ (Reports registry) (s.samples t) parts ∧
      patterns registry t s = .ok (.ok (parts.flatten.map Reported.record)) ∧
      architectures registry t s = .ok (.ok found) ∧
      List.Forall₂ Reported.KeptAs (parts.flatten.filter Reported.isKept) found) := by
  constructor
  · intro hempty
    rw [architectures, patterns, survey, survey, if_pos hempty, if_pos hempty]
  · intro hempty
    obtain ⟨parts, founds, hparts, hfounds, hreports, hkept⟩ :=
      exists_reports hregistry fun sample (hsample : sample ∈ s.samples t) =>
        isSettled_of_mem_samples hsample
    refine ⟨parts, founds.flatten, hreports, ?_, ?_, hkept⟩
    · have hpatterns : patterns registry t s = survey registry presentPattern t s := rfl
      rw [hpatterns, survey, hempty, hparts, List.map_flatten]
      rfl
    · rw [architectures, survey, hempty, hfounds]
      rfl

theorem architectures_select_mixed :
    mixedProbes.IsProper ∧ partlyThere.isEmpty = false ∧
      ∃ (parts : List (List Reported)) (found : List Json),
        List.Forall₂ (Reports mixedProbes) (partlyThere.samples .empty) parts ∧
        patterns mixedProbes .empty partlyThere =
          .ok (.ok (parts.flatten.map Reported.record)) ∧
        architectures mixedProbes .empty partlyThere = .ok (.ok found) ∧
        List.Forall₂ Reported.KeptAs (parts.flatten.filter Reported.isKept) found := by
  have hthere : partlyThere.isEmpty = false := by decide
  have h := architectures_select mixedProbes mixedProbes_isProper .empty partlyThere
  exact ⟨mixedProbes_isProper, hthere, h.2 hthere⟩

end DesignLens.Analysis
