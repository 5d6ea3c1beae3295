import DesignLens.Proofs.PathSurveys

/-!
# The parts of a survey

A survey strings together what its samples contribute, and a sample contributes what can be told
from it alone: one record if it cannot be read, if it is no program or if a probe breaks the
examination off, and otherwise what the probes find. A probe that fails in one of the usual ways
has a remark in the place of its findings, and the other probes do not notice.
-/

namespace DesignLens.Analysis

open Workspace Source

/-! ## Asking the probes -/

/-- A probe that answers with a list of objects, or fails in a way that may be handled. -/
def Probe.IsProper (q : Probe) : Prop :=
  ∀ p : Program, (∃ found : List (Table Json), q p = .ok (.arr (found.map Json.obj))) ∨
    ∃ failure : Failure, q p = .error failure ∧ failure.kind.isHandled = true

def Registry.IsProper (registry : Registry) : Prop :=
  ∀ entry ∈ registry, Probe.IsProper entry.2

/-- What a probe contributes to the findings in a program. -/
inductive Contributes (p : Program) (entry : String × Probe) : List Json → Prop
  | found {findings : List Json} (h : entry.2 p = .ok (.arr findings)) :
    Contributes p entry findings
  | failed {failure : Failure} (h : entry.2 p = .error failure)
    (htolerated : isTolerated failure.kind = true) :
    Contributes p entry [remark entry.1 s!"detector-error: {failure.message}"]

/-- The first failure in the order of the registry that is not tolerated. -/
def BreaksOff (registry : Registry) (p : Program) (failure : Failure) : Prop :=
  ∃ before entry after, registry = before ++ entry :: after ∧
    (∀ earlier ∈ before, ∀ f, earlier.2 p = .error f → isTolerated f.kind = true) ∧
    entry.2 p = .error failure ∧ isTolerated failure.kind = false

theorem findingsOf_arr (items : List Json) : findingsOf (.arr items) = .ok items := by
  cases items <;> rfl

theorem consult_of_found {p : Program} {name : String} {q : Probe} {findings : List Json}
    (h : q p = .ok (.arr findings)) : consult p name q = .ok findings := by
  unfold consult
  have hall : (q p >>= findingsOf) = .ok findings :=
    bind_eq_ok.mpr ⟨.arr findings, h, findingsOf_arr findings⟩
  rw [hall]

theorem consult_of_failed {p : Program} {q : Probe} {failure : Failure}
    (h : q p = .error failure) (name : String) :
    consult p name q =
      if isTolerated failure.kind then .ok [remark name s!"detector-error: {failure.message}"]
      else .error failure := by
  unfold consult
  rw [h]
  rfl

/-- A proper probe contributes objects, or its failure is passed on. -/
theorem consult_cases {p : Program} {entry : String × Probe} (h : Probe.IsProper entry.2) :
    (∃ findings, consult p entry.1 entry.2 = .ok findings ∧ Contributes p entry findings ∧
      ∀ finding ∈ findings, ∃ fields, finding = .obj fields) ∨
    ∃ failure, consult p entry.1 entry.2 = .error failure ∧ entry.2 p = .error failure ∧
      failure.kind.isHandled = true ∧ isTolerated failure.kind = false := by
  rcases h p with ⟨found, hfound⟩ | ⟨failure, hfailure, hhandled⟩
  · refine Or.inl ⟨_, consult_of_found hfound, .found hfound, ?_⟩
    intro finding hfinding
    obtain ⟨fields, -, rfl⟩ := List.mem_map.mp hfinding
    exact ⟨fields, rfl⟩
  · have hconsult := consult_of_failed hfailure entry.1
    cases htolerated : isTolerated failure.kind with
    | true =>
      rw [htolerated] at hconsult
      refine Or.inl ⟨_, hconsult, .failed hfailure htolerated, ?_⟩
      intro finding hfinding
      rw [List.mem_singleton.mp hfinding]
      exact ⟨_, rfl⟩
    | false =>
      rw [htolerated] at hconsult
      exact Or.inr ⟨failure, hconsult, hfailure, hhandled, htolerated⟩

theorem isTolerated_of_consult {p : Program} {name : String} {q : Probe} {findings : List Json}
    (h : consult p name q = .ok findings) {failure : Failure} (hfailure : q p = .error failure) :
    isTolerated failure.kind = true := by
  rw [consult_of_failed hfailure name] at h
  split_ifs at h with htolerated
  exact htolerated

theorem probe_of_fault (registry : Registry) {text : String} {fault : Fault}
    (hparse : Program.parse text = .error fault) :
    probe registry text = .ok [remark "ParseError" fault.message] := by
  unfold probe
  rw [hparse]

/-- Probing a program gives what the probes contribute, in order, or it ends with the first failure
that is not tolerated. -/
theorem probe_cases {registry : Registry} (hregistry : registry.IsProper) {text : String}
    {p : Program} (hparse : Program.parse text = .ok p) :
    (∃ parts, probe registry text = .ok parts.flatten ∧
      List.Forall₂ (Contributes p) registry parts ∧
      ∀ finding ∈ parts.flatten, ∃ fields, finding = .obj fields) ∨
    ∃ failure, probe registry text = .error failure ∧ BreaksOff registry p failure ∧
      failure.kind.isHandled = true := by
  have hprobe : probe registry text =
      (registry.mapM fun entry => consult p entry.1 entry.2).map List.flatten := by
    unfold probe
    rw [hparse]
  rw [hprobe]
  cases hall : registry.mapM fun entry => consult p entry.1 entry.2 with
  | ok parts =>
    refine Or.inl ⟨parts, rfl, ?_, ?_⟩
    · -- A part is what its probe contributes, for the probe did not break the examination off.
      refine List.forall₂_iff_zip.mpr ⟨(mapM_eq_ok.mp hall).length_eq, ?_⟩
      intro entry findings hpair
      have hconsult := (List.forall₂_iff_zip.mp (mapM_eq_ok.mp hall)).2 hpair
      rcases consult_cases (p := p) (hregistry entry (List.of_mem_zip hpair).1) with
        ⟨own, hown, hcontributes, -⟩ | ⟨failure, hfailure, -⟩
      · obtain rfl := Except.ok.inj (hown.symm.trans hconsult)
        exact hcontributes
      · exact absurd (hfailure.symm.trans hconsult) (by simp)
    · intro finding hfinding
      obtain ⟨findings, hfindings, hfinding⟩ := List.mem_flatten.mp hfinding
      obtain ⟨entry, hentry, hconsult⟩ := exists_of_mem_mapM hall hfindings
      rcases consult_cases (p := p) (hregistry entry hentry) with
        ⟨own, hown, -, hobjects⟩ | ⟨failure, hfailure, -⟩
      · obtain rfl := Except.ok.inj (hown.symm.trans hconsult)
        exact hobjects finding hfinding
      · exact absurd (hfailure.symm.trans hconsult) (by simp)
  | error failure =>
    obtain ⟨before, entry, after, hsplit, hbefore, hentry⟩ := mapM_eq_error.mp hall
    have hmem : entry ∈ registry := hsplit ▸ List.mem_append_right before List.mem_cons_self
    rcases consult_cases (p := p) (hregistry entry hmem) with
      ⟨own, hown, -⟩ | ⟨failure', hfailure', hown, hhandled, hnot⟩
    · exact absurd (hown.symm.trans hentry) (by simp)
    · obtain rfl := Except.error.inj (hfailure'.symm.trans hentry)
      refine Or.inr ⟨failure', rfl, ⟨before, entry, after, hsplit, ?_, hown, hnot⟩, hhandled⟩
      intro earlier hearlier f hf
      obtain ⟨findings, hconsult⟩ := hbefore earlier hearlier
      exact isTolerated_of_consult hconsult hf

/-! ## Records -/

/-- A finding as the record of a sample: it has the label of the sample, and its name stands for the
pattern if it tells none. -/
structure Labelled (label : String) (finding record : Json) : Prop where
  source : record.field? "source" = some (.str label)
  pattern : record.field? "pattern" = (finding.field? "pattern").or (finding.field? "name")
  others : ∀ name, name ≠ "source" → name ≠ "pattern" → record.field? name = finding.field? name

/-- The fields of a finding with its name as the pattern if it tells none. -/
def withPattern (fields : Table Json) : Table Json :=
  match Table.find? "pattern" fields, Table.find? "name" fields with
  | none, some name => Table.insert "pattern" name fields
  | _, _ => fields

theorem patternFinding_obj (label : String) (fields : Table Json) :
    patternFinding label (.obj fields) =
      .ok (.obj (Table.insert "source" (.str label) (withPattern fields))) :=
  rfl

theorem find?_withPattern (fields : Table Json) (name : String) :
    Table.find? name (withPattern fields) =
      if name = "pattern" then (Table.find? "pattern" fields).or (Table.find? "name" fields)
      else Table.find? name fields := by
  unfold withPattern
  cases hpattern : Table.find? "pattern" fields with
  | some pattern =>
    by_cases hname : name = "pattern"
    · rw [if_pos hname, hname]
      exact hpattern
    · rw [if_neg hname]
  | none =>
    cases hown : Table.find? "name" fields with
    | none =>
      by_cases hname : name = "pattern"
      · rw [if_pos hname, hname]
        exact hpattern
      · rw [if_neg hname]
    | some own =>
      simp only [Table.find?_insert, eq_comm (a := "pattern")]
      rfl

theorem labelled_record (label : String) (fields : Table Json) :
    Labelled label (.obj fields)
      (.obj (Table.insert "source" (.str label) (withPattern fields))) where
  source := Table.find?_insert_self _ _ _
  pattern := by
    have hne : "pattern" ≠ "source" := by decide
    simp only [Json.field?, Table.find?_insert_of_ne hne, find?_withPattern]
    rfl
  others := by
    intro name hsource hpattern
    simp only [Json.field?, Table.find?_insert_of_ne hsource, find?_withPattern, if_neg hpattern]

/-- Objects are presented one by one. -/
theorem exists_presented (label : String) {findings : List Json}
    (h : ∀ finding ∈ findings, ∃ fields, finding = .obj fields) :
    ∃ records, (findings.mapM (presentPattern label)).map List.flatten = .ok records ∧
      List.Forall₂ (Labelled label) findings records := by
  induction findings with
  | nil => exact ⟨[], rfl, .nil⟩
  | cons finding findings ih =>
    obtain ⟨⟨fields, rfl⟩, hrest⟩ := List.forall_mem_cons.mp h
    obtain ⟨records, hrecords, hlabelled⟩ := ih hrest
    obtain ⟨parts, hparts, rfl⟩ := map_eq_ok.mp hrecords
    refine ⟨_ :: parts.flatten, ?_, .cons (labelled_record label fields) hlabelled⟩
    rw [List.mapM_cons, hparts, presentPattern, patternFinding_obj]
    rfl

/-! ## The part of a sample -/

/-- What a sample contributes to the survey of patterns. -/
inductive Part (registry : Registry) : Sample → List Json → Prop
  | unreadable {label : String} {failure : Failure} :
    Part registry ⟨label, .error failure⟩ [errorRecord label failure.message]
  | malformed {label text : String} {fault : Fault} {record : Json}
    (hparse : Program.parse text = .error fault)
    (hrecord : Labelled label (remark "ParseError" fault.message) record) :
    Part registry ⟨label, .ok text⟩ [record]
  | broken {label text : String} {p : Program} {failure : Failure}
    (hparse : Program.parse text = .ok p) (hbreaks : BreaksOff registry p failure) :
    Part registry ⟨label, .ok text⟩ [errorRecord label failure.message]
  | probed {label text : String} {p : Program} {parts : List (List Json)} {records : List Json}
    (hparse : Program.parse text = .ok p) (hparts : List.Forall₂ (Contributes p) registry parts)
    (hrecords : List.Forall₂ (Labelled label) parts.flatten records) :
    Part registry ⟨label, .ok text⟩ records

section
variable {registry : Registry} {text : Except Failure String}

theorem surveySample_of_error {failure : Failure}
    (h : (text >>= probe registry) = .error failure) (hhandled : failure.kind.isHandled = true)
    (present : String → Json → Except Failure (List Json)) (label : String) :
    surveySample registry present ⟨label, text⟩ = .ok [errorRecord label failure.message] := by
  unfold surveySample
  rw [h]
  exact if_pos hhandled

theorem surveySample_of_ok {findings : List Json} (h : (text >>= probe registry) = .ok findings)
    (present : String → Json → Except Failure (List Json)) (label : String) :
    surveySample registry present ⟨label, text⟩ =
      (findings.mapM (present label)).map List.flatten := by
  unfold surveySample
  rw [h]

end

/-- A sample whose text was read or could not be read for a reason that may be handled. -/
def Sample.IsSettled (sample : Sample) : Prop :=
  ∀ failure, sample.text = .error failure → failure.kind.isHandled = true

/-- Examining a sample gives objects, or it fails in a way that may be handled. -/
theorem outcome_cases {registry : Registry} (hregistry : registry.IsProper) {sample : Sample}
    (hsample : sample.IsSettled) :
    (∃ findings, (sample.text >>= probe registry) = .ok findings ∧
      ∀ finding ∈ findings, ∃ fields, finding = .obj fields) ∨
    ∃ failure, (sample.text >>= probe registry) = .error failure ∧
      failure.kind.isHandled = true := by
  obtain ⟨label, outcome⟩ := sample
  cases outcome with
  | error failure => exact Or.inr ⟨failure, rfl, hsample failure rfl⟩
  | ok text =>
    cases hparse : Program.parse text with
    | error fault =>
      refine Or.inl ⟨_, probe_of_fault registry hparse, fun finding hfinding => ?_⟩
      rw [List.mem_singleton.mp hfinding]
      exact ⟨_, rfl⟩
    | ok p =>
      rcases probe_cases hregistry hparse with
        ⟨parts, hprobe, -, hobjects⟩ | ⟨failure, hprobe, -, hhandled⟩
      · exact Or.inl ⟨_, hprobe, hobjects⟩
      · exact Or.inr ⟨failure, hprobe, hhandled⟩

theorem surveySample_part {registry : Registry} (hregistry : registry.IsProper) {sample : Sample}
    (hsample : sample.IsSettled) :
    ∃ records, surveySample registry presentPattern sample = .ok records ∧
      Part registry sample records := by
  obtain ⟨label, outcome⟩ := sample
  cases outcome with
  | error failure =>
    have hbind : ((.error failure : Except Failure String) >>= probe registry) =
        .error failure := rfl
    have hsurvey := surveySample_of_error hbind (hsample failure rfl) presentPattern label
    exact ⟨_, hsurvey, .unreadable⟩
  | ok text =>
    have hbind : ((.ok text : Except Failure String) >>= probe registry) =
        probe registry text := rfl
    cases hparse : Program.parse text with
    | error fault =>
      have hprobe := probe_of_fault registry hparse
      have hsurvey := surveySample_of_ok (hbind.trans hprobe) presentPattern label
      exact ⟨_, hsurvey, .malformed hparse (labelled_record label _)⟩
    | ok p =>
      rcases probe_cases hregistry hparse with
        ⟨parts, hprobe, hparts, hobjects⟩ | ⟨failure, hprobe, hbreaks, hhandled⟩
      · have hsurvey := surveySample_of_ok (hbind.trans hprobe) presentPattern label
        obtain ⟨records, hrecords, hlabelled⟩ := exists_presented label hobjects
        exact ⟨records, hsurvey.trans hrecords, .probed hparse hparts hlabelled⟩
      · have hsurvey := surveySample_of_error (hbind.trans hprobe) hhandled presentPattern label
        exact ⟨_, hsurvey, .broken hparse hbreaks⟩

theorem isHandled_of_read {t : Tree} {p : Path} {failure : Failure}
    (h : t.read p = .error failure) : failure.kind.isHandled = true := by
  unfold Tree.read at h
  cases hcontent : t.content p with
  | error cause =>
    obtain rfl : cause = failure := by simpa [hcontent, bind, Except.bind] using h
    unfold Tree.content at hcontent
    split_ifs at hcontent
    · rw [← Except.error.inj hcontent]
      rfl
    · split at hcontent
      · rw [← Except.error.inj hcontent]
        rfl
      · split at hcontent
        · exact nomatch hcontent
        · rw [← Except.error.inj hcontent]
          rfl
        · rw [← Except.error.inj hcontent]
          rfl
  | ok content =>
    rw [hcontent] at h
    cases content with
    | text s => exact nomatch h
    | bytes all fault =>
      rw [← Except.error.inj h]
      rfl

theorem isSettled_of_mem_samples {t : Tree} {s : Subject} {sample : Sample}
    (h : sample ∈ s.samples t) : sample.IsSettled := by
  intro failure hfailure
  rcases List.mem_append.mp h with hcode | hfile
  · obtain ⟨code, -, rfl⟩ := List.mem_map.mp hcode
    exact nomatch hfailure
  · obtain ⟨file, -, rfl⟩ := List.mem_map.mp hfile
    exact isHandled_of_read hfailure

/-- The survey of a subject that is not empty, where each sample has a part. -/
theorem survey_of_parts {registry : Registry}
    {present : String → Json → Except Failure (List Json)} {part : Sample → List Json} {t : Tree}
    {s : Subject} (hempty : s.isEmpty = false)
    (h : ∀ sample ∈ s.samples t, surveySample registry present sample = .ok (part sample)) :
    survey registry present t s = .ok (.ok ((s.samples t).flatMap part)) := by
  have hall : (s.samples t).mapM (surveySample registry present) =
      .ok ((s.samples t).map part) := by
    rw [mapM_eq_ok, List.forall₂_map_right_iff, List.forall₂_same]
    exact h
  rw [survey, hempty, hall, List.flatMap_def]
  rfl

/-- The findings of a survey are those of the text that was given and then those of the files in
order, each part told from its sample alone and labelled with its source. -/
theorem patterns_concatenates (registry : Registry) (hregistry : registry.IsProper) :
    ∃ part : Sample → List Json, ∀ (t : Tree) (s : Subject), s.isEmpty = false →
      patterns registry t s =
        .ok (.ok ((s.code.toList.flatMap fun code => part ⟨inputLabel, .ok code⟩) ++
          s.files.flatMap fun file => part (Subject.fileSample t file))) ∧
      ∀ sample ∈ s.samples t, Part registry sample (part sample) ∧
        ∀ record ∈ part sample, record.field? "source" = some (.str sample.label) := by
  let part (sample : Sample) : List Json :=
    (surveySample registry presentPattern sample).toOption.getD []
  have hpart : ∀ sample : Sample, sample.IsSettled →
      surveySample registry presentPattern sample = .ok (part sample) ∧
        Part registry sample (part sample) := by
    intro sample hsample
    obtain ⟨records, hrecords, hspec⟩ := surveySample_part hregistry hsample
    have heq : part sample = records := by simp [part, hrecords, Except.toOption]
    rw [heq]
    exact ⟨hrecords, hspec⟩
  refine ⟨part, fun t s hempty => ⟨?_, ?_⟩⟩
  · have hparts : ∀ sample ∈ s.samples t,
        surveySample registry presentPattern sample = .ok (part sample) :=
      fun sample hsample => (hpart sample (isSettled_of_mem_samples hsample)).1
    have hsurvey := survey_of_parts hempty hparts
    rw [Subject.samples, List.flatMap_append, List.flatMap_map, List.flatMap_map] at hsurvey
    exact hsurvey
  · intro sample hsample
    obtain ⟨hsurvey, hspec⟩ := hpart sample (isSettled_of_mem_samples hsample)
    exact ⟨hspec, fun record hrecord => source_of_surveySample hsurvey hrecord⟩

/-- One probe finds something, one fails in a usual way, and one breaks the examination off. -/
def mixedProbes : Registry :=
  [("Finder", fun _ => .ok (.arr [.obj [("name", .str "Repository")]])),
    ("Wary", fun _ => .error (.wrongType "no body")),
    ("Broken", fun _ => .error ⟨.named "RuntimeError", "out of order"⟩)]

theorem mixedProbes_isProper : mixedProbes.IsProper := by
  intro entry hentry
  simp only [mixedProbes, List.mem_cons, List.not_mem_nil, or_false] at hentry
  rcases hentry with rfl | rfl | rfl
  · exact fun _ => Or.inl ⟨[[("name", .str "Repository")]], rfl⟩
  · exact fun _ => Or.inr ⟨_, rfl, rfl⟩
  · exact fun _ => Or.inr ⟨_, rfl, rfl⟩

/-- A text beside a file that is not there. -/
def partlyThere : Subject := ⟨some "pass", ["absent.py"]⟩

theorem patterns_concatenates_mixed :
    mixedProbes.IsProper ∧ ∃ part : Sample → List Json,
      patterns mixedProbes .empty partlyThere =
        .ok (.ok (part ⟨inputLabel, .ok "pass"⟩ ++
          part (Subject.fileSample .empty "absent.py"))) ∧
      ∀ sample ∈ partlyThere.samples .empty, Part mixedProbes sample (part sample) := by
  obtain ⟨part, hpart⟩ := patterns_concatenates mixedProbes mixedProbes_isProper
  obtain ⟨hpatterns, hspec⟩ := hpart .empty partlyThere (by decide)
  refine ⟨mixedProbes_isProper, part, ?_, fun sample hsample => (hspec sample hsample).1⟩
  simpa [partlyThere] using hpatterns

end DesignLens.Analysis
