import DesignLens.Proofs.CollectorAgreement
import DesignLens.Proofs.TableEntries

/-!
# Surveys of paths

The findings for paths are those of the survey of each collected file, except for their label: the
text of the file is surveyed as one that was given directly, and the label says so. A file that
cannot be read has a record of its own. The findings are those of the surveys, labels included, only
where there are none at all.
-/

namespace DesignLens.Analysis

open Workspace

/-! ## The survey of one sample -/

/-- A finding with another label. -/
def relabel (label : String) : Json → Json
  | .obj fields => .obj (Table.insert "source" (.str label) fields)
  | v => v

/-- How the survey of patterns presents a finding. -/
def presentPattern (label : String) (finding : Json) : Except Failure (List Json) :=
  (patternFinding label finding).map fun r => [r]

theorem patternFinding_relabel (label other : String) (finding : Json) :
    patternFinding label finding = (patternFinding other finding).map (relabel label) := by
  unfold patternFinding
  cases finding.record with
  | error failure => rfl
  | ok fields =>
    simp only [bind, Except.bind, pure, Except.pure, Except.map, relabel, Table.insert_insert]

theorem presentPattern_relabel (label other : String) (finding : Json) :
    presentPattern label finding =
      (presentPattern other finding).map (List.map (relabel label)) := by
  unfold presentPattern
  rw [patternFinding_relabel label other]
  cases patternFinding other finding <;> rfl

theorem surveySample_relabel (registry : Registry) (label other : String)
    (text : Except Failure String) :
    surveySample registry presentPattern ⟨label, text⟩ =
      (surveySample registry presentPattern ⟨other, text⟩).map (List.map (relabel label)) := by
  unfold surveySample
  cases text >>= probe registry with
  | error failure =>
    simp only [Failure.handle]
    split_ifs <;> rfl
  | ok findings =>
    simp only
    rw [funext (presentPattern_relabel label other), mapM_map]
    cases findings.mapM (presentPattern other) with
    | error failure => rfl
    | ok parts => simp [Except.map, List.map_flatten]

theorem source_of_patternFinding {label : String} {finding labelled : Json}
    (h : patternFinding label finding = .ok labelled) :
    labelled.field? "source" = some (.str label) := by
  obtain ⟨fields, -, h⟩ := bind_eq_ok.mp h
  obtain rfl := pure_eq_ok.mp h
  exact Table.find?_insert_self _ _ _

theorem source_of_surveySample {registry : Registry} {s : Sample} {findings : List Json}
    (h : surveySample registry presentPattern s = .ok findings) {finding : Json}
    (hfinding : finding ∈ findings) : finding.field? "source" = some (.str s.label) := by
  unfold surveySample at h
  split at h
  · obtain ⟨parts, hparts, rfl⟩ := map_eq_ok.mp h
    obtain ⟨part, hpart, hfinding⟩ := List.mem_flatten.mp hfinding
    obtain ⟨found, -, hfound⟩ := exists_of_mem_mapM hparts hpart
    obtain ⟨labelled, hlabelled, rfl⟩ := map_eq_ok.mp hfound
    rw [List.mem_singleton.mp hfinding]
    exact source_of_patternFinding hlabelled
  · unfold Failure.handle at h
    simp only at h
    split_ifs at h
    obtain rfl := Except.ok.inj h
    rw [List.mem_singleton.mp hfinding]
    rfl

/-- The survey of a subject with one sample. -/
theorem survey_of_sample (registry : Registry)
    (present : String → Json → Except Failure (List Json)) {t : Tree} {s : Subject}
    {sample : Sample} (hempty : s.isEmpty = false) (hsamples : s.samples t = [sample]) :
    (survey registry present t s).map findingsD = surveySample registry present sample := by
  rw [survey, hempty, hsamples, List.mapM_cons, List.mapM_nil]
  cases surveySample registry present sample with
  | error failure => rfl
  | ok findings =>
    simp [bind, Except.bind, pure, Except.pure, Except.map, findingsD, Except.toOption]

/-! ## The survey of a file -/

/-- What the survey of a file alone reports. -/
def fileSurvey (registry : Registry) (t : Tree) (file : Path) : Except Failure (List Json) :=
  (patterns registry t ⟨none, [file.toString]⟩).map findingsD

/-- What is reported of a file that can be read and is not empty. -/
def wanted (registry : Registry) (t : Tree) (file : Path) : Except Failure (List Json) :=
  match t.read file with
  | .ok text => if text.isEmpty then .ok [] else fileSurvey registry t file
  | .error _ => .ok []

/-- What is said about a file in the place of what is reported of it. -/
def restated (t : Tree) (file : Path) (findings : List Json) : List Json :=
  match t.read file with
  | .ok _ => findings.map (relabel inputLabel)
  | .error failure => [errorRecord file.toString s!"<read-error: {failure.message}>"]

theorem fileSurvey_eq (registry : Registry) (t : Tree) {file : Path} (hfile : file.OfNames) :
    fileSurvey registry t file =
      surveySample registry presentPattern ⟨file.toString, t.read file⟩ := by
  refine survey_of_sample registry presentPattern (by simp [Subject.isEmpty]) ?_
  simp [Subject.samples, Subject.fileSample, Path.ofString_toString hfile]

theorem fileFindings_eq (registry : Registry) (t : Tree) {file : Path} (hfile : file.OfNames) :
    fileFindings registry t file = (wanted registry t file).map (restated t file) := by
  unfold fileFindings wanted restated
  cases hread : t.read file with
  | error failure => rfl
  | ok text =>
    simp only
    split_ifs with hempty
    · simp only [patterns, survey, Subject.isEmpty, Subject.ofCode, Option.getD_some, hempty]
      rfl
    · rw [fileSurvey_eq registry t hfile, hread, ← surveySample_relabel]
      refine survey_of_sample registry presentPattern ?_ rfl
      simpa [Subject.isEmpty, Subject.ofCode] using hempty

theorem source_of_wanted {registry : Registry} {t : Tree} {file : Path} (hfile : file.OfNames)
    {findings : List Json} (h : wanted registry t file = .ok findings) {finding : Json}
    (hfinding : finding ∈ findings) : finding.field? "source" = some (.str file.toString) := by
  unfold wanted at h
  split at h
  · split_ifs at h
    · obtain rfl := Except.ok.inj h
      exact absurd hfinding List.not_mem_nil
    · rw [fileSurvey_eq registry t hfile] at h
      exact source_of_surveySample h hfinding
  · obtain rfl := Except.ok.inj h
    exact absurd hfinding List.not_mem_nil

theorem source_relabel {label : String} {finding value : Json}
    (h : finding.field? "source" = some value) :
    (relabel label finding).field? "source" = some (.str label) := by
  cases finding with
  | obj fields => exact Table.find?_insert_self _ _ _
  | _ => exact nomatch h

/-- A collected file has a name of its own, which is not the label of a text that was given
directly. -/
theorem label_ne_of_collected {t : Tree} {entry : String} {file : Path}
    (h : Collected t entry file) (ht : t.OfNames) : file.toString ≠ inputLabel := by
  intro hlabel
  have hfile : file = ⟨false, ["<input>"]⟩ := by
    rw [← Path.ofString_toString (h.ofNames ht), hlabel]
    decide
  have hsuffix : file.suffix ≠ ".py" := by
    rw [hfile]
    decide
  have hending : Text.endsWith ".py" "<input>" = false := by decide
  cases h with
  | matching _ h => exact hsuffix h
  | itself h => exact hsuffix h
  | @below place f hlocate _ habove hpy =>
    obtain ⟨-, hparts⟩ := Workspace.Path.mk.injEq .. ▸ hfile
    obtain ⟨rest, hrest⟩ := habove
    have hplace := Tree.destination_of_locate hlocate
    rw [← hrest, List.drop_left] at hparts
    -- The name is either the last part of the entry or the one name below the folder.
    rcases List.append_eq_singleton_iff.mp hparts with ⟨hnil, hone⟩ | ⟨hone, hnil⟩
    · rw [← hrest, hone, List.getLastD_concat, hending] at hpy
      exact nomatch hpy
    · rw [Path.destination, hone] at hplace
      rw [← hrest, hnil, List.append_nil, hplace] at hpy
      exact absurd hpy (by decide)

/-! ## The detectors of this library -/

theorem consult_detector (p : Source.Program) (name : String) (d : Detection.Detector) :
    consult p name (Probe.ofDetector d) =
      .ok ((d p.layout p.module.body).map Detection.Finding.toJson) := by
  unfold consult Probe.ofDetector findingsOf
  cases d p.layout p.module.body <;> rfl

/-- Detectors answer, and they answer with findings. -/
theorem probe_builtins (text : String) :
    ∃ found : List Detection.Finding,
      probe builtins text = .ok (found.map Detection.Finding.toJson) := by
  unfold probe
  cases Source.Program.parse text with
  | error fault => exact ⟨[⟨"ParseError", .zero false, fault.message⟩], rfl⟩
  | ok p =>
    refine ⟨Detection.detectors.flatMap fun entry => entry.2 p.layout p.module.body, ?_⟩
    have hall : builtins.mapM (fun entry => consult p entry.1 entry.2) =
        .ok (Detection.detectors.map fun entry =>
          (entry.2 p.layout p.module.body).map Detection.Finding.toJson) := by
      rw [mapM_eq_ok, builtins, List.forall₂_map_left_iff, List.forall₂_map_right_iff,
        List.forall₂_same]
      exact fun entry _ => consult_detector p entry.1 entry.2
    simp only [hall, List.map_flatMap]
    rfl

/-- The survey of a text by detectors answers if their findings can be presented. -/
theorem survey_builtins {present : String → Json → Except Failure (List Json)}
    (hpresent : ∀ label (f : Detection.Finding), ∃ shown, present label f.toJson = .ok shown)
    (t : Tree) (code : String) : ∃ found, survey builtins present t (.ofCode code) = .ok found := by
  unfold survey
  split_ifs
  · exact ⟨_, rfl⟩
  · obtain ⟨found, hfound⟩ := probe_builtins code
    have hshown : ∀ finding ∈ found.map Detection.Finding.toJson,
        ∃ shown, present inputLabel finding = .ok shown := by
      intro finding hfinding
      obtain ⟨f, -, rfl⟩ := List.mem_map.mp hfinding
      exact hpresent inputLabel f
    obtain ⟨parts, hparts⟩ := exists_mapM_eq_ok hshown
    have hsample : surveySample builtins present ⟨inputLabel, .ok code⟩ = .ok parts.flatten := by
      unfold surveySample
      simp only [bind, Except.bind, hfound, hparts, Except.map]
    refine ⟨.ok [parts.flatten].flatten, map_eq_ok.mpr ⟨[parts.flatten], ?_, rfl⟩⟩
    exact mapM_eq_ok.mpr (.cons hsample .nil)

theorem fileFindings_builtins (t : Tree) (file : Path) :
    ∃ findings, fileFindings builtins t file = .ok findings := by
  unfold fileFindings
  split
  · exact ⟨_, rfl⟩
  · rename_i text _
    have hpresent : ∀ label (f : Detection.Finding), ∃ shown,
        presentPattern label f.toJson = .ok shown := fun _ _ => ⟨_, rfl⟩
    obtain ⟨found, hfound⟩ := survey_builtins hpresent t text
    exact ⟨findingsD found, map_eq_ok.mpr ⟨found, hfound, rfl⟩⟩

/-! ## The findings for paths -/

section
variable {registry : Registry} {t : Tree}

theorem exists_wanted {files : List Path} {parts : List (List Json)}
    (h : List.Forall₂ (fun file part => fileFindings registry t file = .ok part) files parts)
    (hnames : ∀ file ∈ files, file.OfNames) :
    ∃ own, List.Forall₂ (fun file found => wanted registry t file = .ok found) files own ∧
      List.zipWith (restated t) files own = parts := by
  induction h with
  | nil => exact ⟨[], .nil, rfl⟩
  | @cons file part files parts hfile _ ih =>
    obtain ⟨hname, hnames⟩ := List.forall_mem_cons.mp hnames
    obtain ⟨own, hown, rfl⟩ := ih hnames
    rw [fileFindings_eq registry t hname] at hfile
    obtain ⟨found, hfound, rfl⟩ := map_eq_ok.mp hfile
    exact ⟨found :: own, .cons hfound hown, rfl⟩

/-- What is said about a file is never shorter than what is reported of it. -/
theorem length_le_restated {file : Path} {found : List Json}
    (h : wanted registry t file = .ok found) : found.length ≤ (restated t file found).length := by
  unfold wanted at h
  unfold restated
  cases hread : t.read file with
  | error failure =>
    rw [hread] at h
    obtain rfl := Except.ok.inj h
    exact Nat.zero_le _
  | ok text => simp

theorem length_le_restated_flatten {files : List Path} {own : List (List Json)}
    (h : List.Forall₂ (fun file found => wanted registry t file = .ok found) files own) :
    own.flatten.length ≤ (List.zipWith (restated t) files own).flatten.length := by
  induction h with
  | nil => exact Nat.le_refl _
  | cons hfile _ ih =>
    have hfirst := length_le_restated hfile
    simp only [List.zipWith_cons_cons, List.flatten_cons, List.length_append]
    omega

/-- What is said about a file is what is reported of it only if that is nothing. -/
theorem nil_of_restated_eq {file : Path} (hname : file.OfNames)
    (hlabel : file.toString ≠ inputLabel) {found : List Json}
    (h : wanted registry t file = .ok found)
    (heq : restated t file found = found) : found = [] := by
  cases found with
  | nil => rfl
  | cons finding rest =>
    have hsource := source_of_wanted hname h List.mem_cons_self
    unfold wanted at h
    unfold restated at heq
    cases hread : t.read file with
    | error failure =>
      rw [hread] at h
      exact nomatch h
    | ok text =>
      rw [hread] at heq
      have hfirst : (relabel inputLabel finding).field? "source" = some (.str inputLabel) :=
        source_relabel hsource
      rw [(List.cons.inj heq).1, hsource] at hfirst
      exact absurd (Json.str.inj (Option.some.inj hfirst)) hlabel

theorem restated_eq_iff {files : List Path} {own : List (List Json)}
    (h : List.Forall₂ (fun file found => wanted registry t file = .ok found) files own)
    (hnames : ∀ file ∈ files, file.OfNames) (hlabels : ∀ file ∈ files, file.toString ≠ inputLabel) :
    (List.zipWith (restated t) files own).flatten = own.flatten ↔
      (List.zipWith (restated t) files own).flatten = [] := by
  constructor
  · intro heq
    induction h with
    | nil => rfl
    | @cons file found files own hfile hrest ih =>
      obtain ⟨hname, hnames⟩ := List.forall_mem_cons.mp hnames
      obtain ⟨hlabel, hlabels⟩ := List.forall_mem_cons.mp hlabels
      simp only [List.zipWith_cons_cons, List.flatten_cons] at heq ⊢
      -- No part is longer than what is reported, for the rest is not shorter.
      have hlength : (restated t file found).length = found.length := by
        have hfirst := length_le_restated hfile
        have hlater := length_le_restated_flatten hrest
        have htotal := congrArg List.length heq
        simp only [List.length_append] at htotal
        omega
      obtain ⟨hsame, hlater⟩ := List.append_inj heq hlength
      have hnil := nil_of_restated_eq hname hlabel hfile hsame
      rw [hsame, hnil, ih hnames hlabels hlater]
      rfl
  · intro hnil
    have hlength := length_le_restated_flatten h
    rw [hnil, List.length_nil, Nat.le_zero, List.length_eq_zero_iff] at hlength
    rw [hnil, hlength]

/-- The findings for files, beside what the survey of each file alone reports. -/
structure PathFindings (registry : Registry) (t : Tree) (files : List Path)
    (own : List (List Json)) (findings : List Json) : Prop where
  own_eq : List.Forall₂ (fun file found => wanted registry t file = .ok found) files own
  findings_eq : findings = (List.zipWith (restated t) files own).flatten
  /-- What is reported of a file has its path as the source, and what is said instead does not. -/
  sources : ∀ file found, (file, found) ∈ files.zip own → ∀ finding ∈ found,
    finding.field? "source" = some (.str file.toString) ∧
      (relabel inputLabel finding).field? "source" = some (.str inputLabel)
  labels : ∀ file ∈ files, file.toString ≠ inputLabel
  faithful : findings = own.flatten ↔ findings = []

theorem pathFindings_of_parts {files : List Path} {parts : List (List Json)}
    (h : List.Forall₂ (fun file part => fileFindings registry t file = .ok part) files parts)
    (hnames : ∀ file ∈ files, file.OfNames) (hlabels : ∀ file ∈ files, file.toString ≠ inputLabel) :
    ∃ own, PathFindings registry t files own parts.flatten := by
  obtain ⟨own, hown, rfl⟩ := exists_wanted h hnames
  refine ⟨own, hown, rfl, ?_, hlabels, restated_eq_iff hown hnames hlabels⟩
  intro file found hpair finding hfinding
  have hname := hnames file (List.of_mem_zip hpair).1
  have hsource := source_of_wanted hname ((List.forall₂_iff_zip.mp hown).2 hpair) hfinding
  exact ⟨hsource, source_relabel hsource⟩

theorem findings_of_examine {meter : Option Metrics.Meter} {file : Path}
    {part : List Json × List Json} (h : examine registry meter t file = .ok part) :
    fileFindings registry t file = .ok part.1 := by
  obtain ⟨findings, hfindings, h⟩ := bind_eq_ok.mp h
  cases meter with
  | none =>
    obtain rfl := pure_eq_ok.mp h
    exact hfindings
  | some m =>
    obtain ⟨metrics, -, h⟩ := bind_eq_ok.mp h
    obtain rfl := pure_eq_ok.mp h
    exact hfindings

theorem parts_of_analyzePaths {instruments : Metrics.Instruments} {paths : List String}
    {withMetrics : Bool} {report : PathReport}
    (h : analyzePaths registry instruments t paths withMetrics = .ok (.ok report)) :
    ∃ files parts, sources t paths = .ok files ∧ report.findings = parts.flatten ∧
      List.Forall₂ (fun file part => fileFindings registry t file = .ok part) files parts := by
  unfold analyzePaths at h
  generalize (if withMetrics = true then instruments.meter.map some else .ok none) = meter at h
  split_ifs at h
  · exact nomatch Except.ok.inj h
  · obtain ⟨files, hfiles, h⟩ := bind_eq_ok.mp h
    cases meter with
    | error message => exact nomatch pure_eq_ok.mp h
    | ok meter =>
      obtain ⟨parts, hparts, h⟩ := bind_eq_ok.mp h
      obtain rfl := Except.ok.inj (pure_eq_ok.mp h)
      refine ⟨files, parts.map Prod.fst, filesOf_eq_sources t paths ▸ hfiles, List.flatMap_def, ?_⟩
      rw [List.forall₂_map_right_iff]
      exact (mapM_eq_ok.mp hparts).imp fun _ _ => findings_of_examine

theorem analyzePaths_builtins {paths : List String} (hpaths : paths ≠ []) {files : List Path}
    (hfiles : sources t paths = .ok files) (instruments : Metrics.Instruments) :
    ∃ report, analyzePaths builtins instruments t paths false = .ok (.ok report) := by
  have hexamine : ∀ file ∈ files, ∃ part, examine builtins none t file = .ok part := by
    intro file _
    obtain ⟨findings, hfindings⟩ := fileFindings_builtins t file
    exact ⟨(findings, []), bind_eq_ok.mpr ⟨findings, hfindings, rfl⟩⟩
  obtain ⟨parts, hparts⟩ := exists_mapM_eq_ok hexamine
  have hempty : paths.isEmpty = false := by simpa using hpaths
  refine ⟨⟨parts.flatMap Prod.fst, none⟩, ?_⟩
  rw [analyzePaths, hempty]
  exact bind_eq_ok.mpr ⟨files, (filesOf_eq_sources t paths).trans hfiles,
    bind_eq_ok.mpr ⟨parts, hparts, rfl⟩⟩

end

/-- The findings for paths are those of the collected files one after another, with the label of a
text that was given directly, and one record for each file that cannot be read. The detectors of
this library never keep them from being returned. -/
theorem analyzePaths_relabels (t : Tree) (ht : t.OfNames) (instruments : Metrics.Instruments)
    (paths : List String) :
    (∀ registry withMetrics report,
      analyzePaths registry instruments t paths withMetrics = .ok (.ok report) →
      ∃ found places files own, paths.mapM (sourcesOf t) = .ok found ∧
        Distinct t found.flatten (places, files) ∧
        PathFindings registry t files own report.findings) ∧
    (paths ≠ [] → ∀ files, sources t paths = .ok files →
      ∃ report, analyzePaths builtins instruments t paths false = .ok (.ok report)) := by
  refine ⟨fun registry withMetrics report h => ?_, fun hpaths files hfiles =>
    analyzePaths_builtins hpaths hfiles instruments⟩
  obtain ⟨files, parts, hfiles, hfindings, hparts⟩ := parts_of_analyzePaths h
  obtain ⟨found, places, hfound, hdistinct⟩ := distinct_of_sources hfiles
  have hcollected : ∀ file ∈ files, ∃ entry ∈ paths, Collected t entry file :=
    fun file => collected_of_sources hfiles
  obtain ⟨own, hown⟩ := pathFindings_of_parts hparts
    (fun file hfile => by
      obtain ⟨entry, -, hentry⟩ := hcollected file hfile
      exact hentry.ofNames ht)
    (fun file hfile => by
      obtain ⟨entry, -, hentry⟩ := hcollected file hfile
      exact label_ne_of_collected hentry ht)
  exact ⟨found, places, files, own, hfound, hdistinct, hfindings ▸ hown⟩

/-! ## A file with a bracket that is never closed -/

def openTree : Tree := ⟨[], [(["a.py"], .text "(")]⟩

def openFile : Path := ⟨false, ["a.py"]⟩

theorem openTree_ofNames : openTree.OfNames := by
  constructor <;> simp [openTree, IsName]

theorem sources_openTree : sources openTree ["a.py"] = .ok [openFile] := by
  decide

theorem analyzePaths_relabels_open :
    openTree.OfNames ∧ ∃ report found places files own,
      analyzePaths builtins .missing openTree ["a.py"] false = .ok (.ok report) ∧
      ["a.py"].mapM (sourcesOf openTree) = .ok found ∧
      Distinct openTree found.flatten (places, files) ∧
      PathFindings builtins openTree files own report.findings := by
  have h := analyzePaths_relabels openTree openTree_ofNames .missing ["a.py"]
  obtain ⟨report, hreport⟩ := h.2 (List.cons_ne_nil _ _) _ sources_openTree
  obtain ⟨found, places, files, own, hfiles⟩ := h.1 builtins false report hreport
  exact ⟨openTree_ofNames, report, found, places, files, own, hreport, hfiles⟩

def unclosedReason : String := "'(' was never closed (<unknown>, line 1)"

/-- The finding for a bracket that is never closed. -/
def unclosed (label : String) : Json :=
  .obj [("name", .str "ParseError"), ("confidence", .float (.zero false)),
    ("reason", .str unclosedReason), ("pattern", .str "ParseError"), ("source", .str label)]

theorem probe_open : probe builtins "(" = .ok [remark "ParseError" unclosedReason] := by
  have hparse : ((Source.Program.parse "(").map fun _ => ()).mapError (·.message) =
      .error unclosedReason := by decide +kernel
  unfold probe
  cases h : Source.Program.parse "(" with
  | error fault =>
    rw [h] at hparse
    have hmessage : fault.message = unclosedReason := Except.error.inj hparse
    simp only [hmessage]
  | ok p =>
    rw [h] at hparse
    cases hparse

theorem surveySample_open (label : String) :
    surveySample builtins presentPattern ⟨label, .ok "("⟩ = .ok [unclosed label] := by
  unfold surveySample
  simp only [bind, Except.bind, probe_open]
  rfl

/-- The survey of the file alone names the file, and the findings for its path do not. -/
theorem analyzePaths_hides_file :
    fileSurvey builtins openTree openFile = .ok [unclosed "a.py"] ∧
      analyzePaths builtins .missing openTree ["a.py"] false =
        .ok (.ok ⟨[unclosed "<input>"], none⟩) ∧
      unclosed "<input>" ≠ unclosed "a.py" := by
  have hread : openTree.read openFile = .ok "(" := by decide
  have hnames : openFile.OfNames := by simp [openFile, Path.OfNames, IsName]
  refine ⟨?_, ?_, by simp [unclosed]⟩
  · rw [fileSurvey_eq builtins openTree hnames, hread]
    exact surveySample_open "a.py"
  · have hfindings : fileFindings builtins openTree openFile = .ok [unclosed "<input>"] := by
      rw [fileFindings, hread]
      exact (survey_of_sample builtins presentPattern rfl rfl).trans (surveySample_open _)
    rw [analyzePaths, filesOf_eq_sources, sources_openTree]
    simp only [bind, Except.bind, List.mapM_cons, examine, hfindings]
    rfl

end DesignLens.Analysis
