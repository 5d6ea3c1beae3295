import DesignLens.Proofs.Attempts
import DesignLens.Scan.Results

/-!
# When a scan has results

A scan has results if each of its samples can be scanned alone, and they are then the results of the
samples alone. A sample can be scanned if it is a text or the file system refuses it, and if the
readings of its text are usable. Failed readings are usable only if they are of some few kinds,
though the metrics have empty values for readings that fail in any other way too.
-/

namespace DesignLens.Analysis.Subject

/-- The subjects that each give one sample of a subject. -/
def parts (s : Subject) : List Subject :=
  (s.withoutEmptyCode.code.toList.map .ofCode) ++ s.files.map fun file => ⟨none, [file]⟩

/-- The labels of what a subject gives, in order. -/
def labels (s : Subject) : List String :=
  (s.withoutEmptyCode.code.toList.map fun _ => inputLabel) ++
    s.files.map fun file => (Workspace.Path.ofString file).toString

/-- A part has one sample. -/
structure IsPart (t : Workspace.Tree) (sample : Sample) (part : Subject) : Prop where
  nonempty : part.isEmpty = false
  samples : part.withoutEmptyCode.samples t = [sample]

theorem forall₂_parts (t : Workspace.Tree) (s : Subject) :
    List.Forall₂ (IsPart t) (s.withoutEmptyCode.samples t) s.parts := by
  unfold Subject.samples parts
  refine List.rel_append ?_ ?_
  · rw [List.forall₂_map_left_iff, List.forall₂_map_right_iff, List.forall₂_same]
    intro code hcode
    have hne : code ≠ "" := by
      simpa using (Option.filter_eq_some_iff.mp (Option.mem_toList.mp hcode)).2
    constructor
    · simp [isEmpty, ofCode, hne]
    · simp [withoutEmptyCode, Subject.samples, ofCode, hne]
  · rw [List.forall₂_map_left_iff, List.forall₂_map_right_iff]
    exact List.forall₂_same.mpr fun file _ => ⟨rfl, rfl⟩

theorem labels_samples (t : Workspace.Tree) (s : Subject) :
    (s.withoutEmptyCode.samples t).map Sample.label = s.labels := by
  unfold Subject.samples labels
  rw [List.map_append, List.map_map, List.map_map]
  rfl

end DesignLens.Analysis.Subject

namespace DesignLens.Scan

open Analysis Metrics Workspace

/-! ## Failures that are passed over -/

section
variable {α β : Type}

/-- An attempt that can only fail in ways that are passed over. -/
def Skips (e : Except Failure α) : Prop := ∀ f, e = .error f → isSkipped f.kind = true

theorem skips_ok (a : α) : Skips (.ok a) := nofun

theorem skips_error {f : Failure} : Skips (.error f : Except Failure α) ↔ isSkipped f.kind = true :=
  ⟨fun h => h f rfl, fun h _ heq => Except.error.inj heq ▸ h⟩

theorem skips_bind {x : Except Failure α} {g : α → Except Failure β} :
    Skips (x >>= g) ↔ Skips x ∧ ∀ a, x = .ok a → Skips (g a) := by
  cases x with
  | error f =>
    have hbind : Skips (.error f >>= g) ↔ isSkipped f.kind = true := skips_error
    rw [hbind, skips_error]
    exact ⟨fun h => ⟨h, nofun⟩, fun h => h.1⟩
  | ok a =>
    refine ⟨fun h => ⟨skips_ok a, fun b hb => ?_⟩, fun h => h.2 a rfl⟩
    rw [← Except.ok.inj hb]
    exact h

/-- If attempts that fail are never passed over, those for a list must all succeed. -/
theorem skips_mapM {p : α → Prop} {g : α → Except Failure β} (hg : ∀ a, Skips (g a) ↔ p a)
    (hok : ∀ a, p a → ∃ b, g a = .ok b) {items : List α} :
    Skips (items.mapM g) ↔ ∀ a ∈ items, p a := by
  induction items with
  | nil => exact iff_of_true (skips_ok []) nofun
  | cons a items ih =>
    rw [List.mapM_cons, skips_bind, hg, List.forall_mem_cons, ← ih]
    refine and_congr_right fun ha => ?_
    obtain ⟨b, hb⟩ := hok a ha
    simp only [hb, skips_bind, Except.ok.injEq, forall_eq']
    exact ⟨fun h => h.1, fun h => ⟨h, fun bs _ => skips_ok _⟩⟩

theorem exists_skipping (other : α) {e : Except Failure α} :
    (∃ a, skipping other e = .ok a) ↔ Skips e := by
  cases e with
  | ok a => exact iff_of_true ⟨a, rfl⟩ (skips_ok a)
  | error f =>
    rw [skips_error]
    unfold skipping
    dsimp only
    split_ifs with h
    · exact iff_of_true ⟨other, rfl⟩ h
    · exact iff_of_false nofun h

theorem exists_handle (other : Failure → α) {e : Except Failure α} :
    (∃ a, Failure.handle other e = .ok a) ↔ ∀ f, e = .error f → f.kind.isHandled = true := by
  cases e with
  | ok a => exact iff_of_true ⟨a, rfl⟩ nofun
  | error f =>
    unfold Failure.handle
    simp only [Except.error.injEq, forall_eq']
    split_ifs with h
    · exact iff_of_true ⟨other f, rfl⟩ h
    · exact iff_of_false nofun h

theorem getD_of_handle {other a : α} {e : Except Failure α}
    (h : Failure.handle (fun _ => other) e = .ok a) : e.toOption.getD other = a := by
  cases e with
  | ok b => exact Except.ok.inj h
  | error f =>
    unfold Failure.handle at h
    dsimp only at h
    split_ifs at h
    exact Except.ok.inj h

theorem isHandled_of_isSkipped {kind : FailureKind} (h : isSkipped kind = true) :
    kind.isHandled = true := by
  cases kind with
  | interrupted => exact nomatch h
  | _ => rfl

end

/-! ## Usable readings -/

/-- A value that can be compared with a number. -/
def isNumeric : Json → Bool
  | .int _ | .bool _ | .float _ => true
  | _ => false

theorem exists_isTooComplex {v : Json} (h : isNumeric v = true) :
    ∃ flag, isTooComplex v = .ok flag := by
  cases v with
  | int n => exact ⟨_, rfl⟩
  | bool b => exact ⟨_, rfl⟩
  | float x => exact ⟨_, rfl⟩
  | _ => exact nomatch h

theorem skips_isTooComplex {v : Json} : Skips (isTooComplex v) ↔ isNumeric v = true := by
  cases v with
  | int n => exact iff_of_true (skips_ok _) rfl
  | bool b => exact iff_of_true (skips_ok _) rfl
  | float x => exact iff_of_true (skips_ok _) rfl
  | _ => exact skips_error

/-- A whole number beyond all floating point numbers. -/
def isExcessive : Json → Bool
  | .int n =>
    match Number.Binary64.ofInt n with
    | .infinite _ => true
    | _ => false
  | _ => false

theorem skips_scoreValue {v : Json} : Skips (scoreValue v) ↔ isExcessive v = false := by
  cases v with
  | int n =>
    unfold isExcessive scoreValue
    dsimp only
    cases Number.Binary64.ofInt n with
    | infinite negative => exact iff_of_false (fun h => nomatch skips_error.mp h) nofun
    | _ => exact iff_of_true (skips_ok _) rfl
  | _ => exact iff_of_true (skips_ok _) rfl

def complexityOf (block : Json) : Json := block.fieldD "complexity" (.int 0)

/-- Readings whose failures are passed over and whose values can be compared. -/
structure Usable (r : Readings) : Prop where
  blocks : Skips r.blocks
  complexities : ∀ bs, r.blocks = .ok bs → ∀ b ∈ bs, isNumeric (complexityOf b) = true
  maintainability : Skips r.maintainability
  score : ∀ v, r.maintainability = .ok v → isExcessive v = false
  lines : Skips r.lines
  documented : ∀ f, r.documentedMaintainability = .error f → f.kind.isHandled = true

section
variable {r : Readings}

theorem skips_highComplexity : Skips (highComplexity r) ↔
    Skips r.blocks ∧ ∀ bs, r.blocks = .ok bs → ∀ b ∈ bs, isNumeric (complexityOf b) = true := by
  unfold highComplexity
  rw [skips_bind]
  refine and_congr_right fun _ => forall₂_congr fun bs _ => ?_
  rw [skips_bind, skips_mapM (fun _ => skips_isTooComplex) fun _ => exists_isTooComplex]
  exact ⟨fun h => h.1, fun h => ⟨h, fun flags _ => skips_ok _⟩⟩

theorem skips_lowMaintainability : Skips (lowMaintainability r) ↔
    Skips r.maintainability ∧ ∀ v, r.maintainability = .ok v → isExcessive v = false := by
  unfold lowMaintainability
  rw [skips_bind]
  refine and_congr_right fun _ => forall₂_congr fun v _ => ?_
  rw [skips_bind, skips_scoreValue]
  refine ⟨fun h => h.1, fun h => ⟨h, fun value _ => ?_⟩⟩
  cases value <;> exact skips_ok _

theorem skips_measuredLines : Skips (measuredLines r) ↔ Skips r.lines := by
  unfold measuredLines
  rw [skips_bind]
  refine ⟨fun h => h.1, fun h => ⟨h, fun counts _ => ?_⟩⟩
  split <;> exact skips_ok _

theorem exists_largeFile (text : String) :
    (∃ found, largeFile r text = .ok found) ↔ Skips r.lines := by
  rw [← skips_measuredLines, ← exists_skipping none]
  unfold largeFile
  constructor
  · rintro ⟨found, h⟩
    obtain ⟨counted, hcounted, -⟩ := bind_eq_ok.mp h
    exact ⟨counted, hcounted⟩
  · rintro ⟨counted, hcounted⟩
    rw [hcounted]
    cases counted <;> exact ⟨_, rfl⟩

theorem exists_indicators {text : String} :
    (∃ found, indicators r text = .ok found) ↔
      Skips (highComplexity r) ∧ Skips (lowMaintainability r) ∧ Skips r.lines := by
  rw [← exists_skipping [], ← exists_skipping [] (e := lowMaintainability r),
    ← exists_largeFile text]
  unfold indicators
  constructor
  · rintro ⟨found, h⟩
    obtain ⟨complexity, hcomplexity, h⟩ := bind_eq_ok.mp h
    obtain ⟨maintainability, hmaintainability, h⟩ := bind_eq_ok.mp h
    obtain ⟨size, hsize, -⟩ := bind_eq_ok.mp h
    exact ⟨⟨_, hcomplexity⟩, ⟨_, hmaintainability⟩, ⟨_, hsize⟩⟩
  · rintro ⟨⟨complexity, hcomplexity⟩, ⟨maintainability, hmaintainability⟩, ⟨size, hsize⟩⟩
    rw [hcomplexity, hmaintainability, hsize]
    exact ⟨_, rfl⟩

/-- What a scan reports of readings: empty values stand for those that failed. -/
def present (r : Readings) : Json :=
  .obj [("cyclomatic_complexity", .arr ((r.blocks.toOption.getD []).map blockJson)),
    ("maintainability_index", r.documentedMaintainability.toOption.getD .null),
    ("raw", linesJson (r.lines.toOption.getD .null))]

theorem snapshot_eq_ok {v : Json} (h : r.snapshot = .ok v) : v = present r := by
  unfold Readings.snapshot at h
  obtain ⟨blocks, hblocks, h⟩ := bind_eq_ok.mp h
  obtain ⟨index, hindex, h⟩ := bind_eq_ok.mp h
  obtain ⟨lines, hlines, h⟩ := bind_eq_ok.mp h
  rw [← pure_eq_ok.mp h, present, getD_of_handle hblocks, getD_of_handle hindex,
    getD_of_handle hlines]

theorem exists_snapshot (hblocks : Skips r.blocks) (hlines : Skips r.lines) :
    (∃ v, r.snapshot = .ok v) ↔
      ∀ f, r.documentedMaintainability = .error f → f.kind.isHandled = true := by
  obtain ⟨blocks, hblocks⟩ := (exists_handle fun _ => []).mpr fun f hf =>
    isHandled_of_isSkipped (hblocks f hf)
  obtain ⟨lines, hlines⟩ := (exists_handle fun _ => .null).mpr fun f hf =>
    isHandled_of_isSkipped (hlines f hf)
  rw [← exists_handle fun _ => Json.null]
  unfold Readings.snapshot
  constructor
  · rintro ⟨v, h⟩
    obtain ⟨_, _, h⟩ := bind_eq_ok.mp h
    obtain ⟨index, hindex, -⟩ := bind_eq_ok.mp h
    exact ⟨index, hindex⟩
  · rintro ⟨index, hindex⟩
    rw [hblocks, hindex, hlines]
    exact ⟨_, rfl⟩

end

section
variable {meter : Meter} {label text : String} {result : Result}

theorem scanText_eq_ok : scanText meter label text = .ok result ↔
    result.source = label ∧ (meter text).snapshot = .ok result.metrics ∧
      indicators (meter text) text = .ok result.indicators := by
  unfold scanText
  constructor
  · intro h
    obtain ⟨found, hfound, h⟩ := bind_eq_ok.mp h
    obtain ⟨metrics, hmetrics, h⟩ := bind_eq_ok.mp h
    rw [← pure_eq_ok.mp h]
    exact ⟨rfl, hmetrics, hfound⟩
  · rintro ⟨rfl, hmetrics, hfound⟩
    dsimp only
    rw [hfound, hmetrics]
    rfl

/-- A text is scanned if and only if its readings are usable. -/
theorem exists_scanText : (∃ result, scanText meter label text = .ok result) ↔
    Usable (meter text) := by
  constructor
  · rintro ⟨result, h⟩
    obtain ⟨-, hmetrics, hfound⟩ := scanText_eq_ok.mp h
    obtain ⟨hcomplexity, hmaintainability, hlines⟩ := exists_indicators.mp ⟨_, hfound⟩
    obtain ⟨hblocks, hcomplexities⟩ := skips_highComplexity.mp hcomplexity
    obtain ⟨hscored, hscore⟩ := skips_lowMaintainability.mp hmaintainability
    exact ⟨hblocks, hcomplexities, hscored, hscore, hlines,
      (exists_snapshot hblocks hlines).mp ⟨_, hmetrics⟩⟩
  · intro h
    obtain ⟨found, hfound⟩ := exists_indicators.mpr
      ⟨skips_highComplexity.mpr ⟨h.blocks, h.complexities⟩,
        skips_lowMaintainability.mpr ⟨h.maintainability, h.score⟩, h.lines⟩
    obtain ⟨metrics, hmetrics⟩ := (exists_snapshot h.blocks h.lines).mpr h.documented
    exact ⟨⟨label, metrics, found⟩, scanText_eq_ok.mpr ⟨rfl, hmetrics, hfound⟩⟩

end

/-! ## Scanning sample by sample -/

/-- The result of a sample alone. -/
def scanSample (meter : Meter) (s : Sample) : Except Failure Result :=
  scannedText s >>= scanText meter s.label

/-- A sample that a scan gets a result from: a text or a refusal, with usable readings. -/
structure Scannable (meter : Meter) (s : Sample) : Prop where
  legible : ∀ f, s.text = .error f → f.kind.isSystem = true
  usable : ∀ text, scannedText s = .ok text → Usable (meter text)

theorem exists_scannedText {s : Sample} :
    (∃ text, scannedText s = .ok text) ↔ ∀ f, s.text = .error f → f.kind.isSystem = true := by
  unfold scannedText
  cases s.text with
  | ok text => exact iff_of_true ⟨text, rfl⟩ nofun
  | error f =>
    simp only [Except.error.injEq, forall_eq']
    split_ifs with h
    · exact iff_of_true ⟨_, rfl⟩ h
    · exact iff_of_false nofun h

theorem exists_scanSample {meter : Meter} {s : Sample} :
    (∃ result, scanSample meter s = .ok result) ↔ Scannable meter s := by
  constructor
  · rintro ⟨result, h⟩
    obtain ⟨text, htext, hresult⟩ := bind_eq_ok.mp h
    refine ⟨exists_scannedText.mp ⟨text, htext⟩, fun text' htext' => ?_⟩
    obtain rfl := Except.ok.inj (htext.symm.trans htext')
    exact exists_scanText.mp ⟨result, hresult⟩
  · rintro ⟨hlegible, husable⟩
    obtain ⟨text, htext⟩ := exists_scannedText.mpr hlegible
    obtain ⟨result, hresult⟩ := exists_scanText.mpr (husable text htext)
    exact ⟨result, bind_eq_ok.mpr ⟨text, htext, hresult⟩⟩

section
variable {meter : Meter} {t : Tree} {subject : Subject} (hsubject : subject.isEmpty = false)
include hsubject

theorem scan_eq : scan (.ready meter) t subject = do
    let texts ← (subject.withoutEmptyCode.samples t).mapM fun sample =>
      (scannedText sample).map fun text => (sample.label, text)
    return .ok (← texts.mapM fun p => scanText meter p.1 p.2) := by
  unfold scan
  dsimp only [scanMeter, Instruments.meter]
  rw [if_neg (by simp [hsubject])]

/-- A scan has the results that its samples have alone. -/
theorem scan_eq_ok {results : List Result} : scan (.ready meter) t subject = .ok (.ok results) ↔
    List.Forall₂ (fun sample result => scanSample meter sample = .ok result)
      (subject.withoutEmptyCode.samples t) results := by
  have hsample : ∀ sample, scanSample meter sample =
      (scannedText sample).map (fun text => (sample.label, text)) >>= fun p =>
        scanText meter p.1 p.2 := by
    intro sample
    unfold scanSample
    cases scannedText sample <;> rfl
  simp only [hsample]
  rw [scan_eq hsubject, ← exists_mapM_mapM]
  simp only [bind_eq_ok, pure_eq_ok, Except.ok.injEq, exists_eq_right]

/-- A scan without results fails as one of its samples alone. -/
theorem exists_scan_eq_error
    (h : ∀ results, scan (.ready meter) t subject ≠ .ok (.ok results)) :
    ∃ sample ∈ subject.withoutEmptyCode.samples t, ∃ failure,
      scanSample meter sample = .error failure ∧
        scan (.ready meter) t subject = .error failure := by
  cases hscan : scan (.ready meter) t subject with
  | ok outcome =>
    have hdone := hscan
    rw [scan_eq hsubject] at hdone
    obtain ⟨texts, -, hdone⟩ := bind_eq_ok.mp hdone
    obtain ⟨results, -, hdone⟩ := bind_eq_ok.mp hdone
    rw [← pure_eq_ok.mp hdone] at hscan
    exact absurd hscan (h results)
  | error failure =>
    rw [scan_eq hsubject] at hscan
    rcases bind_eq_error.mp hscan with hread | ⟨texts, htexts, hscan⟩
    · obtain ⟨before, sample, after, hsamples, -, hfailed⟩ := mapM_eq_error.mp hread
      refine ⟨sample, by rw [hsamples]; simp, failure, ?_, rfl⟩
      exact bind_eq_error.mpr (Or.inl (map_eq_error.mp hfailed))
    · have hmeasured : (texts.mapM fun p => scanText meter p.1 p.2) = .error failure :=
        (bind_eq_error.mp hscan).resolve_right fun ⟨results, _, hpure⟩ => nomatch hpure
      obtain ⟨before, p, after, rfl, -, hfailed⟩ := mapM_eq_error.mp hmeasured
      obtain ⟨sample, hsample, hscanned⟩ := exists_of_mem_mapM htexts (b := p) (by simp)
      obtain ⟨text, htext, rfl⟩ := map_eq_ok.mp hscanned
      exact ⟨sample, hsample, failure, bind_eq_error.mpr (Or.inr ⟨text, htext, hfailed⟩), rfl⟩

end

section
variable {meter : Meter} {t : Tree} {part : Subject} {sample : Sample}
  (hpart : part.IsPart t sample)
include hpart

theorem scan_part_eq_ok {result : Result} : scan (.ready meter) t part = .ok (.ok [result]) ↔
    scanSample meter sample = .ok result := by
  rw [scan_eq_ok hpart.nonempty, hpart.samples, List.forall₂_cons]
  exact and_iff_left .nil

theorem scan_part_eq_error {failure : Failure} (h : scanSample meter sample = .error failure) :
    scan (.ready meter) t part = .error failure := by
  have hnone : ∀ results, scan (.ready meter) t part ≠ .ok (.ok results) := by
    intro results hresults
    rw [scan_eq_ok hpart.nonempty, hpart.samples] at hresults
    obtain ⟨result, -, hresult, -⟩ := List.forall₂_cons_left_iff.mp hresults
    exact nomatch h.symm.trans hresult
  obtain ⟨sample', hmem, failure', hfailed, hscan⟩ := exists_scan_eq_error hpart.nonempty hnone
  rw [hpart.samples] at hmem
  obtain rfl := List.mem_singleton.mp hmem
  rwa [Except.error.inj (h.symm.trans hfailed)]

end

theorem forall₂_scan_parts {meter : Meter} {t : Tree} {samples : List Sample}
    {parts : List Subject} {results : List Result}
    (hparts : List.Forall₂ (Subject.IsPart t) samples parts)
    (h : List.Forall₂ (fun sample result => scanSample meter sample = .ok result) samples results) :
    List.Forall₂ (fun part result => scan (.ready meter) t part = .ok (.ok [result]))
      parts results := by
  induction hparts generalizing results with
  | nil =>
    cases h
    exact .nil
  | cons hpart _ ih =>
    cases h with
    | cons hsample hrest => exact .cons ((scan_part_eq_ok hpart).mpr hsample) (ih hrest)

theorem source_of_scanSample {meter : Meter} {sample : Sample} {result : Result}
    (h : scanSample meter sample = .ok result) : result.source = sample.label := by
  obtain ⟨text, -, h⟩ := bind_eq_ok.mp h
  exact (scanText_eq_ok.mp h).1

/-- A scan of texts and files has results exactly if each of them can be scanned. The results are
then those of each text or file alone, in order and with their labels, with empty values in the
metrics for the readings that failed. Otherwise the whole scan fails as one of them alone. -/
theorem scan_part_by_part (meter : Meter) (t : Tree) {subject : Subject}
    (hsubject : subject.isEmpty = false) :
    ((∃ results, scan (.ready meter) t subject = .ok (.ok results)) ↔
      ∀ sample ∈ subject.withoutEmptyCode.samples t, Scannable meter sample) ∧
    (∀ results, scan (.ready meter) t subject = .ok (.ok results) →
      results.map Result.source = subject.labels ∧
      List.Forall₂ (fun part result => scan (.ready meter) t part = .ok (.ok [result]))
        subject.parts results ∧
      List.Forall₂ (fun sample result => ∃ text, scannedText sample = .ok text ∧
        result.metrics = present (meter text)) (subject.withoutEmptyCode.samples t) results) ∧
    ((∀ results, scan (.ready meter) t subject ≠ .ok (.ok results)) →
      ∃ part ∈ subject.parts, ∃ failure, scan (.ready meter) t part = .error failure ∧
        scan (.ready meter) t subject = .error failure) := by
  have hparts := Subject.forall₂_parts t subject
  refine ⟨?_, fun results hresults => ?_, fun hnone => ?_⟩
  · simp only [scan_eq_ok hsubject, ← mapM_eq_ok, ← exists_scanSample]
    constructor
    · rintro ⟨results, hresults⟩ sample hsample
      obtain ⟨result, -, hresult⟩ := exists_of_forall₂ (mapM_eq_ok.mp hresults) hsample
      exact ⟨result, hresult⟩
    · exact exists_mapM_eq_ok
  · have hall := (scan_eq_ok hsubject).mp hresults
    refine ⟨?_, forall₂_scan_parts hparts hall, hall.imp fun sample result h => ?_⟩
    · rw [← Subject.labels_samples t, ← List.forall₂_eq_eq_eq, List.forall₂_map_left_iff,
        List.forall₂_map_right_iff]
      exact hall.flip.imp fun result sample h => source_of_scanSample h
    · obtain ⟨text, htext, h⟩ := bind_eq_ok.mp h
      exact ⟨text, htext, snapshot_eq_ok (scanText_eq_ok.mp h).2.1⟩
  · obtain ⟨sample, hsample, failure, hfailed, hscan⟩ := exists_scan_eq_error hsubject hnone
    obtain ⟨part, hmem, hpart⟩ := exists_of_forall₂ hparts hsample
    exact ⟨part, hmem, failure, scan_part_eq_error hpart hfailed, hscan⟩

/-- A meter whose readings all fail in the same way. -/
def failingMeter (kind : FailureKind) : Meter := fun _ =>
  ⟨.error ⟨kind, ""⟩, .error ⟨kind, ""⟩, .error ⟨kind, ""⟩, .error ⟨kind, ""⟩⟩

theorem failingMeter_usable {kind : FailureKind} (h : isSkipped kind = true) (text : String) :
    Usable (failingMeter kind text) where
  blocks := skips_error.mpr h
  complexities := nofun
  maintainability := skips_error.mpr h
  score := nofun
  lines := skips_error.mpr h
  documented _ hf := Except.error.inj hf ▸ isHandled_of_isSkipped h

/-- A text that cannot be measured and a file that is not there have a result each. -/
theorem scan_part_by_part_missing :
    Subject.isEmpty ⟨some "(", ["b.py"]⟩ = false ∧
      ∃ results, scan (.ready (failingMeter (.malformed .syntaxError))) ⟨[], []⟩
          ⟨some "(", ["b.py"]⟩ = .ok (.ok results) ∧
        results.map Result.source = ["<input>", "b.py"] := by
  have hsubject : Subject.isEmpty ⟨some "(", ["b.py"]⟩ = false := by decide
  obtain ⟨hiff, hresults, -⟩ :=
    scan_part_by_part (failingMeter (.malformed .syntaxError)) ⟨[], []⟩ hsubject
  have hscannable : ∀ sample ∈ (Subject.withoutEmptyCode ⟨some "(", ["b.py"]⟩).samples ⟨[], []⟩,
      Scannable (failingMeter (.malformed .syntaxError)) sample := by
    intro sample hsample
    refine ⟨fun f hf => ?_, fun text _ => failingMeter_usable rfl text⟩
    rcases List.mem_pair.mp hsample with rfl | rfl
    · exact nomatch hf
    · rw [← Except.error.inj hf]
      rfl
  obtain ⟨results, hscan⟩ := hiff.mpr hscannable
  exact ⟨hsubject, results, hscan, (hresults results hscan).1⟩

/-- A file with a text, and a file that holds no text. -/
def oddTree : Tree := ⟨[], [(["a.py"], .text "pass\n"), (["b.py"], .ofBytes [255])]⟩

/-- A file that has a result alone has none beside a file that holds no text, and neither has a text
with readings of the wrong type. -/
theorem undecodable_ends_scan :
    (∃ result, scan (.ready (failingMeter .badValue)) oddTree ⟨none, ["a.py"]⟩ =
      .ok (.ok [result])) ∧
    (∃ failure, failure.kind = .undecodable ∧
      scan (.ready (failingMeter .badValue)) oddTree ⟨none, ["a.py", "b.py"]⟩ = .error failure) ∧
    ∃ failure, failure.kind = .wrongType ∧
      scan (.ready (failingMeter .wrongType)) oddTree ⟨some "x = 1\n", []⟩ = .error failure := by
  refine ⟨?_, ⟨_, rfl, rfl⟩, ⟨_, rfl, rfl⟩⟩
  have hpart : Subject.IsPart oddTree (Subject.fileSample oddTree "a.py") ⟨none, ["a.py"]⟩ :=
    ⟨rfl, rfl⟩
  obtain ⟨result, hresult⟩ : ∃ result,
      scanSample (failingMeter .badValue) (Subject.fileSample oddTree "a.py") = .ok result :=
    exists_scanSample.mpr ⟨nofun, fun text _ => failingMeter_usable rfl text⟩
  exact ⟨result, (scan_part_eq_ok hpart).mpr hresult⟩

end DesignLens.Scan
