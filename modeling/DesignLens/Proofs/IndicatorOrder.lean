import DesignLens.Proofs.ScanOrder
import DesignLens.Proofs.ScanOutcomes

/-!
# Every kind of indicator once

The kinds of indicators are looked for one after the other. Some of them have two sources: the lines
of a file are counted by the meter and in the text, a long function is looked for in the program and
in the paragraphs of the text. All the same each kind is reported once at most, in the order of the
kinds, and what a result recommends is what its indicators recommend, one by one:
`scan_reports_kinds_once`.
-/

namespace DesignLens.Scan

open Analysis Metrics Ranking Workspace

/-! ## At most one indicator of a kind -/

/-- No indicator or one, of the given kind. -/
def AtMostOne (kind : IndicatorKind) (found : List Indicator) : Prop :=
  (found.map Indicator.kind).Sublist [kind]

section
variable {kind : IndicatorKind} {found : List Indicator}

theorem atMostOne_nil (kind : IndicatorKind) : AtMostOne kind [] := List.nil_sublist _

theorem atMostOne_single (kind : IndicatorKind) (details : List (String × Json)) :
    AtMostOne kind [⟨kind, details⟩] := List.Sublist.refl _

theorem atMostOne_ite {condition : Prop} [Decidable condition] {details : List (String × Json)} :
    AtMostOne kind (if condition then [⟨kind, details⟩] else []) := by
  split_ifs
  · exact atMostOne_single kind details
  · exact atMostOne_nil kind

theorem AtMostOne.kind_eq (h : AtMostOne kind found) {i : Indicator} (hi : i ∈ found) :
    i.kind = kind :=
  List.mem_singleton.mp (h.subset (List.mem_map_of_mem hi))

theorem AtMostOne.filter_eq_self (h : AtMostOne kind found) :
    (found.filter fun i => i.kind = kind) = found :=
  List.filter_eq_self.mpr fun _ hi => decide_eq_true (h.kind_eq hi)

theorem AtMostOne.filter_eq_nil (h : AtMostOne kind found) {other : IndicatorKind}
    (hother : kind ≠ other) : (found.filter fun i => i.kind = other) = [] := by
  rw [List.filter_eq_nil_iff]
  intro i hi
  rw [decide_eq_true_iff, h.kind_eq hi]
  exact hother

end

section
variable {r : Readings} {text : String} {found : List Indicator}

/-- An attempt that may be passed over keeps what holds of its results and of what replaces them. -/
theorem of_skipping {α : Type} {p : α → Prop} {other a : α} {e : Except Failure α}
    (hother : p other) (hresult : ∀ b, e = .ok b → p b) (h : skipping other e = .ok a) : p a := by
  cases e with
  | ok b => exact Except.ok.inj h ▸ hresult b rfl
  | error f =>
    unfold skipping at h
    dsimp only at h
    split_ifs at h
    exact Except.ok.inj h ▸ hother

theorem atMostOne_highComplexity (h : highComplexity r = .ok found) :
    AtMostOne .highComplexity found := by
  unfold highComplexity at h
  obtain ⟨blocks, -, h⟩ := bind_eq_ok.mp h
  obtain ⟨flags, -, h⟩ := bind_eq_ok.mp h
  rw [← pure_eq_ok.mp h]
  split_ifs
  · exact atMostOne_nil _
  · exact atMostOne_single _ _

theorem atMostOne_lowMaintainability (h : lowMaintainability r = .ok found) :
    AtMostOne .lowMaintainability found := by
  unfold lowMaintainability at h
  obtain ⟨score, -, h⟩ := bind_eq_ok.mp h
  obtain ⟨value, -, h⟩ := bind_eq_ok.mp h
  cases value with
  | none => exact pure_eq_ok.mp h ▸ atMostOne_nil _
  | some x => exact pure_eq_ok.mp h ▸ atMostOne_ite

theorem atMostOne_globalState (text : String) : AtMostOne .globalState (globalState text) :=
  atMostOne_ite

theorem atMostOne_dynamicEvaluation (text : String) :
    AtMostOne .dynamicEvaluation (dynamicEvaluation text) :=
  atMostOne_ite

theorem atMostOne_printLogging (text : String) : AtMostOne .printLogging (printLogging text) :=
  atMostOne_ite

theorem atMostOne_largeFunction (text : String) :
    AtMostOne .largeFunction (largeFunction text) := by
  unfold largeFunction
  split
  · exact atMostOne_single _ _
  · cases longParagraph? text with
    | none => exact atMostOne_nil _
    | some lines => exact atMostOne_single _ _

/-! ## The lines of a file -/

/-- The meter counts more lines than a file may have. -/
def MeasuredLarge (r : Readings) (n : Int) : Prop :=
  ∃ counts, r.lines = .ok counts ∧ counts.fieldD "loc" (.int 0) = .int n ∧ 1000 < n

/-- The number of lines of a large file: that of the meter, and if the meter does not call the file
large, that of the text. -/
def LargeBy (r : Readings) (text : String) (lines : Json) : Prop :=
  (∃ n, MeasuredLarge r n ∧ lines = .int n) ∨
    (∀ n, ¬MeasuredLarge r n) ∧ 1000 < (Text.lines text).length ∧
      lines = .nat (Text.lines text).length

theorem measuredLines_eq_ok {count : Option Json} (h : measuredLines r = .ok count) :
    (∃ n, MeasuredLarge r n ∧ count = some (.int n)) ∨
      (∀ n, ¬MeasuredLarge r n) ∧ count = none := by
  unfold measuredLines at h
  obtain ⟨counts, hcounts, h⟩ := bind_eq_ok.mp h
  have hmeasured : ∀ n, MeasuredLarge r n ↔
      counts.fieldD "loc" (.int 0) = .int n ∧ 1000 < n := by
    intro n
    unfold MeasuredLarge
    rw [hcounts]
    simp only [Except.ok.injEq, exists_eq_left']
  simp only [hmeasured]
  cases hloc : counts.fieldD "loc" (.int 0) with
  | int n =>
    rw [hloc] at h
    have hcount := pure_eq_ok.mp h
    simp only [Json.int.injEq]
    by_cases hlarge : (fileLimit : Int) < n
    · rw [if_pos hlarge] at hcount
      exact .inl ⟨n, ⟨rfl, hlarge⟩, hcount.symm⟩
    · rw [if_neg hlarge] at hcount
      exact .inr ⟨fun m hm => hlarge (hm.1 ▸ hm.2), hcount.symm⟩
  | _ =>
    rw [hloc] at h
    exact .inr ⟨fun m hm => Json.noConfusion hm.1, (pure_eq_ok.mp h).symm⟩

theorem largeFile_eq_ok (h : largeFile r text = .ok found) :
    (∃ lines, LargeBy r text lines ∧ found = [⟨.largeFile, [("loc", lines)]⟩]) ∨
      (∀ lines, ¬LargeBy r text lines) ∧ found = [] := by
  unfold largeFile at h
  obtain ⟨count, hcount, h⟩ := bind_eq_ok.mp h
  -- A count that fails is passed over like one that is not large.
  have hcases : (∃ n, MeasuredLarge r n ∧ count = some (.int n)) ∨
      (∀ n, ¬MeasuredLarge r n) ∧ count = none := by
    cases hlines : measuredLines r with
    | ok value =>
      rw [hlines] at hcount
      exact Except.ok.inj hcount ▸ measuredLines_eq_ok hlines
    | error f =>
      refine .inr ⟨?_, of_skipping (p := (· = none)) rfl (fun b hb => ?_) hcount⟩
      · rintro n ⟨counts, hcounts, -⟩
        unfold measuredLines at hlines
        rw [hcounts] at hlines
        rcases bind_eq_error.mp hlines with hfailed | ⟨value, -, hvalue⟩
        · exact nomatch hfailed
        · split at hvalue <;> exact nomatch hvalue
      · rw [hlines] at hb
        exact nomatch hb
  rcases hcases with ⟨n, hn, rfl⟩ | ⟨hnone, rfl⟩
  · exact .inl ⟨.int n, .inl ⟨n, hn, rfl⟩, (pure_eq_ok.mp h).symm⟩
  · have hfound := pure_eq_ok.mp h
    by_cases hlines : fileLimit < (Text.lines text).length
    · rw [if_pos hlines] at hfound
      exact .inl ⟨_, .inr ⟨hnone, hlines, rfl⟩, hfound.symm⟩
    · rw [if_neg hlines] at hfound
      refine .inr ⟨?_, hfound.symm⟩
      rintro lines (⟨n, hn, -⟩ | ⟨-, hlarge, -⟩)
      · exact hnone n hn
      · exact hlines hlarge

theorem atMostOne_largeFile (h : largeFile r text = .ok found) : AtMostOne .largeFile found := by
  rcases largeFile_eq_ok h with ⟨lines, -, rfl⟩ | ⟨-, rfl⟩
  · exact atMostOne_single _ _
  · exact atMostOne_nil _

/-- A file is large by some count exactly if the meter or the text says so. -/
theorem exists_largeBy : (∃ lines, LargeBy r text lines) ↔
    (∃ n, MeasuredLarge r n) ∨ 1000 < (Text.lines text).length := by
  constructor
  · rintro ⟨lines, ⟨n, hn, -⟩ | ⟨-, hlarge, -⟩⟩
    · exact .inl ⟨n, hn⟩
    · exact .inr hlarge
  · intro h
    by_cases hmeasured : ∃ n, MeasuredLarge r n
    · obtain ⟨n, hn⟩ := hmeasured
      exact ⟨.int n, .inl ⟨n, hn, rfl⟩⟩
    · exact ⟨_, .inr ⟨not_exists.mp hmeasured, h.resolve_left hmeasured, rfl⟩⟩

/-! ## All indicators of a text -/

/-- The indicators of a text in seven parts, one for each kind. -/
theorem indicators_eq_ok (h : indicators r text = .ok found) :
    ∃ complexity maintainability size, AtMostOne .highComplexity complexity ∧
      AtMostOne .lowMaintainability maintainability ∧ largeFile r text = .ok size ∧
      found = complexity ++ maintainability ++ size ++ globalState text ++ dynamicEvaluation text ++
        printLogging text ++ largeFunction text := by
  unfold indicators at h
  obtain ⟨complexity, hcomplexity, h⟩ := bind_eq_ok.mp h
  obtain ⟨maintainability, hmaintainability, h⟩ := bind_eq_ok.mp h
  obtain ⟨size, hsize, h⟩ := bind_eq_ok.mp h
  exact ⟨complexity, maintainability, size,
    of_skipping (atMostOne_nil _) (fun _ => atMostOne_highComplexity) hcomplexity,
    of_skipping (atMostOne_nil _) (fun _ => atMostOne_lowMaintainability) hmaintainability,
    hsize, (pure_eq_ok.mp h).symm⟩

/-- The kinds that are reported stand in the order of all kinds. -/
theorem kinds_sublist (h : indicators r text = .ok found) :
    (found.map Indicator.kind).Sublist allKinds := by
  obtain ⟨complexity, maintainability, size, hcomplexity, hmaintainability, hsize, rfl⟩ :=
    indicators_eq_ok h
  simp only [List.map_append]
  exact (((((hcomplexity.append hmaintainability).append (atMostOne_largeFile hsize)).append
    (atMostOne_globalState text)).append (atMostOne_dynamicEvaluation text)).append
    (atMostOne_printLogging text)).append (atMostOne_largeFunction text)

/-- What is found of a kind with two sources is what is looked for under that kind. -/
theorem filter_largeFile (h : indicators r text = .ok found) :
    largeFile r text = .ok (found.filter fun i => i.kind = .largeFile) := by
  obtain ⟨complexity, maintainability, size, hcomplexity, hmaintainability, hsize, rfl⟩ :=
    indicators_eq_ok h
  simp only [List.filter_append, hcomplexity.filter_eq_nil, hmaintainability.filter_eq_nil,
    (atMostOne_globalState text).filter_eq_nil, (atMostOne_dynamicEvaluation text).filter_eq_nil,
    (atMostOne_printLogging text).filter_eq_nil, (atMostOne_largeFunction text).filter_eq_nil,
    (atMostOne_largeFile hsize).filter_eq_self, ne_eq, reduceCtorEq, not_false_eq_true,
    List.nil_append, List.append_nil, hsize]

theorem filter_largeFunction (h : indicators r text = .ok found) :
    (found.filter fun i => i.kind = .largeFunction) = largeFunction text := by
  obtain ⟨complexity, maintainability, size, hcomplexity, hmaintainability, hsize, rfl⟩ :=
    indicators_eq_ok h
  simp only [List.filter_append, hcomplexity.filter_eq_nil, hmaintainability.filter_eq_nil,
    (atMostOne_globalState text).filter_eq_nil, (atMostOne_dynamicEvaluation text).filter_eq_nil,
    (atMostOne_printLogging text).filter_eq_nil, (atMostOne_largeFile hsize).filter_eq_nil,
    (atMostOne_largeFunction text).filter_eq_self, ne_eq, reduceCtorEq, not_false_eq_true,
    List.nil_append]

end

/-! ## What is recommended -/

theorem recommendation_injective : Function.Injective IndicatorKind.recommendation := by
  intro a b h
  cases a <;> cases b <;> first | rfl | exact absurd h (by decide)

theorem word_injective : Function.Injective IndicatorKind.word := by
  intro a b h
  cases a <;> cases b <;> first | rfl | exact absurd h (by decide)

theorem eraseDups_of_nodup {texts : List String} (h : texts.Nodup) : texts.eraseDups = texts := by
  induction texts with
  | nil => rfl
  | cons text rest ih =>
    obtain ⟨hnew, hrest⟩ := List.nodup_cons.mp h
    have hkept : (rest.filter fun other => !other == text) = rest := by
      rw [List.filter_eq_self]
      intro other hother
      simpa using fun heq : other = text => hnew (heq ▸ hother)
    rw [List.eraseDups_cons, hkept, ih hrest]

/-! ## What a scan reports -/

/-- A result in which every kind of indicator stands once at most and in its place, with what it
recommends, and which calls a file large for the right reason. -/
structure ReportsOnce (r : Readings) (text : String) (result : Result) : Prop where
  ordered : (result.indicators.map fun i => i.kind.word).Sublist
    ["high_cc", "low_mi", "large_file", "global_or_any_usage", "dynamic_eval", "print_logging",
      "very_large_function"]
  distinct : (result.indicators.map fun i => i.kind.word).Nodup
  recommended : result.recommendations = result.indicators.map fun i => i.kind.recommendation
  recommendedOnce : result.recommendations.Nodup
  large : (∃ i ∈ result.indicators, i.kind = .largeFile) ↔
    (∃ n, MeasuredLarge r n) ∨ 1000 < (Text.lines text).length
  counted : ∀ i ∈ result.indicators, i.kind = .largeFile →
    ∃ lines, LargeBy r text lines ∧ i.details = [("loc", lines)]

theorem allKinds_nodup : allKinds.Nodup := by decide

section
variable {r : Readings} {text : String} {result : Result}

theorem large_iff (h : indicators r text = .ok result.indicators) :
    (∃ i ∈ result.indicators, i.kind = .largeFile) ↔
      (∃ n, MeasuredLarge r n) ∨ 1000 < (Text.lines text).length := by
  have hmem : (∃ i ∈ result.indicators, i.kind = .largeFile) ↔
      (result.indicators.filter fun i => i.kind = .largeFile) ≠ [] := by
    simp only [ne_eq, List.filter_eq_nil_iff, decide_eq_true_iff, not_forall, not_not, exists_prop]
  rw [hmem, ← exists_largeBy]
  rcases largeFile_eq_ok (filter_largeFile h) with ⟨lines, hlines, heq⟩ | ⟨hsmall, heq⟩
  · exact iff_of_true (by simp [heq]) ⟨lines, hlines⟩
  · exact iff_of_false (fun hne => hne heq) fun ⟨lines, hlines⟩ => hsmall lines hlines

theorem counted_of_mem (h : indicators r text = .ok result.indicators) {i : Indicator}
    (hi : i ∈ result.indicators) (hkind : i.kind = .largeFile) :
    ∃ lines, LargeBy r text lines ∧ i.details = [("loc", lines)] := by
  have hmem : i ∈ result.indicators.filter fun i => i.kind = .largeFile :=
    List.mem_filter.mpr ⟨hi, decide_eq_true hkind⟩
  rcases largeFile_eq_ok (filter_largeFile h) with ⟨lines, hlines, heq⟩ | ⟨-, heq⟩
  · rw [heq, List.mem_singleton] at hmem
    exact ⟨lines, hlines, by rw [hmem]⟩
  · rw [heq] at hmem
    cases hmem

theorem reportsOnce_of_indicators (h : indicators r text = .ok result.indicators) :
    ReportsOnce r text result := by
  have hkinds := kinds_sublist h
  have hdistinct : (result.indicators.map Indicator.kind).Nodup := hkinds.nodup allKinds_nodup
  have hwords : (result.indicators.map fun i => i.kind.word) =
      (result.indicators.map Indicator.kind).map IndicatorKind.word := by
    rw [List.map_map]
    rfl
  have hadvice : (result.indicators.map fun i => i.kind.recommendation) =
      (result.indicators.map Indicator.kind).map IndicatorKind.recommendation := by
    rw [List.map_map]
    rfl
  have honce : (result.indicators.map fun i => i.kind.recommendation).Nodup :=
    hadvice ▸ hdistinct.map recommendation_injective
  have hrecommended : result.recommendations =
      result.indicators.map fun i => i.kind.recommendation := eraseDups_of_nodup honce
  exact {
    ordered := hwords ▸ hkinds.map IndicatorKind.word
    distinct := hwords ▸ hdistinct.map word_injective
    recommended := hrecommended
    recommendedOnce := hrecommended ▸ honce
    large := large_iff h
    counted := fun i hi hkind => counted_of_mem h hi hkind }

end

/-- A text has a result if its readings are usable. In the results of a scan every kind of indicator
stands once at most, in the order of the kinds and with its own recommendation. A file is large if
the meter or the text says so, and the meter is asked first for the number of its lines. -/
theorem scan_reports_kinds_once (meter : Meter) (t : Tree) (subject : Subject) :
    (∀ label text, (∃ result, scanText meter label text = .ok result) ↔ Usable (meter text)) ∧
    ∀ results, scan (.ready meter) t subject = .ok (.ok results) →
      List.Forall₂ (fun sample result => ∃ text, scannedText sample = .ok text ∧
        ReportsOnce (meter text) text result) (subject.withoutEmptyCode.samples t) results := by
  refine ⟨fun label text => exists_scanText, fun results hresults => ?_⟩
  have hsubject : subject.isEmpty = false := by
    by_contra hempty
    unfold scan at hresults
    dsimp only [scanMeter, Instruments.meter] at hresults
    rw [if_pos (by simpa using hempty)] at hresults
    exact nomatch Except.ok.inj hresults
  refine ((scan_eq_ok hsubject).mp hresults).imp fun sample result hresult => ?_
  obtain ⟨text, htext, hscanned⟩ := bind_eq_ok.mp hresult
  exact ⟨text, htext, reportsOnce_of_indicators (scanText_eq_ok.mp hscanned).2.2⟩

/-- Readings beyond every threshold. -/
def alarming : Readings :=
  ⟨.ok [.obj [("complexity", .int 8)]], .ok (.int 49), .ok .null, .ok (.obj [("loc", .int 1001)])⟩

def alarmingText : String := "global x; eval(print("

/-- The indicators of this text with these readings. -/
def alarms : List Indicator :=
  [⟨.highComplexity, [("count", .nat 1)]⟩, ⟨.lowMaintainability, [("mi", .int 49)]⟩,
    ⟨.largeFile, [("loc", .int 1001)]⟩, ⟨.globalState, []⟩, ⟨.dynamicEvaluation, []⟩,
    ⟨.printLogging, []⟩]

theorem largeFunction_alarming : largeFunction alarmingText = [] := by
  have hparse :
      ((Source.Program.parse alarmingText).toOption.bind longFunction?).isNone = true := by
    decide +kernel
  have hparagraph : longParagraph? alarmingText = none := by decide
  unfold largeFunction
  rw [Option.isNone_iff_eq_none.mp hparse, hparagraph]
  rfl

/-- A text that is no program, with six kinds of indicators. -/
theorem scan_reports_kinds_once_alarming : ∃ result,
    scan (.ready fun _ => alarming) ⟨[], []⟩ (.ofCode alarmingText) = .ok (.ok [result]) ∧
      ReportsOnce alarming alarmingText result ∧
      (result.indicators.map fun i => i.kind.word) =
        ["high_cc", "low_mi", "large_file", "global_or_any_usage", "dynamic_eval",
          "print_logging"] := by
  have hpart : Subject.IsPart ⟨[], []⟩ ⟨inputLabel, .ok alarmingText⟩ (.ofCode alarmingText) :=
    ⟨rfl, rfl⟩
  have hfound : indicators alarming alarmingText = .ok alarms := by
    unfold indicators
    rw [largeFunction_alarming]
    rfl
  obtain ⟨metrics, hmetrics⟩ : ∃ metrics, alarming.snapshot = .ok metrics := ⟨_, rfl⟩
  have hscanned : scanSample (fun _ => alarming) ⟨inputLabel, .ok alarmingText⟩ =
      .ok ⟨inputLabel, metrics, alarms⟩ :=
    bind_eq_ok.mpr ⟨alarmingText, rfl, scanText_eq_ok.mpr ⟨rfl, hmetrics, hfound⟩⟩
  have hscan := (scan_part_eq_ok hpart).mpr hscanned
  have hreports := (scan_reports_kinds_once _ _ _).2 _ hscan
  rw [hpart.samples, List.forall₂_cons] at hreports
  obtain ⟨⟨text, htext, hreported⟩, -⟩ := hreports
  obtain rfl : alarmingText = text := Except.ok.inj htext
  exact ⟨_, hscan, hreported, rfl⟩

end DesignLens.Scan
