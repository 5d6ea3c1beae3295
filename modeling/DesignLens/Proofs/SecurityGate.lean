import DesignLens.Pipeline.Security
import DesignLens.Proofs.Attempts
import DesignLens.Proofs.StageWork

/-!
# When the security checks succeed

The stage of the security checks succeeds if nothing breaks off and no issues are counted that it is
told to fail on. A scan of the code that fails, or whose report cannot be read, counts no issues. It
is a complaint but no reason to fail, so the stage succeeds although the code was not scanned,
unless dependencies are found to be vulnerable.
-/

namespace DesignLens.Pipeline

open Workspace Work

variable {check : SecurityCheck} {d : Draft} {folder : Option Path}

/-! ## Failures that are not those of another program -/

theorem isProcessFailure_get {v : Json} {name : String} {default : Json} {f : Failure}
    (h : v.get name default = .error f) : isProcessFailure f.kind = false := by
  cases v <;> cases h <;> rfl

theorem isProcessFailure_elements {v : Json} {f : Failure} (h : v.elements = .error f) :
    isProcessFailure f.kind = false := by
  cases v <;> cases h <;> rfl

theorem isProcessFailure_countSeverity {severity : String} {issues : List Json} {f : Failure}
    (h : countSeverity severity issues = .error f) : isProcessFailure f.kind = false := by
  rcases bind_eq_error.mp h with hmap | ⟨found, -, hpure⟩
  · obtain ⟨before, issue, after, -, -, hissue⟩ := mapM_eq_error.mp hmap
    exact isProcessFailure_get hissue
  · exact nomatch hpure

/-- A report in which the issues cannot be found is not taken for a scanner that failed. -/
theorem isProcessFailure_ofReport {report : Json} {f : Failure}
    (h : CodeScan.ofReport report = .error f) : isProcessFailure f.kind = false := by
  unfold CodeScan.ofReport at h
  rcases bind_eq_error.mp h with hget | ⟨results, -, h⟩
  · exact isProcessFailure_get hget
  rcases bind_eq_error.mp h with helements | ⟨issues, -, h⟩
  · exact isProcessFailure_elements helements
  rcases bind_eq_error.mp h with hhigh | ⟨high, -, h⟩
  · exact isProcessFailure_countSeverity hhigh
  rcases bind_eq_error.mp h with hmedium | ⟨medium, -, h⟩
  · exact isProcessFailure_countSeverity hmedium
  · exact nomatch h

/-- A report with a number that is too long is neither taken for a scanner that failed nor for one
that is missing. -/
theorem kind_of_ofString {text : String} {f : Failure}
    (h : ReportText.ofString text = .error f) : f.kind = .badValue := by
  unfold ReportText.ofString at h
  split_ifs at h
  split at h
  · exact nomatch h
  · split at h
    · exact Except.error.inj h ▸ rfl
    · exact nomatch h

theorem exec_reported (answer : ProcessOutput) (d : Draft) :
    exec (reported answer) d = (ReportText.ofString answer.stdout, d) :=
  exec_ofExcept _ d

/-! ## What the scans come to -/

/-- What the scan of the code comes to, by the answer of the scanner. -/
def codeScanOf : Except Failure ProcessOutput → Except Failure CodeScan
  | .error f => if isProcessFailure f.kind then .ok (scannerFailed f.message) else .error f
  | .ok answer => do
    match ← ReportText.ofString answer.stdout with
    | .nothing => .ok .clean
    | .unreadable message => .ok (scannerFailed message)
    | .value report => CodeScan.ofReport report

/-- What the scan of the dependencies comes to, by the answer of the scanner. -/
def dependencyScanOf : Except Failure ProcessOutput → Except Failure DependencyScan
  | .error f =>
    if isUnavailable f.kind then .ok (.skipped s!"Safety tool not available: {f.message}")
    else .error f
  | .ok answer =>
    if answer.exitCode ≠ 0 && Text.occurs "typer" answer.stderr then
      .ok (.skipped "Safety tool skipped due to compatibility issues")
    else do
      match ← ReportText.ofString answer.stdout with
      | .value report => .ok (.ofReport report)
      | _ => .ok .nothing

/-- How a scan of the code goes: it comes to what the answer of the scanner says, or breaks off
because its report cannot be saved. -/
theorem exec_scanCode (folder : Option Path) (d : Draft) :
    ∃ ending d', exec (scanCode folder) d = (ending, d') ∧ Answered d d' ∧
      (ending = codeScanOf (d.world.processes.answerAt 0) ∨
        folder ≠ none ∧ ∃ f, ending = .error f) := by
  obtain ⟨d₁, hcommand, hd₁⟩ :=
    exec_command_answered ["uv", "run", "bandit", "-r", "src/", "-f", "json", "-q"] d
  unfold scanCode
  cases hanswer : d.world.processes.answerAt 0 with
  | error f =>
    rw [hanswer] at hcommand
    exact ⟨_, _, exec_recover_of_error (exec_bind_of_error hcommand), hd₁, Or.inl rfl⟩
  | ok answer =>
    rw [hanswer] at hcommand
    rw [exec_recover_bind hcommand]
    simp only [codeScanOf]
    have hreported := exec_reported answer d₁
    rcases hreport : ReportText.ofString answer.stdout with f | report
    · rw [hreport] at hreported
      refine ⟨_, _, exec_recover_of_error (exec_bind_of_error hreported), hd₁, Or.inl ?_⟩
      rw [kind_of_ofString hreport]
      rfl
    rw [hreport] at hreported
    rw [exec_recover_bind hreported]
    cases report with
    | nothing => exact ⟨_, _, exec_recover_of_ok (exec_pure _ _), hd₁, Or.inl rfl⟩
    | unreadable message => exact ⟨_, _, exec_recover_of_ok (exec_pure _ _), hd₁, Or.inl rfl⟩
    | value report =>
      simp only
      have hscan := exec_ofExcept (CodeScan.ofReport report) d₁
      cases hofReport : CodeScan.ofReport report with
      | error f =>
        rw [hofReport] at hscan
        refine ⟨_, _, exec_recover_of_error (exec_bind_of_error hscan), hd₁, Or.inl ?_⟩
        rw [isProcessFailure_ofReport hofReport]
        exact hofReport.symm
      | ok scan =>
        rw [hofReport] at hscan
        rw [exec_recover_bind hscan]
        obtain ⟨saved, d₂, hsave, hfiles, hsaved⟩ :=
          exec_save folder "bandit-report.json" answer.stdout d₁
        rcases hsaved with rfl | ⟨hfolder, f, rfl, hkind⟩
        · rw [exec_recover_bind hsave]
          exact ⟨_, _, exec_recover_of_ok (exec_pure _ _), hd₁.filesOnly hfiles,
            Or.inl hofReport.symm⟩
        · refine ⟨_, _, exec_recover_of_error (exec_bind_of_error hsave), hd₁.filesOnly hfiles,
            Or.inr ⟨hfolder, f, ?_⟩⟩
          rw [hkind]
          rfl

/-- How a scan of the dependencies goes: without a folder for reports it comes to what the answer of
the scanner says. A folder that is missing is taken for a scanner that is missing. -/
theorem exec_scanDependencies (folder : Option Path) (d : Draft) :
    ∃ ending d', exec (scanDependencies folder) d = (ending, d') ∧ Answered d d' ∧
      (ending = dependencyScanOf (d.world.processes.answerAt 0) ∨ folder ≠ none) := by
  obtain ⟨d₁, hcommand, hd₁⟩ := exec_command_answered ["uv", "run", "safety", "check", "--json"] d
  unfold scanDependencies
  cases hanswer : d.world.processes.answerAt 0 with
  | error f =>
    rw [hanswer] at hcommand
    exact ⟨_, _, exec_recover_of_error (exec_bind_of_error hcommand), hd₁, Or.inl rfl⟩
  | ok answer =>
    rw [hanswer] at hcommand
    rw [exec_recover_bind hcommand]
    simp only [dependencyScanOf]
    split
    · exact ⟨_, _, exec_recover_of_ok (exec_pure _ _), hd₁, Or.inl rfl⟩
    have hreported := exec_reported answer d₁
    rcases hreport : ReportText.ofString answer.stdout with f | report
    · rw [hreport] at hreported
      refine ⟨_, _, exec_recover_of_error (exec_bind_of_error hreported), hd₁, Or.inl ?_⟩
      rw [kind_of_ofString hreport]
      rfl
    rw [hreport] at hreported
    rw [exec_recover_bind hreported]
    cases report with
    | nothing => exact ⟨_, _, exec_recover_of_ok (exec_pure _ _), hd₁, Or.inl rfl⟩
    | unreadable message => exact ⟨_, _, exec_recover_of_ok (exec_pure _ _), hd₁, Or.inl rfl⟩
    | value report =>
      obtain ⟨saved, d₂, hsave, hfiles, hsaved⟩ :=
        exec_save folder "safety-report.json" answer.stdout d₁
      rcases hsaved with rfl | ⟨hfolder, f, rfl, -⟩
      · rw [exec_recover_bind hsave]
        exact ⟨_, _, exec_recover_of_ok (exec_pure _ _), hd₁.filesOnly hfiles, Or.inl rfl⟩
      · exact ⟨_, _, exec_recover_of_error (exec_bind_of_error hsave), hd₁.filesOnly hfiles,
          Or.inr hfolder⟩

/-! ## What the stage comes to -/

/-- No issues are counted that the stage is told to fail on. -/
structure SecurityCheck.Passes (check : SecurityCheck) (code : CodeScan)
    (packages : DependencyScan) : Prop where
  severe : check.failOnHigh = true → code.high = 0 ∧ packages.count = 0
  medium : check.failOnMedium = true → code.medium = 0

theorem SecurityCheck.verdict_eq_nil_iff {code : CodeScan} {packages : DependencyScan} :
    check.verdict code packages = [] ↔ check.Passes code packages := by
  have hpasses : check.Passes code packages ↔
      (check.failOnHigh = true → code.high = 0 ∧ packages.count = 0) ∧
        (check.failOnMedium = true → code.medium = 0) :=
    ⟨fun h => ⟨h.severe, h.medium⟩, fun h => ⟨h.1, h.2⟩⟩
  rw [hpasses, SecurityCheck.verdict, List.append_eq_nil_iff]
  refine and_congr ?_ ?_
  · cases check.failOnHigh <;> simp
  · cases check.failOnMedium <;> simp

/-- All that the stage notes when it comes to its end. -/
def findings (code : CodeScan) (packages : DependencyScan) : Table Json :=
  [("bandit", code.toJson), ("safety", packages.toJson),
    ("summary", .obj [("high_severity_issues", .nat code.high),
      ("medium_severity_issues", .nat code.medium),
      ("vulnerable_dependencies", .nat packages.count),
      ("total_issues", .nat (code.high + code.medium + packages.count))])]

/-- What is left to do when both scans are made. -/
def conclude (check : SecurityCheck) (code : CodeScan) (packages : DependencyScan) : Work Bool := do
  put "safety" packages.toJson
  complain (check.verdict code packages)
  put "summary" (.obj [("high_severity_issues", .nat code.high),
    ("medium_severity_issues", .nat code.medium),
    ("vulnerable_dependencies", .nat packages.count),
    ("total_issues", .nat (code.high + code.medium + packages.count))])
  return (check.verdict code packages).isEmpty

theorem exec_conclude (check : SecurityCheck) {code : CodeScan} (packages : DependencyScan)
    (houtput : d.output = [("bandit", code.toJson)]) :
    exec (conclude check code packages) d = (.ok (check.verdict code packages).isEmpty,
      { d with output := findings code packages,
               errors := d.errors ++ check.verdict code packages }) := by
  obtain ⟨w, output, errors, artifacts⟩ := d
  obtain rfl : output = _ := houtput
  rfl

/-- How the work of the stage ends: with the verdict on what the two scans come to, or with a
failure of one of them. -/
theorem SecurityCheck.exec_work (check : SecurityCheck) (w : World) :
    ∃ ending d, exec check.work (.blank w) = (ending, d) ∧
      ((∃ code packages, codeScanOf (w.processes.answerAt 0) = .ok code ∧
          (dependencyScanOf (w.processes.answerAt 1) = .ok packages ∨ check.folder ≠ none) ∧
          ending = .ok (check.verdict code packages).isEmpty ∧
          d.output = findings code packages ∧
          d.errors = code.problem.toList ++ check.verdict code packages) ∨
        ∃ f, ending = .error f ∧ (codeScanOf (w.processes.answerAt 0) = .error f ∨
          dependencyScanOf (w.processes.answerAt 1) = .error f ∨ check.folder ≠ none)) := by
  have hwork : check.work = (do
      ensureFolder check.folder
      let code ← scanCode check.folder
      put "bandit" code.toJson
      complain code.problem.toList
      let packages ← scanDependencies check.folder
      conclude check code packages) := rfl
  rw [hwork]
  obtain ⟨made, d₀, hmake, hfiles, rfl | ⟨hfolder, f, rfl⟩⟩ :=
    exec_ensureFolder check.folder (.blank w)
  case inr => exact ⟨_, _, exec_bind_of_error hmake, Or.inr ⟨f, rfl, Or.inr (Or.inr hfolder)⟩⟩
  rw [exec_bind_of_ok hmake]
  obtain ⟨scanned, d₁, hscan, hd₁, hscanned⟩ := exec_scanCode check.folder d₀
  rw [hfiles.processes] at hscanned
  have houtput : d₁.output = [] := hd₁.output.trans hfiles.output
  have herrors : d₁.errors = [] := hd₁.errors.trans hfiles.errors
  have hrest : d₁.world.processes.answerAt 0 = w.processes.answerAt 1 := by
    rw [hd₁.rest, hfiles.processes]
    rfl
  cases scanned with
  | error f =>
    refine ⟨_, _, exec_bind_of_error hscan, Or.inr ⟨f, rfl, ?_⟩⟩
    rcases hscanned with hcode | ⟨hfolder, -⟩
    · exact Or.inl hcode.symm
    · exact Or.inr (Or.inr hfolder)
  | ok code =>
    have hcode : codeScanOf (w.processes.answerAt 0) = .ok code := by
      rcases hscanned with hcode | ⟨-, f, hf⟩
      · exact hcode.symm
      · cases hf
    rw [exec_bind_of_ok hscan, exec_bind_of_ok (exec_put _ _ _),
      exec_bind_of_ok (exec_complain _ _)]
    obtain ⟨checked, d₂, hcheck, hd₂, hchecked⟩ := exec_scanDependencies check.folder
      { d₁ with output := Table.insert "bandit" code.toJson d₁.output,
                errors := d₁.errors ++ code.problem.toList }
    simp only [houtput, herrors, hrest, List.nil_append] at hcheck hd₂ hchecked ⊢
    cases checked with
    | error f =>
      refine ⟨_, _, exec_bind_of_error hcheck, Or.inr ⟨f, rfl, Or.inr ?_⟩⟩
      exact hchecked.imp_left Eq.symm
    | ok packages =>
      refine ⟨_, _, (exec_bind_of_ok hcheck).trans (exec_conclude check packages hd₂.output),
        Or.inl ⟨code, packages, hcode, hchecked.imp_left Eq.symm, rfl, rfl, ?_⟩⟩
      rw [hd₂.errors]

/-! ## Scanners that do not report -/

/-- The scanner failed, or its report cannot be read. -/
def Broken : Except Failure ProcessOutput → Prop
  | .error f => isProcessFailure f.kind = true
  | .ok answer => ∃ message, ReportText.ofString answer.stdout = .ok (.unreadable message)

theorem problem_of_ofReport {report : Json} {code : CodeScan}
    (h : CodeScan.ofReport report = .ok code) : code.problem = none := by
  unfold CodeScan.ofReport at h
  obtain ⟨results, -, h⟩ := bind_eq_ok.mp h
  obtain ⟨issues, -, h⟩ := bind_eq_ok.mp h
  obtain ⟨high, -, h⟩ := bind_eq_ok.mp h
  obtain ⟨medium, -, h⟩ := bind_eq_ok.mp h
  obtain rfl := Except.ok.inj h
  rfl

/-- A scan that breaks counts no issues. -/
theorem codeScanOf_of_broken {answer : Except Failure ProcessOutput} (h : Broken answer) :
    ∃ message, codeScanOf answer = .ok (scannerFailed message) := by
  cases answer with
  | error f => exact ⟨f.message, if_pos h⟩
  | ok answer =>
    obtain ⟨message, hmessage⟩ := h
    exact ⟨message, by rw [codeScanOf, hmessage]; rfl⟩

theorem succeeded_iff_not_broken {answer : Except Failure ProcessOutput} {code : CodeScan}
    (h : codeScanOf answer = .ok code) : code.succeeded = true ↔ ¬ Broken answer := by
  constructor
  · intro hsucceeded hbroken
    obtain ⟨message, hmessage⟩ := codeScanOf_of_broken hbroken
    obtain rfl := Except.ok.inj (h.symm.trans hmessage)
    exact Bool.false_ne_true hsucceeded
  · intro hbroken
    cases answer with
    | error f => exact nomatch (if_neg hbroken).symm.trans h
    | ok answer =>
      obtain ⟨report, hreport, h⟩ := bind_eq_ok.mp h
      cases report with
      | nothing =>
        obtain rfl := Except.ok.inj h
        rfl
      | unreadable message => exact absurd ⟨message, hreport⟩ hbroken
      | value report =>
        unfold CodeScan.succeeded
        rw [problem_of_ofReport h]
        rfl

/-- The scanner does not say what it found: it breaks, or it writes nothing, whatever its exit code
is. -/
def Wordless (answer : Except Failure ProcessOutput) : Prop :=
  Broken answer ∨ ∃ a, answer = .ok a ∧ a.stdout = ""

theorem codeScanOf_of_wordless {answer : Except Failure ProcessOutput} (h : Wordless answer) :
    ∃ code, codeScanOf answer = .ok code ∧ code.high = 0 ∧ code.medium = 0 := by
  rcases h with hbroken | ⟨a, rfl, hstdout⟩
  · obtain ⟨message, hmessage⟩ := codeScanOf_of_broken hbroken
    exact ⟨_, hmessage, rfl, rfl⟩
  · refine ⟨.clean, ?_, rfl, rfl⟩
    simp only [codeScanOf, hstdout]
    rfl

/-! ## Success of the stage -/

/-- The stage has a result, and it is a success. -/
def SecurityCheck.Succeeds (check : SecurityCheck) (w : World) : Prop :=
  ∃ w' r, check.run w = (w', .ok r) ∧ r.succeeded = true

/-- A successful result belongs to scans that were made and in which nothing was counted that the
stage fails on. -/
theorem SecurityCheck.exists_scans_of_succeeded {w w' : World} {r : StageResult}
    (hrun : check.run w = (w', .ok r)) (hsucceeded : r.succeeded = true) :
    ∃ code packages, codeScanOf (w.processes.answerAt 0) = .ok code ∧
      (dependencyScanOf (w.processes.answerAt 1) = .ok packages ∨ check.folder ≠ none) ∧
      check.Passes code packages ∧ r.output = .obj (findings code packages) ∧
      r.errors = .strings code.problem.toList := by
  unfold SecurityCheck.run at hrun
  obtain ⟨ending, d, hexec, ⟨code, packages, hcode, hpackages, rfl, houtput, herrors⟩ |
    ⟨f, rfl, -⟩⟩ := check.exec_work w
  · rw [toResult_of_ok hexec] at hrun
    obtain rfl := Except.ok.inj (congrArg Prod.snd hrun)
    have hverdict : check.verdict code packages = [] := List.isEmpty_iff.mp hsucceeded
    refine ⟨code, packages, hcode, hpackages, verdict_eq_nil_iff.mp hverdict, ?_, ?_⟩
    · exact congrArg Json.obj houtput
    · rw [hverdict, List.append_nil] at herrors
      exact congrArg Json.strings herrors
  · rw [StageResult.succeeded, (result_of_error hexec hrun).1] at hsucceeded
    exact absurd hsucceeded Bool.false_ne_true

/-- Without a folder for reports, the stage succeeds if the scans are made and nothing is counted
that it fails on. -/
theorem SecurityCheck.succeeds_of_scans {w : World} (hfolder : check.folder = none)
    {code : CodeScan} {packages : DependencyScan}
    (hcode : codeScanOf (w.processes.answerAt 0) = .ok code)
    (hpackages : dependencyScanOf (w.processes.answerAt 1) = .ok packages)
    (hpasses : check.Passes code packages) : check.Succeeds w := by
  obtain ⟨ending, d, hexec, ⟨code', packages', hcode', hpackages', rfl, -, -⟩ | ⟨f, rfl, hf⟩⟩ :=
    check.exec_work w
  · refine ⟨_, _, toResult_of_ok hexec, ?_⟩
    obtain rfl := Except.ok.inj (hcode.symm.trans hcode')
    obtain rfl := Except.ok.inj (hpackages.symm.trans (hpackages'.resolve_right (· hfolder)))
    exact List.isEmpty_iff.mpr (verdict_eq_nil_iff.mpr hpasses)
  · rcases hf with hf | hf | hf
    · cases hcode.symm.trans hf
    · cases hpackages.symm.trans hf
    · exact absurd hfolder hf

theorem SecurityCheck.succeeds_iff {w : World} (hfolder : check.folder = none) :
    check.Succeeds w ↔ ∃ code packages, codeScanOf (w.processes.answerAt 0) = .ok code ∧
      dependencyScanOf (w.processes.answerAt 1) = .ok packages ∧ check.Passes code packages := by
  constructor
  · rintro ⟨w', r, hrun, hsucceeded⟩
    obtain ⟨code, packages, hcode, hpackages, hpasses, -, -⟩ :=
      exists_scans_of_succeeded hrun hsucceeded
    exact ⟨code, packages, hcode, hpackages.resolve_right (· hfolder), hpasses⟩
  · rintro ⟨code, packages, hcode, hpackages, hpasses⟩
    exact succeeds_of_scans hfolder hcode hpackages hpasses

/-- A scanner of the code that does not say what it found leaves the verdict to the scan of the
dependencies. -/
theorem SecurityCheck.succeeds_iff_of_wordless {w : World} (hfolder : check.folder = none)
    (hwordless : Wordless (w.processes.answerAt 0)) :
    check.Succeeds w ↔ ∃ packages, dependencyScanOf (w.processes.answerAt 1) = .ok packages ∧
      (check.failOnHigh = true → packages.count = 0) := by
  obtain ⟨code, hcode, hhigh, hmedium⟩ := codeScanOf_of_wordless hwordless
  rw [succeeds_iff hfolder]
  constructor
  · rintro ⟨_, packages, -, hpackages, hpasses⟩
    exact ⟨packages, hpackages, fun h => (hpasses.severe h).2⟩
  · rintro ⟨packages, hpackages, hcount⟩
    exact ⟨code, packages, hcode, hpackages, fun h => ⟨hhigh, hcount h⟩, fun _ => hmedium⟩

/-- Success of the security checks says that nothing was counted that they are told to fail on. It
does not say that the code was scanned: if the scanner breaks, the result has its complaint and is a
success nevertheless, and without a folder for reports only vulnerable dependencies, or a scan of
them that fails altogether, can prevent that. -/
theorem SecurityCheck.success_goes_by_counts (check : SecurityCheck) (w : World) :
    (∀ w' r, check.run w = (w', .ok r) → r.succeeded = true →
      ∃ code packages, codeScanOf (w.processes.answerAt 0) = .ok code ∧
        check.Passes code packages ∧ r.output = .obj (findings code packages) ∧
        r.errors = .strings code.problem.toList ∧
        (code.succeeded = true ↔ ¬ Broken (w.processes.answerAt 0))) ∧
    (check.folder = none →
      (check.Succeeds w ↔ ∃ code packages, codeScanOf (w.processes.answerAt 0) = .ok code ∧
        dependencyScanOf (w.processes.answerAt 1) = .ok packages ∧
        check.Passes code packages)) ∧
    (check.folder = none → Wordless (w.processes.answerAt 0) →
      (check.Succeeds w ↔ ∃ packages,
        dependencyScanOf (w.processes.answerAt 1) = .ok packages ∧
        (check.failOnHigh = true → packages.count = 0))) := by
  refine ⟨?_, succeeds_iff, succeeds_iff_of_wordless⟩
  intro w' r hrun hsucceeded
  obtain ⟨code, packages, hcode, -, hpasses, houtput, herrors⟩ :=
    exists_scans_of_succeeded hrun hsucceeded
  exact ⟨code, packages, hcode, hpasses, houtput, herrors, succeeded_iff_not_broken hcode⟩

/-- A scanner of the code that ends with something that is no report. -/
def crashing : World := ⟨⟨[], []⟩, ⟨[.ok ⟨1, "Traceback", ""⟩], []⟩⟩

/-- A stage that fails on every finding. -/
def strict : SecurityCheck := ⟨.str "Security Scanning", none, true, true⟩

theorem broken_crashing : Broken (crashing.processes.answerAt 0) := by
  refine ⟨"Expecting value: line 1 column 1 (char 0)", ?_⟩
  rfl

/-- The strictest checks succeed although the scanner crashed, with a complaint. -/
theorem crashed_scanner_succeeds :
    ∃ w' r packages, strict.run crashing = (w', .ok r) ∧ r.succeeded = true ∧
      (scannerFailed "Expecting value: line 1 column 1 (char 0)").succeeded = false ∧
      r.output = .obj (findings (scannerFailed "Expecting value: line 1 column 1 (char 0)")
        packages) := by
  have hsucceeds : strict.Succeeds crashing :=
    (SecurityCheck.succeeds_iff_of_wordless rfl (Or.inl broken_crashing)).mpr
      ⟨.nothing, rfl, fun _ => rfl⟩
  obtain ⟨w', r, hrun, hsucceeded⟩ := hsucceeds
  obtain ⟨code, packages, hcode, -, -, houtput, -⟩ :=
    SecurityCheck.exists_scans_of_succeeded hrun hsucceeded
  obtain rfl : code = scannerFailed "Expecting value: line 1 column 1 (char 0)" :=
    Except.ok.inj (hcode.symm.trans rfl)
  exact ⟨w', r, packages, hrun, hsucceeded, rfl, houtput⟩

end DesignLens.Pipeline
