import DesignLens.Proofs.StageWork
import DesignLens.Proofs.TestCounts

/-!
# What the tests stage reports

The stage sums up what it read from the printed lines, or breaks off without a summary. So the
numbers that it reports for tests are those of the printed summary if a test failed, and zero if all
of them passed.
-/

namespace DesignLens

/-- The world in which the next program answers in a certain way. -/
def World.answering (w : World) (answer : ProcessOutput) : World :=
  { w with processes := { w.processes with queue := .ok answer :: w.processes.queue } }

theorem World.answerAt_answering (w : World) (answer : ProcessOutput) :
    (w.answering answer).processes.answerAt 0 = .ok answer := rfl

end DesignLens

namespace DesignLens.Pipeline

open Workspace Work Number

variable {check : TestCheck} {w : World} {d : Draft} {answer : ProcessOutput}

/-! ## The parts of the work -/

/-- Complains of too little coverage. -/
def judgeCoverage (check : TestCheck) (t : Tally) : Work Unit := do
  if ← MonadExcept.ofExcept ((Json.float t.coverage).less check.threshold) then
    let covered := t.coverage.writeFixed 1
    complain [s!"Coverage {covered}% below threshold {check.threshold.shown}%"]

/-- Runs the benchmarks if they are wanted. -/
def noteBenchmarks (check : TestCheck) : Work Unit := do
  if check.benchmarks then
    let benchmarks ← runBenchmarks check.folder
    put "benchmarks" benchmarks.toJson
    complain benchmarks.errors

def summaryOf (t : Tally) (meets : Bool) : Json :=
  .obj [("tests_passed", .int t.passed), ("tests_failed", .int t.failed),
    ("coverage_percent", .float t.coverage), ("coverage_meets_threshold", .bool meets)]

def summarize (check : TestCheck) (t : Tally) : Work Bool := do
  let meets ← MonadExcept.ofExcept ((Json.float t.coverage).atLeast check.threshold)
  put "summary" (summaryOf t meets)
  return (← get).errors.isEmpty

theorem TestCheck.work_eq (check : TestCheck) : check.work = (do
    ensureFolder check.folder
    let tests ← runTests check.folder check.parallel
    put "tests" tests.toJson
    complain tests.errors
    judgeCoverage check tests.tally
    noteBenchmarks check
    keepReports check.folder
    summarize check tests.tally) := by
  unfold TestCheck.work judgeCoverage noteBenchmarks summarize summaryOf
  simp only [bind_assoc]
  congr 1; funext _
  congr 1; funext tests
  congr 1; funext _
  congr 1; funext _
  congr 1; funext low
  cases low <;> cases check.benchmarks <;> simp

theorem exec_runTests (h : d.world.processes.answerAt 0 = .ok answer) (folder : Option Path)
    (parallel : Bool) :
    ∃ ending d', exec (runTests folder parallel) d = (ending, d') ∧ Answered d d' ∧
      (ending = .ok (.ofProcess answer) ∨ folder ≠ none ∧ ∃ f, ending = .error f) := by
  obtain ⟨d₁, hcommand, hd₁⟩ := exec_command_answered (testCommand folder parallel) d
  rw [h] at hcommand
  unfold runTests
  rw [exec_recover_bind hcommand]
  obtain ⟨saved, d₂, hsave, hfiles, hsaved⟩ :=
    exec_save folder "pytest-output.txt" (answer.stdout ++ "\n" ++ answer.stderr) d₁
  rcases hsaved with rfl | ⟨hfolder, f, rfl, hkind⟩
  · rw [exec_recover_bind hsave]
    exact ⟨_, _, exec_recover_of_ok (exec_pure _ _), hd₁.filesOnly hfiles, Or.inl rfl⟩
  · refine ⟨_, _, exec_recover_of_error (exec_bind_of_error hsave), hd₁.filesOnly hfiles,
      Or.inr ⟨hfolder, f, ?_⟩⟩
    rw [hkind]
    rfl

/-! ## The summary is written last -/

theorem spares_judgeCoverage (t : Tally) : Spares "summary" (judgeCoverage check t) := by
  refine (spares_ofExcept _).bind fun low => ?_
  cases low
  · exact spares_pure _
  · exact spares_complain _

theorem spares_collectBenchmarks (folder : Option Path) :
    Spares "summary" (collectBenchmarks folder) := by
  refine (spares_look _).bind fun found => ?_
  cases found
  · exact spares_pure _
  refine (spares_look _).bind fun text => ?_
  cases Json.read text with
  | error fault => exact spares_throw _
  | ok data =>
    cases folder with
    | none => exact spares_pure _
    | some folder => exact (spares_change _).bind fun _ => spares_pure _

theorem spares_noteBenchmarks : Spares "summary" (noteBenchmarks check) := by
  unfold noteBenchmarks
  cases check.benchmarks
  · exact spares_pure _
  have hrun : Spares "summary" (runBenchmarks check.folder) :=
    ((spares_command _).bind fun _ =>
      (spares_collectBenchmarks check.folder).bind fun _ => spares_pure _).recover
  exact hrun.bind fun _ => (spares_put (by decide) _).bind fun _ => spares_complain _

theorem spares_keepReports (folder : Option Path) : Spares "summary" (keepReports folder) := by
  cases folder with
  | none => exact spares_pure _
  | some folder =>
    unfold keepReports
    refine (spares_forIn fun name _ => (spares_look _).bind fun found => ?_).bind fun _ =>
      spares_pure _
    cases found
    · exact spares_pure _
    · exact (spares_keep _).bind fun _ => spares_pure _

theorem leads_summarize (check : TestCheck) (t : Tally) :
    Leads (fun d => Table.find? "summary" d.output = none) (summarize check t)
      (fun _ d => ∃ meets, Table.find? "summary" d.output = some (summaryOf t meets))
      (fun d => Table.find? "summary" d.output = none) := by
  intro d hd
  have hmeets := exec_ofExcept ((Json.float t.coverage).atLeast check.threshold) d
  unfold summarize
  cases hanswer : (Json.float t.coverage).atLeast check.threshold with
  | error f =>
    rw [hanswer] at hmeets
    rw [exec_bind_of_error hmeets]
    exact hd
  | ok meets =>
    rw [hanswer] at hmeets
    rw [exec_bind_of_ok hmeets]
    exact ⟨meets, Table.find?_insert_self _ _ _⟩

/-- The work ends with a summary of what was read, or breaks off without one. -/
theorem TestCheck.leads_work (check : TestCheck) (h : w.processes.answerAt 0 = .ok answer) :
    Leads (· = .blank w) check.work
      (fun _ d => ∃ meets, Table.find? "summary" d.output =
        some (summaryOf (.ofText answer.stdout) meets))
      (fun d => Table.find? "summary" d.output = none) := by
  rintro d rfl
  rw [work_eq]
  obtain ⟨made, d₀, hmake, hfiles, hmade⟩ := exec_ensureFolder check.folder (.blank w)
  have hnone : Table.find? "summary" d₀.output = none := by
    rw [hfiles.output]
    rfl
  rcases hmade with rfl | ⟨-, f, rfl⟩
  case inr =>
    rw [exec_bind_of_error hmake]
    exact hnone
  have hnext : d₀.world.processes.answerAt 0 = .ok answer := by
    rw [hfiles.processes]
    exact h
  obtain ⟨ran, d₁, hrun, hd₁, hran⟩ := exec_runTests hnext check.folder check.parallel
  have hstill : Table.find? "summary" d₁.output = none := by rw [hd₁.output, hnone]
  rw [exec_bind_of_ok hmake]
  rcases hran with rfl | ⟨-, f, rfl⟩
  case inr =>
    rw [exec_bind_of_error hrun]
    exact hstill
  rw [exec_bind_of_ok hrun]
  -- From here on nothing but the last step touches the summary.
  have htests : Spares "summary" (put "tests" (TestOutcome.ofProcess answer).toJson) :=
    spares_put (by decide) _
  refine (htests.leads none).bind (fun _ => ?_) d₁ hstill
  refine ((spares_complain _).leads none).bind fun _ => ?_
  refine ((spares_judgeCoverage _).leads none).bind fun _ => ?_
  refine (spares_noteBenchmarks.leads none).bind fun _ => ?_
  exact ((spares_keepReports _).leads none).bind fun _ => leads_summarize check _

theorem exec_judgeCoverage {t : Tally} {low : Bool}
    (h : (Json.float t.coverage).less check.threshold = .ok low) (d : Draft) :
    ∃ d', exec (judgeCoverage check t) d = (.ok (), d') := by
  have hless := exec_ofExcept ((Json.float t.coverage).less check.threshold) d
  rw [h] at hless
  unfold judgeCoverage
  rw [h, exec_bind_of_ok hless]
  cases low
  · exact ⟨_, exec_pure _ _⟩
  · exact ⟨_, exec_complain _ _⟩

theorem exec_summarize {t : Tally} {meets : Bool}
    (h : (Json.float t.coverage).atLeast check.threshold = .ok meets) (d : Draft) :
    ∃ success d', exec (summarize check t) d = (.ok success, d') := by
  have hmeets := exec_ofExcept ((Json.float t.coverage).atLeast check.threshold) d
  rw [h] at hmeets
  unfold summarize
  rw [h, exec_bind_of_ok hmeets]
  exact ⟨_, _, rfl⟩

theorem exists_compareBy_eq_ok {x : Binary64} {v : Json} (h : v.exactValue? ≠ none) (sign : String)
    (holds : Json.Exact → Json.Exact → Bool) :
    ∃ b, Json.compareBy sign holds (.float x) v = .ok b := by
  obtain ⟨y, hy⟩ := Option.ne_none_iff_exists'.mp h
  unfold Json.compareBy
  rw [hy]
  exact ⟨_, rfl⟩

/-- Without a folder and benchmarks nothing but the threshold can make the work break off. -/
theorem TestCheck.exists_exec_work (h : w.processes.answerAt 0 = .ok answer)
    (hfolder : check.folder = none) (hbenchmarks : check.benchmarks = false)
    (hthreshold : check.threshold.exactValue? ≠ none) :
    ∃ success d, exec check.work (.blank w) = (.ok success, d) := by
  have hmake : exec (ensureFolder check.folder) (.blank w) = (.ok (), .blank w) := by
    rw [hfolder]
    rfl
  have hnote : ∀ d, exec (noteBenchmarks check) d = (.ok (), d) := by
    intro d
    unfold noteBenchmarks
    rw [hbenchmarks]
    rfl
  have hkeep : ∀ d, exec (keepReports check.folder) d = (.ok (), d) := by
    rw [hfolder]
    exact fun _ => rfl
  obtain ⟨ran, d₁, hrun, -, hran⟩ := exec_runTests (d := .blank w) h check.folder check.parallel
  obtain rfl := hran.resolve_right fun hbroken => hbroken.1 hfolder
  obtain ⟨low, hlow⟩ := exists_compareBy_eq_ok hthreshold "<" fun x y => x.lt y
  obtain ⟨meets, hmeets⟩ := exists_compareBy_eq_ok hthreshold ">=" fun x y => y.le x
  rw [work_eq, exec_bind_of_ok hmake, exec_bind_of_ok hrun, exec_bind_of_ok (exec_put _ _ _),
    exec_bind_of_ok (exec_complain _ _)]
  obtain ⟨d₂, hjudge⟩ := exec_judgeCoverage hlow _
  obtain ⟨success, d₃, hsummarize⟩ := exec_summarize hmeets d₂
  exact ⟨success, d₃, (exec_bind_of_ok hjudge).trans ((exec_bind_of_ok (hnote _)).trans
    ((exec_bind_of_ok (hkeep _)).trans hsummarize))⟩

/-! ## Results -/

/-- A result reports how many tests passed and failed. -/
def StageResult.Reports (result : StageResult) (passed failed : Int) : Prop :=
  ∃ findings summary, result.output = .obj findings ∧
    Table.find? "summary" findings = some (.obj summary) ∧
    Table.find? "tests_passed" summary = some (.int passed) ∧
    Table.find? "tests_failed" summary = some (.int failed)

theorem reports_iff {result : StageResult} {findings : Table Json} {t : Tally} {meets : Bool}
    (houtput : result.output = .obj findings)
    (hsummary : Table.find? "summary" findings = some (summaryOf t meets)) {passed failed : Int} :
    result.Reports passed failed ↔ t.passed = passed ∧ t.failed = failed := by
  constructor
  · rintro ⟨findings', summary, houtput', hsummary', hpassed, hfailed⟩
    obtain rfl := Json.obj.inj (houtput.symm.trans houtput')
    obtain rfl := Json.obj.inj (Option.some.inj (hsummary.symm.trans hsummary'))
    exact ⟨Json.int.inj (Option.some.inj hpassed), Json.int.inj (Option.some.inj hfailed)⟩
  · rintro ⟨rfl, rfl⟩
    exact ⟨findings, _, houtput, hsummary, rfl, rfl⟩

theorem not_reports {result : StageResult} {findings : Table Json}
    (houtput : result.output = .obj findings) (hsummary : Table.find? "summary" findings = none)
    (passed failed : Int) : ¬ result.Reports passed failed := by
  rintro ⟨findings', summary, houtput', hsummary', -⟩
  obtain rfl := Json.obj.inj (houtput.symm.trans houtput')
  cases hsummary.symm.trans hsummary'

/-- Every result reports what was read, or belongs to work that broke off and reports nothing. -/
theorem TestCheck.reports_of_run {w' : World} {result : StageResult}
    (h : w.processes.answerAt 0 = .ok answer) (hrun : check.run w = (w', .ok result)) :
    (∀ passed failed, result.Reports passed failed ↔
        (Tally.ofText answer.stdout).passed = passed ∧
          (Tally.ofText answer.stdout).failed = failed) ∨
      result.succeeded = false ∧ ∀ passed failed, ¬ result.Reports passed failed := by
  rcases (check.leads_work h).result hrun with
    ⟨success, d, ⟨meets, hsummary⟩, -, houtput⟩ | ⟨d, hnone, hsuccess, houtput⟩
  · exact Or.inl fun passed failed => reports_iff houtput hsummary
  · refine Or.inr ⟨?_, not_reports houtput hnone⟩
    rw [StageResult.succeeded, hsuccess]
    rfl

theorem TestCheck.exists_reports (h : w.processes.answerAt 0 = .ok answer)
    (hfolder : check.folder = none) (hbenchmarks : check.benchmarks = false)
    (hthreshold : check.threshold.exactValue? ≠ none) :
    ∃ w' result, check.run w = (w', .ok result) ∧
      ∀ passed failed, result.Reports passed failed ↔
        (Tally.ofText answer.stdout).passed = passed ∧
          (Tally.ofText answer.stdout).failed = failed := by
  obtain ⟨success, d, hexec⟩ := exists_exec_work h hfolder hbenchmarks hthreshold
  have hends := check.leads_work h _ rfl
  rw [hexec] at hends
  obtain ⟨meets, hsummary⟩ := hends
  exact ⟨_, _, toResult_of_ok hexec, fun passed failed => reports_iff rfl hsummary⟩

namespace Printout

/-- The number of tests that is taken for those that passed. -/
def counted (p : Printout) : Int := if p.failed = 0 then 0 else legible p.passed

/-- Both numbers can be read. -/
def Legible (p : Printout) : Prop :=
  (Nat.toDigits 10 p.passed).length ≤ digitLimit ∧ (Nat.toDigits 10 p.failed).length ≤ digitLimit

theorem counts_eq_iff {p : Printout} (h : p.Legible) :
    p.counted = p.passed ∧ legible p.failed = p.failed ↔ p.failed ≠ 0 ∨ p.passed = 0 := by
  obtain ⟨hpassed, hfailed⟩ := h
  rw [counted, legible, legible, if_pos hpassed, if_pos hfailed]
  split_ifs with hzero
  · simp [hzero, eq_comm]
  · simp [hzero]

/-- The summary of the stage has the numbers of the printed summary if a test failed. If none did,
it says that no test passed, whatever was printed. -/
theorem stage_counts_with_failures (p : Printout) (check : TestCheck) (code : Int)
    (stderr : String) (w : World) :
    (∀ w' result, check.run (w.answering ⟨code, p.text, stderr⟩) = (w', .ok result) →
      result.Reports p.counted (legible p.failed) ∨
        result.succeeded = false ∧ ∀ passed failed, ¬ result.Reports passed failed) ∧
    (check.folder = none → check.benchmarks = false → check.threshold.exactValue? ≠ none →
      ∃ w' result, check.run (w.answering ⟨code, p.text, stderr⟩) = (w', .ok result) ∧
        result.Reports p.counted (legible p.failed) ∧
        (p.Legible → (result.Reports p.passed p.failed ↔ p.failed ≠ 0 ∨ p.passed = 0))) := by
  have hanswer := w.answerAt_answering ⟨code, p.text, stderr⟩
  obtain ⟨hpassed, hfailed⟩ := p.ofText_text
  refine ⟨fun w' result hrun => ?_, fun hfolder hbenchmarks hthreshold => ?_⟩
  · exact (TestCheck.reports_of_run hanswer hrun).imp_left fun hreports =>
      (hreports _ _).mpr ⟨hpassed, hfailed⟩
  · obtain ⟨w', result, hrun, hreports⟩ :=
      TestCheck.exists_reports hanswer hfolder hbenchmarks hthreshold
    refine ⟨w', result, hrun, (hreports _ _).mpr ⟨hpassed, hfailed⟩, fun hlegible => ?_⟩
    rw [hreports, hpassed, hfailed]
    exact counts_eq_iff hlegible

/-- Three tests pass, and no other one is run. -/
def allPassed : Printout where
  earlier := []
  leftBar := 3
  failed := 0
  passed := 3
  time := "0.12s"
  rightBar := 3
  later := [""]
  unbroken := by decide
  uncounted := by decide
  quiet := by decide
  blank := by simp

/-- A stage that asks for no coverage. -/
def lenient : TestCheck := ⟨.str "Testing", none, .int 0, false, true⟩

/-- Three tests pass, and none are reported. -/
theorem passed_tests_uncounted :
    allPassed.text = "=== 3 passed in 0.12s ===\n" ∧
      ∃ w' result, lenient.run (World.answering ⟨⟨[], []⟩, ⟨[], []⟩⟩ ⟨0, allPassed.text, ""⟩) =
          (w', .ok result) ∧
        result.Reports 0 0 ∧ ¬ result.Reports allPassed.passed allPassed.failed := by
  refine ⟨by decide, ?_⟩
  have hanswer := World.answerAt_answering ⟨⟨[], []⟩, ⟨[], []⟩⟩ ⟨0, allPassed.text, ""⟩
  have hfolder : lenient.folder = none := rfl
  have hthreshold : lenient.threshold.exactValue? ≠ none := by simp [lenient, Json.exactValue?]
  obtain ⟨hpassed, hfailed⟩ := allPassed.ofText_text
  obtain ⟨w', result, hrun, hreports⟩ :=
    TestCheck.exists_reports hanswer hfolder rfl hthreshold
  refine ⟨w', result, hrun, ?_, ?_⟩
  · rw [hreports, hpassed, hfailed]
    exact ⟨rfl, rfl⟩
  · rw [hreports, hpassed]
    exact fun h => absurd h.1 (by decide)

end Printout

end DesignLens.Pipeline
