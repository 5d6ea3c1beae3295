import DesignLens.Pipeline.Work

/-!
# Security checks

One scanner looks at the code and another one at the packages it depends on. Severe findings make
the stage fail if it is told so. A scan of the code that breaks off is a complaint, a scan of the
dependencies that breaks off only a warning.
-/

namespace DesignLens.Pipeline

open Workspace Work

structure SecurityCheck where
  name : Json
  folder : Option Path
  failOnHigh : Bool
  failOnMedium : Bool

def securityParameters : List Arguments.Parameter :=
  [.optional "name", .optional "output_dir", .optional "fail_on_high", .optional "fail_on_medium"]

def SecurityCheck.ofArguments (arguments : Table Json) : Except Failure SecurityCheck :=
  match Arguments.callFailure? "SecurityStage.__init__" securityParameters arguments "self" with
  | some failure => .error failure
  | none => .ok
      { name := argumentD arguments "name" (.str "Security Scanning"),
        folder := folderOf arguments,
        failOnHigh := flagOf arguments "fail_on_high" true,
        failOnMedium := flagOf arguments "fail_on_medium" false }

/-- What the scanner of the code says: how many issues there are by severity, and its report. -/
structure CodeScan where
  problem : Option String
  high : Nat
  medium : Nat
  total : Nat
  report : Option Json

def CodeScan.clean : CodeScan := ⟨none, 0, 0, 0, none⟩

def CodeScan.failed (message : String) : CodeScan := { clean with problem := some message }

def CodeScan.succeeded (s : CodeScan) : Bool := s.problem.isNone

/-- The number of issues of a severity. -/
def countSeverity (severity : String) (issues : List Json) : Except Failure Nat := do
  let found ← issues.mapM fun issue => issue.get "issue_severity" .null
  return (found.filterMap Json.text?).count severity

def CodeScan.ofReport (report : Json) : Except Failure CodeScan := do
  let issues ← (← report.get "results" (.arr [])).elements
  return ⟨none, ← countSeverity "HIGH" issues, ← countSeverity "MEDIUM" issues, issues.length,
    some report⟩

def CodeScan.toJson (s : CodeScan) : Json :=
  .obj ([("success", .bool s.succeeded)] ++
    (s.problem.toList.map fun message => ("errors", Json.strings [message])) ++
    [("high_severity_count", .nat s.high), ("medium_severity_count", .nat s.medium),
      ("total_issues", .nat s.total)] ++
    s.report.toList.map fun report => ("report_data", report))

def scannerFailed (message : String) : CodeScan := .failed s!"Bandit error: {message}"

/-- Scans the code. -/
def scanCode (folder : Option Path) : Work CodeScan :=
  recover isProcessFailure (fun f => scannerFailed f.message) do
    let answer ← command ["uv", "run", "bandit", "-r", "src/", "-f", "json", "-q"]
    match ← reported answer with
    | .nothing => return .clean
    | .unreadable message => return scannerFailed message
    | .value report =>
      let scan ← MonadExcept.ofExcept (CodeScan.ofReport report)
      save folder "bandit-report.json" answer.stdout
      return scan

/-- What the scanner of the dependencies says. -/
structure DependencyScan where
  count : Nat
  vulnerabilities : Json
  warning : Option String

def DependencyScan.nothing : DependencyScan := ⟨0, .arr [], none⟩

def DependencyScan.skipped (warning : String) : DependencyScan :=
  { nothing with warning := some warning }

/-- Only a list of vulnerabilities is counted. -/
def DependencyScan.ofReport : Json → DependencyScan
  | .arr items => ⟨items.length, .arr items, none⟩
  | other => ⟨0, other, none⟩

def DependencyScan.toJson (s : DependencyScan) : Json :=
  .obj ([("success", .bool true), ("vulnerabilities_count", .nat s.count),
    ("vulnerabilities", s.vulnerabilities)] ++
    s.warning.toList.map fun warning => ("warning", Json.str warning))

/-- Whether a program could not be started or did not succeed. -/
def isUnavailable (kind : FailureKind) : Bool :=
  kind == .processFailed || kind == .system (some .missing)

/-- Scans the dependencies. -/
def scanDependencies (folder : Option Path) : Work DependencyScan :=
  recover isUnavailable (fun f => .skipped s!"Safety tool not available: {f.message}") do
    let answer ← command ["uv", "run", "safety", "check", "--json"]
    if answer.exitCode ≠ 0 && Text.occurs "typer" answer.stderr then
      return .skipped "Safety tool skipped due to compatibility issues"
    match ← reported answer with
    | .value report =>
      save folder "safety-report.json" answer.stdout
      return .ofReport report
    | _ => return .nothing

/-- What the findings are to be blamed for. -/
def SecurityCheck.verdict (check : SecurityCheck) (code : CodeScan) (packages : DependencyScan) :
    List String :=
  (if check.failOnHigh && (0 < code.high || 0 < packages.count) then
    [s!"High severity issues found: {code.high} code issues, " ++
      s!"{packages.count} vulnerable dependencies"]
  else []) ++
  (if check.failOnMedium && 0 < code.medium then
    [s!"Medium severity issues found: {code.medium}"]
  else [])

def SecurityCheck.work (check : SecurityCheck) : Work Bool := do
  ensureFolder check.folder
  let code ← scanCode check.folder
  put "bandit" code.toJson
  complain code.problem.toList
  let packages ← scanDependencies check.folder
  put "safety" packages.toJson
  let verdict := check.verdict code packages
  complain verdict
  put "summary" (.obj [("high_severity_issues", .nat code.high),
    ("medium_severity_issues", .nat code.medium),
    ("vulnerable_dependencies", .nat packages.count),
    ("total_issues", .nat (code.high + code.medium + packages.count))])
  return verdict.isEmpty

def SecurityCheck.run (check : SecurityCheck) (w : World) : World × Except Failure StageResult :=
  check.work.toResult check.name "Security scanning error: " w

end DesignLens.Pipeline
