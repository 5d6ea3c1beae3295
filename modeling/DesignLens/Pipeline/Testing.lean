import DesignLens.Number.Literal
import DesignLens.Pipeline.Work

/-!
# Tests

The tests are run by another program, whose printed lines are searched for the number of tests
that passed and failed and for the coverage. The stage fails if a test fails, if too little is
covered or, when there are benchmarks to run, if these fail.
-/

namespace DesignLens.Pipeline

open Workspace Work Number

structure TestCheck where
  name : Json
  folder : Option Path
  threshold : Json
  benchmarks : Bool
  parallel : Bool

def testParameters : List Arguments.Parameter :=
  [.optional "name", .optional "output_dir", .optional "coverage_threshold",
    .optional "run_benchmarks", .optional "parallel"]

/-- The coverage that is asked for in percent, unless another one is given. -/
def usualThreshold : Json := .float (.ofInt 35)

def TestCheck.ofArguments (arguments : Table Json) : Except Failure TestCheck :=
  match Arguments.callFailure? "TestStage.__init__" testParameters arguments "self" with
  | some failure => .error failure
  | none => .ok
      { name := argumentD arguments "name" (.str "Testing"),
        folder := folderOf arguments,
        threshold := argumentD arguments "coverage_threshold" usualThreshold,
        benchmarks := flagOf arguments "run_benchmarks" false,
        parallel := flagOf arguments "parallel" true }

/-- How many tests passed and failed, and how much they cover in percent. -/
structure Tally where
  passed : Int
  failed : Int
  coverage : Binary64

def Tally.zero : Tally := ⟨0, 0, .zero false⟩

/-- A word that says what came of tests, with the word before it, which may be their number. -/
def Tally.countWord (t : Tally) (pair : String × String) : Tally :=
  if Text.occurs "passed" pair.2 then { t with passed := (readInt? pair.1).getD t.passed }
  else if Text.occurs "failed" pair.2 then { t with failed := (readInt? pair.1).getD t.failed }
  else t

/-- The coverage that a line gives in percent. -/
def coverageIn? (line : String) : Option Binary64 := do
  let stated ← (Text.pieces "Total coverage:" line)[1]?
  let number := Text.dropEndWhile (· == '%') (Text.trim stated).toList
  Binary64.read? (String.ofList number)

/-- Tests are counted in lines that speak of both those that passed and those that failed. -/
def Tally.countLine (t : Tally) (line : String) : Tally :=
  if Text.occurs "passed" line && Text.occurs "failed" line then
    let words := Text.words line
    (words.zip words.tail).foldl countWord t
  else if Text.occurs "Total coverage:" line then
    { t with coverage := (coverageIn? line).getD t.coverage }
  else t

def Tally.ofText (text : String) : Tally := (Text.pieces "\n" text).foldl countLine zero

/-- What came of the tests. -/
structure TestOutcome where
  success : Bool
  tally : Tally
  errors : List String
  printed : Option String

def TestOutcome.toJson (o : TestOutcome) : Json :=
  .obj ([("success", .bool o.success), ("passed", .int o.tally.passed),
    ("failed", .int o.tally.failed), ("coverage_percent", .float o.tally.coverage),
    ("errors", .strings o.errors)] ++ o.printed.toList.map fun text => ("output", Json.str text))

def testCommand (folder : Option Path) (parallel : Bool) : List String :=
  ["uv", "run", "pytest", "-v", "--cov=src/mcp_architecton", "--cov-report=xml",
    "--cov-report=term"] ++
  (if parallel then ["-n", "auto"] else []) ++
  match folder with
  | none => []
  | some folder =>
    ["--junit-xml", (folder.child "junit.xml").toString,
      "--cov-report=xml:" ++ (folder.child "coverage.xml").toString]

def TestOutcome.ofProcess (answer : ProcessOutput) : TestOutcome :=
  { success := answer.exitCode = 0,
    tally := .ofText answer.stdout,
    errors :=
      if answer.exitCode = 0 then []
      else [s!"Tests failed with return code {answer.exitCode}"],
    printed := some answer.stdout }

def runTests (folder : Option Path) (parallel : Bool) : Work TestOutcome :=
  recover isProcessFailure (fun f => ⟨false, .zero, [s!"Pytest error: {f.message}"], none⟩) do
    let answer ← command (testCommand folder parallel)
    save folder "pytest-output.txt" (answer.stdout ++ "\n" ++ answer.stderr)
    return .ofProcess answer

structure BenchmarkOutcome where
  data : Json
  errors : List String

def BenchmarkOutcome.toJson (o : BenchmarkOutcome) : Json :=
  .obj [("success", .bool o.errors.isEmpty), ("data", o.data), ("errors", .strings o.errors)]

/-- Where the benchmarks leave their measurements. -/
def benchmarkFile : Path := Path.ofString "benchmark.json"

/-- The measurements, which then move to the folder for reports. -/
def collectBenchmarks (folder : Option Path) : Work Json := do
  if ← look fun t => t.exists? benchmarkFile then
    let text ← look fun t => t.read benchmarkFile
    match Json.read text with
    | .error fault => throw (.badValue (fault.message text))
    | .ok data =>
      match folder with
      | none => return data
      | some folder =>
        change fun t => t.moveFile benchmarkFile (folder.child "benchmark.json")
        return data
  else return .obj []

def runBenchmarks (folder : Option Path) : Work BenchmarkOutcome :=
  recover isProcessFailure (fun f => ⟨.obj [], [s!"Benchmark error: {f.message}"]⟩) do
    let answer ← command
      ["uv", "run", "pytest", "--benchmark-only", "--benchmark-json=benchmark.json"]
    let data ← collectBenchmarks folder
    return ⟨data, if answer.exitCode = 0 then [] else [s!"Benchmark failed: {answer.stderr}"]⟩

/-- Notes the reports of the tests that are there. -/
def keepReports : Option Path → Work Unit
  | none => pure ()
  | some folder => do
    for name in ["coverage.xml", "junit.xml"] do
      if ← look fun t => t.exists? (folder.child name) then keep (folder.child name)

def TestCheck.work (check : TestCheck) : Work Bool := do
  ensureFolder check.folder
  let tests ← runTests check.folder check.parallel
  put "tests" tests.toJson
  complain tests.errors
  let coverage : Json := .float tests.tally.coverage
  if ← MonadExcept.ofExcept (coverage.less check.threshold) then
    let covered := tests.tally.coverage.writeFixed 1
    complain [s!"Coverage {covered}% below threshold {check.threshold.shown}%"]
  if check.benchmarks then
    let benchmarks ← runBenchmarks check.folder
    put "benchmarks" benchmarks.toJson
    complain benchmarks.errors
  keepReports check.folder
  let meets ← MonadExcept.ofExcept (coverage.atLeast check.threshold)
  put "summary" (.obj [("tests_passed", .int tests.tally.passed),
    ("tests_failed", .int tests.tally.failed), ("coverage_percent", coverage),
    ("coverage_meets_threshold", .bool meets)])
  return (← get).errors.isEmpty

def TestCheck.run (check : TestCheck) (w : World) : World × Except Failure StageResult :=
  check.work.toResult check.name "Testing error: " w

end DesignLens.Pipeline
