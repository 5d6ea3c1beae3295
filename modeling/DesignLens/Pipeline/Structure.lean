import DesignLens.Pipeline.Work
import DesignLens.Text.Case

/-!
# Structure of the code

The folders of the code hint at its architecture and words in its files at design patterns. Another
program measures how maintainable the files are.
-/

namespace DesignLens.Pipeline

open Workspace Work

structure AnalysisCheck where
  name : Json
  folder : Option Path
  architecture : Bool
  patterns : Bool

def analysisParameters : List Arguments.Parameter :=
  [.optional "name", .optional "output_dir", .optional "run_architecture_analysis",
    .optional "run_pattern_analysis"]

def AnalysisCheck.ofArguments (arguments : Table Json) : Except Failure AnalysisCheck :=
  match Arguments.callFailure? "AnalysisStage.__init__" analysisParameters arguments "self" with
  | some failure => .error failure
  | none => .ok
      { name := argumentD arguments "name" (.str "Code Analysis"),
        folder := folderOf arguments,
        architecture := flagOf arguments "run_architecture_analysis" true,
        patterns := flagOf arguments "run_pattern_analysis" true }

/-- Something that the code hints at, how sure that is in tenths, and where. -/
structure Hint where
  name : String
  tenths : Nat
  location : String

def Hint.toJson (h : Hint) : Json :=
  .obj [("name", .str h.name), ("confidence", .float (.ofFraction h.tenths 10)),
    ("location", .str h.location)]

def hintsJson (hints : List Hint) : Json := .arr (hints.map Hint.toJson)

/-- The hints that were found, or why they could not be. -/
abbrev HintReport : Type := Except String (List Hint)

def HintReport.toJson : HintReport → Json
  | .ok hints => .obj [("success", .bool true), ("patterns", hintsJson hints),
      ("total_patterns", .nat hints.length)]
  | .error message => .obj [("success", .bool false), ("errors", .strings [message]),
      ("patterns", .arr [])]

def HintReport.complaints : HintReport → List String
  | .ok _ => []
  | .error message => [message]

def HintReport.size : HintReport → Nat
  | .ok hints => hints.length
  | .error _ => 0

def saveHints (folder : Option Path) (name : String) (hints : List Hint) : Work Unit :=
  save folder name (Json.write .pretty (.obj [("patterns", hintsJson hints)]))

/-- The folder of the code whose structure is looked at. -/
def codeFolder : Path := Path.ofString "src/mcp_architecton"

/-- Folders of the code with what they hint at. -/
def folderHints : List (String × String × Nat) :=
  [("services", "Service Layer", 8), ("detectors", "Domain Model", 7),
    ("generators", "Factory Pattern", 6)]

/-- What the folders of the code hint at. -/
def architectureHints (folder : Option Path) : Work HintReport :=
  recover (fun _ => true) (fun f => .error s!"Architecture analysis error: {f.message}") do
    if ← look fun t => t.exists? codeFolder then
      let found ← folderHints.filterM fun (name, _, _) =>
        look fun t => t.exists? (codeFolder.child name)
      let hints := found.map fun (name, what, tenths) =>
        Hint.mk what tenths (codeFolder.child name).toString
      saveHints folder "architecture-analysis.json" hints
      return .ok hints
    else return .error "Source directory not found"

/-- What the words of a file hint at. -/
def hintsIn (location text : String) : List Hint :=
  let lower := Text.lower text
  (if Text.occurs "class " text && Text.occurs "__new__" text then
    [⟨"Singleton", 6, location⟩] else []) ++
  (if Text.occurs "create" lower && Text.occurs "class" text then
    [⟨"Factory", 5, location⟩] else []) ++
  (if Text.occurs "notify" lower && Text.occurs "observer" lower then
    [⟨"Observer", 7, location⟩] else [])

/-- Everything below the folder of sources that is named like a file of the language. -/
def sourceEntries (t : Tree) : List Path :=
  if t.isFolderAt ["src"] then
    ((t.entriesBelow ["src"]).filter fun q => Text.endsWith ".py" (q.getLastD "")).map fun q =>
      ⟨false, q⟩
  else []

/-- What the words of the files hint at. -/
def patternHints (folder : Option Path) : Work HintReport :=
  recover (fun _ => true) (fun f => .error s!"Pattern analysis error: {f.message}") do
    let entries ← look fun t => .ok (sourceEntries t)
    let hints ← entries.mapM fun p => do
      return hintsIn p.toString (← look fun t => t.read p)
    saveHints folder "pattern-analysis.json" hints.flatten
    return .ok hints.flatten

/-- How maintainable the files are on average. -/
structure Maintainability where
  problem : Option String
  index : Json
  files : Nat
  data : Json

def Maintainability.unknown (problem : Option String) : Maintainability :=
  ⟨problem, .int 0, 0, .obj []⟩

def Maintainability.toJson (m : Maintainability) : Json :=
  .obj ([("success", .bool m.problem.isNone)] ++
    (m.problem.toList.map fun message => ("errors", Json.strings [message])) ++
    [("maintainability_index", m.index), ("file_count", .nat m.files), ("data", m.data)])

/-- The average of the numbers in a report by file. -/
def Maintainability.ofReport (report : Json) : Except Failure Maintainability := do
  let numbers := (Table.values (← report.fieldsBy "values")).filter fun v => v.exactValue?.isSome
  let total ← Json.sum numbers
  let index ← if numbers.isEmpty then .ok (.int 0) else total.share numbers.length
  return ⟨none, index, numbers.length, report⟩

def measureMaintainability (folder : Option Path) : Work Maintainability :=
  recover isProcessFailure (fun f => .unknown (some s!"Radon MI error: {f.message}")) do
    let answer ← command ["uv", "run", "radon", "mi", "src/", "--json"]
    match ← reported answer with
    | .value report =>
      let m ← MonadExcept.ofExcept (Maintainability.ofReport report)
      save folder "maintainability-report.json" answer.stdout
      return m
    | _ => return .unknown none

/-- Looks for hints if told so, and notes them. -/
def noteHints (wanted : Bool) (name : String) (search : Work HintReport) : Work Nat := do
  if wanted then
    let report ← search
    put name report.toJson
    complain report.complaints
    return report.size
  else return 0

def AnalysisCheck.work (check : AnalysisCheck) : Work Bool := do
  ensureFolder check.folder
  let architectures ← noteHints check.architecture "architecture" (architectureHints check.folder)
  let patterns ← noteHints check.patterns "patterns" (patternHints check.folder)
  let m ← measureMaintainability check.folder
  put "maintenance" m.toJson
  put "summary" (.obj [("architecture_patterns_detected", .nat architectures),
    ("design_patterns_detected", .nat patterns), ("maintainability_index", m.index)])
  return (← get).errors.isEmpty

def AnalysisCheck.run (check : AnalysisCheck) (w : World) : World × Except Failure StageResult :=
  check.work.toResult check.name "Analysis error: " w

end DesignLens.Pipeline
