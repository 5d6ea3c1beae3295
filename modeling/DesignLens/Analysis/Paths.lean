import DesignLens.Metrics.Readings
import DesignLens.Workspace.Glob

/-!
# Analysing paths

The source files that paths stand for are surveyed one by one, and measured if wanted.
-/

namespace DesignLens.Analysis

open Workspace Metrics

/-! ## The files -/

/-- Adds a path to those found so far, if a test is in favour of it. -/
def addIf (test : Path → Except Failure Bool) (files : List Path) (p : Path) :
    Except Failure (List Path) := do
  if ← test p then return files ++ [p] else return files

/-- Adds the source files that an entry stands for to those found so far. -/
def addEntry (t : Tree) (files : List Path) (entry : String) : Except Failure (List Path) := do
  let p := Path.ofString entry
  let isSource (q : Path) : Except Failure Bool := do return (← t.isFile q) && q.suffix == ".py"
  if isPattern entry then
    let found ← matching t p.parent p.name
    found.foldlM (addIf isSource) files
  else if ← t.isFolder p then
    match t.locate p with
    | .ok place =>
      let named ← namedBelow t p place
      named.foldlM (addIf t.isFile) files
    | .error _ => return files
  else addIf isSource files p

/-- Of the paths that lead to one file the first. -/
def uniqueFiles (files : List Path) : List Path :=
  (files.foldl (fun (acc : List Path × List Place) file =>
    if acc.2.contains file.destination then acc
    else (acc.1 ++ [file], file.destination :: acc.2)) ([], [])).1

/-- The source files that paths stand for. -/
def filesOf (t : Tree) (paths : List String) : Except Failure (List Path) := do
  let files ← paths.foldlM (addEntry t) []
  return uniqueFiles files

/-! ## What is said about them -/

/-- The findings in a file that could be read. They are labelled as a text given directly. -/
def fileFindings (registry : Registry) (t : Tree) (file : Path) : Except Failure (List Json) :=
  match t.read file with
  | .error failure =>
    .ok [errorRecord file.toString s!"<read-error: {failure.message}>"]
  | .ok text => (patterns registry t (.ofCode text)).map findingsD

/-- What the meter says about a file; nothing is said about a file that cannot be read. -/
def fileMetrics (meter : Meter) (t : Tree) (file : Path) : Except Failure (List Json) :=
  match t.read file with
  | .error _ => .ok []
  | .ok text => ((meter text).report file.toString).map fun r => [r]

/-- The answer for paths: findings, and metrics if wanted. -/
structure PathReport where
  findings : List Json
  metrics : Option (List Json)

def PathReport.toJson (r : PathReport) : Json :=
  .obj ([("findings", .arr r.findings)] ++ r.metrics.toList.map fun m => ("metrics", .arr m))

/-- Surveys a file and then measures it. -/
def examine (registry : Registry) (meter : Option Meter) (t : Tree) (file : Path) :
    Except Failure (List Json × List Json) := do
  let findings ← fileFindings registry t file
  match meter with
  | none => return (findings, [])
  | some m => return (findings, ← fileMetrics m t file)

def analyzePaths (registry : Registry) (instruments : Instruments) (t : Tree) (paths : List String)
    (withMetrics : Bool) : Except Failure (Except String PathReport) :=
  if paths.isEmpty then .ok (.error "Provide non-empty 'paths'")
  else do
    let files ← filesOf t paths
    match if withMetrics then instruments.meter.map some else .ok none with
    | .error message => return .error message
    | .ok meter =>
      let parts ← files.mapM (examine registry meter t)
      return .ok ⟨parts.flatMap Prod.fst, meter.map fun _ => parts.flatMap Prod.snd⟩

end DesignLens.Analysis
