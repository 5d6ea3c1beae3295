import DesignLens.Pipeline.Page
import DesignLens.Pipeline.Result
import DesignLens.Workspace.Tree

/-!
# Reports

The results of a run are summed up in two files: one for programs, in JSON, and a page to look at.
-/

namespace DesignLens.Pipeline

open Workspace

def countSucceeded (results : List StageResult) : Nat := results.countP StageResult.succeeded

def totalDuration (results : List StageResult) : Except Failure Json :=
  Json.sum (results.map fun r => r.duration)

/-- The greatest number of errors of a stage that are summed up. -/
def summaryErrors : Nat := 5

/-- What a stage says in short. -/
def StageResult.summary (r : StageResult) : Except Failure Json := r.output.get "summary" (.obj [])

def StageResult.digest (r : StageResult) : Except Failure Json := do
  let errorCount ← r.errors.size
  let summary ← r.summary
  let errors ← if r.errors.truthy then (r.errors.front summaryErrors).map some else .ok none
  return .obj ([("name", r.stageName), ("success", r.success), ("duration", r.duration),
    ("error_count", .nat errorCount), ("artifact_count", .nat r.artifacts.length),
    ("summary", summary)] ++ errors.toList.map fun front => ("errors", front))

/-- The summary of a run. -/
def summaryDocument (results : List StageResult) : Except Failure Json := do
  let duration ← totalDuration results
  let stages ← results.mapM StageResult.digest
  let succeeded := countSucceeded results
  return .obj [("generated_at", .str (today ++ "T" ++ timeOfDay)),
    ("pipeline_summary", .obj [("total_stages", .nat results.length),
      ("successful_stages", .nat succeeded), ("failed_stages", .nat (results.length - succeeded)),
      ("total_duration", duration),
      ("total_artifacts", .nat ((results.map fun r => r.artifacts.length).foldr (· + ·) 0))]),
    ("stage_results", .arr stages)]

namespace Page

/-- A titled list on the page. -/
def listBlock (kind title : String) (items : List String) : String :=
  s!"<div class='{kind}'><h4>{title}</h4><ul>" ++
    String.join (items.map fun item => s!"<li>{item}</li>") ++ "</ul></div>"

def summaryItem (field : String × Json) : String :=
  let label := Text.title (Text.replaceAll "_" " " field.1)
  s!"<strong>{label}:</strong> {field.2.shown}"

/-- What a stage says in short; nothing if that is empty. -/
def summaryBlock (summary : Json) : Except Failure String :=
  if summary.truthy then do
    return listBlock "summary" "Summary" ((← summary.fieldsBy "items").map summaryItem)
  else .ok ""

/-- The greatest number of errors of a stage on the page. -/
def shownErrors : Nat := 10

/-- The errors of a stage; nothing if there are none. -/
def errorBlock (errors : Json) : Except Failure String :=
  if errors.truthy then do
    return listBlock "errors" "Errors" ((← errors.firstItems shownErrors).map Json.shown)
  else .ok ""

/-- The part of the page on one stage. -/
def stageBlock (r : StageResult) : Except Failure String := do
  let kind := if r.succeeded then "success" else "failure"
  let status := if r.succeeded then "✓ PASSED" else "✗ FAILED"
  let duration ← r.duration.fixedText 2
  let summary ← summaryBlock (← r.summary)
  let errors ← errorBlock r.errors
  return "\n".intercalate
    ["",
      s!"            <div class=\"stage {kind}\">",
      s!"                <h3>{r.stageName.shown} <span class=\"status\">{status}</span></h3>",
      s!"                <p><strong>Duration:</strong> {duration}s</p>",
      s!"                <p><strong>Artifacts:</strong> {r.artifacts.length}</p>",
      "                ",
      s!"                {summary}",
      "                ",
      s!"                {errors}",
      "            </div>",
      "            "]

/-- A number with a label. -/
def statLines (kind number label : String) : List String :=
  [s!"                <div class=\"{kind}\">",
    s!"                    <span class=\"stat-number\">{number}</span>",
    s!"                    <span class=\"stat-label\">{label}</span>",
    "                </div>"]

/-- The part of the page on the run as a whole. -/
def statsBlock (results : List StageResult) : Except Failure String := do
  let succeeded := countSucceeded results
  let failed := results.length - succeeded
  let duration ← (← totalDuration results).fixedText 1
  let failedKind := if 0 < failed then "failure" else ""
  return "\n".intercalate (
    ["",
      "        <div class=\"stats\">",
      "            <h2>Pipeline Statistics</h2>",
      "            <div class=\"stat-grid\">"] ++
    statLines "stat-item" s!"{results.length}" "Total Stages" ++
    statLines "stat-item success" s!"{succeeded}" "Successful" ++
    statLines s!"stat-item {failedKind}" s!"{failed}" "Failed" ++
    statLines "stat-item" s!"{duration}s" "Total Duration" ++
    ["            </div>",
      "        </div>",
      "        "])

def document (results : List StageResult) : Except Failure String := do
  let stages ← results.mapM stageBlock
  let stats ← statsBlock results
  return fill stats (String.join stages)

end Page

inductive ReportKind where
  | summary
  | page
  deriving DecidableEq, Repr

def ReportKind.fileName : ReportKind → String
  | .summary => "pipeline-summary.json"
  | .page => "pipeline-report.html"

def ReportKind.text (results : List StageResult) : ReportKind → Except Failure String
  | .summary => (summaryDocument results).map (Json.write .pretty)
  | .page => Page.document results

/-- Writes a report into a folder. -/
def writeReport (folder : Path) (results : List StageResult) (kind : ReportKind) (t : Tree) :
    Except Failure Tree := do
  t.writeText (folder.child kind.fileName) (← kind.text results)

end DesignLens.Pipeline
