import DesignLens.Metrics.Report
import DesignLens.Proposal.Suggestions
import DesignLens.World

/-!
# Proposals

A proposal draws everything together: the surveys of patterns and architectures, the metrics with
the linter's counts, and the suggestions of all sources, of which the heaviest for each target
counts.
-/

namespace DesignLens.Proposal

open Analysis Workspace

structure Dossier where
  patterns : Findings
  architectures : Findings
  metrics : Except String Metrics.Report
  assessments : Assessments
  suggestions : List Suggestion

/-- Keeps the heavier of two suggestions for a target, and the first of two equally heavy ones. -/
def keepHeavier (best : Table Suggestion) (s : Suggestion) : Table Suggestion :=
  match Table.find? s.target.name best with
  | none => Table.insert s.target.name s best
  | some other =>
    if other.target.weight < s.target.weight then Table.insert s.target.name s best else best

/-- The suggestions of several sources as one list, the heaviest first. -/
def merge (as : List Assessment) : List Suggestion :=
  let best := (as.flatMap fun a => a.suggestions).foldl keepHeavier []
  (Table.values best).mergeSort fun a b => a.target.precedes b.target

/-- No more than asked for; a number that is not positive asks for all. -/
def limit {α : Type} (count : Int) (l : List α) : List α :=
  if 0 < count then l.take count.toNat else l

/-- The names of findings that have one, sorted. -/
def namesOf (f : Findings) : List String :=
  Text.sortedSet ((findingsD f).filterMap fun finding =>
    let name := finding.fieldD "name" .null
    if name.truthy then some name.shown else none)

/-- The linter's part of the metrics. -/
def Dossier.lintJson (p : Dossier) : Json :=
  match p.metrics with
  | .ok r => Metrics.lintJson r.lint
  | .error _ => .obj []

def Dossier.ruleTotals (p : Dossier) : Table Nat :=
  match p.metrics with
  | .ok r => (r.lint.map Metrics.totals).toOption.getD []
  | .error _ => []

/-- The indicators of the first source. -/
def Dossier.firstIndicators (p : Dossier) : List Scan.Indicator :=
  ((p.assessments.toOption.getD []).head?.map fun a => a.result.indicators).getD []

def Dossier.rawJson (p : Dossier) : Json :=
  .obj [("patterns", findingsJson p.patterns), ("architectures", findingsJson p.architectures),
    ("metrics", Metrics.reportJson p.metrics), ("ruff", p.lintJson)]

def suggestionsJson (suggestions : List Suggestion) : Json :=
  .obj [("suggestions", .arr (suggestions.map Suggestion.toJson))]

def Dossier.toJson (p : Dossier) : Json :=
  .obj [("summary", .obj [("patterns_detected", .strings (namesOf p.patterns)),
      ("architectures_detected", .strings (namesOf p.architectures)),
      ("ruff_rule_counts", Metrics.countsJson p.ruleTotals),
      ("anti_indicators", .arr (p.firstIndicators.map Scan.Indicator.toJson))]),
    ("proposal", suggestionsJson p.suggestions),
    ("raw", p.rawJson)]

/-- A proposal with its patterns only. -/
def Dossier.patternsJson (count : Int) (p : Dossier) : Json :=
  let suggestions := (ofCategory .pattern p.suggestions).take (countOr defaultInAll count)
  .obj [("summary", .obj [("patterns_detected", .strings (namesOf p.patterns)),
      ("ruff_rule_counts", Metrics.countsJson p.ruleTotals),
      ("anti_indicators", .arr (p.firstIndicators.map Scan.Indicator.toJson))]),
    ("proposal", suggestionsJson suggestions),
    ("raw", p.rawJson)]

/-- Draws everything together, after the metrics. -/
def conclude (s : Setting) (t : Tree) (subject : Subject) (count : Int)
    (patterns architectures : Findings) (metrics : Except String Metrics.Report) :
    Except Failure Dossier :=
  (assess s t subject count).map fun assessments =>
    { patterns, architectures, metrics, assessments,
      suggestions := limit count (merge (assessments.toOption.getD [])) }

/-- The proposal for a subject, or a message. -/
def propose (s : Setting) (w : World) (subject : Subject) (count : Int) :
    Processes × Except Failure (Except String Dossier) :=
  if subject.isEmpty then (w.processes, .ok (.error Subject.emptyMessage))
  else
    match patterns s.registry w.tree subject, architectures s.registry w.tree subject with
    | .error failure, _ => (w.processes, .error failure)
    | .ok _, .error failure => (w.processes, .error failure)
    | .ok found, .ok styles =>
      match Metrics.report s.instruments s.linter w.tree subject w.processes with
      | (p, .error failure) => (p, .error failure)
      | (p, .ok metrics) =>
        (p, (conclude s w.tree subject count found styles metrics).map .ok)

end DesignLens.Proposal
