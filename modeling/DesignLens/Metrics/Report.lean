import DesignLens.Metrics.Linting
import DesignLens.Metrics.Readings

/-!
# Metrics of a subject

What the meter reads from each sample, and what the linter counts.
-/

namespace DesignLens.Metrics

open Analysis Workspace

structure Report where
  entries : List Json
  lint : LintOutcome

def Report.toJson (r : Report) : Json :=
  .obj [("results", .arr r.entries), ("ruff", lintJson r.lint)]

/-- A file that cannot be read stands for the reason. -/
def measuredText (s : Sample) : String :=
  match s.text with
  | .ok text => text
  | .error failure => s!"<read-error: {failure.message}>"

def measure (meter : Meter) (t : Tree) (s : Subject) : Except Failure (List Json) :=
  (s.withoutEmptyCode.samples t).mapM fun sample =>
    (meter (measuredText sample)).report sample.label

/-- The report on a subject, or a message. -/
def report (instruments : Instruments) (linter : Bool) (t : Tree) (s : Subject) (p : Processes) :
    Processes × Except Failure (Except String Report) :=
  match instruments.meter with
  | .error message => (p, .ok (.error message))
  | .ok meter =>
    if s.isEmpty then (p, .ok (.error Subject.emptyMessage))
    else
      match measure meter t s with
      | .error failure => (p, .error failure)
      | .ok entries =>
        let (p, outcome) := lint linter t s p
        (p, outcome.map fun l => .ok ⟨entries, l⟩)

def reportJson : Except String Report → Json
  | .ok r => r.toJson
  | .error message => messageJson message

end DesignLens.Metrics
