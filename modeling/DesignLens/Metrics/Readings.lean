import DesignLens.Analysis.Survey

/-!
# Readings

A meter reads from a text how complex its blocks are, how maintainable it is and how many lines it
has. Each reading may fail, and its values are reported as they come. The meter may also be missing
as a whole or in part.
-/

namespace DesignLens.Metrics

structure Readings where
  /-- The blocks of the text, as objects. -/
  blocks : Except Failure (List Json)
  /-- How maintainable the text is, with its strings taken for code. -/
  maintainability : Except Failure Json
  /-- How maintainable the text is, with its strings taken for comments. -/
  documentedMaintainability : Except Failure Json
  /-- The numbers of lines of several kinds, as an object. -/
  lines : Except Failure Json

abbrev Meter : Type := String → Readings

inductive Instruments where
  | ready (meter : Meter)
  /-- There is no meter. -/
  | missing
  /-- The part of the meter that counts lines is missing. -/
  | incomplete

/-- The meter, or why it cannot be used. -/
def Instruments.meter : Instruments → Except String Meter
  | .ready m => .ok m
  | .missing =>
    .error "radon not available: import of radon.complexity halted; None in sys.modules"
  | .incomplete => .error "radon not available: import of radon.raw halted; None in sys.modules"

def blockJson (block : Json) : Json :=
  .obj [("name", block.fieldD "name" (.str "")), ("type", block.fieldD "kind" (.str "")),
    ("complexity", block.fieldD "complexity" .null), ("lineno", block.fieldD "lineno" .null)]

/-- The kinds of line counts that are reported. -/
def lineKinds : List String := ["loc", "lloc", "sloc", "comments", "multi"]

def linesJson (lines : Json) : Json :=
  .obj (lineKinds.map fun kind => (kind, lines.fieldD kind .null))

/-- All readings of a text; the first one that fails decides. -/
def Readings.all (r : Readings) : Except Failure (List (String × Json)) := do
  let blocks ← r.blocks
  let index ← r.documentedMaintainability
  let lines ← r.lines
  return [("cyclomatic_complexity", .arr (blocks.map blockJson)), ("maintainability_index", index),
    ("raw", linesJson lines)]

/-- The report on a text with a label. -/
def Readings.report (label : String) (r : Readings) : Except Failure Json :=
  Failure.handle (fun f => Analysis.errorRecord label f.message)
    (r.all.map fun fields => .obj (("source", .str label) :: fields))

/-- What can be read from a text, with empty values for what cannot. -/
def Readings.snapshot (r : Readings) : Except Failure Json := do
  let blocks ← Failure.handle (fun _ => []) r.blocks
  let index ← Failure.handle (fun _ => .null) r.documentedMaintainability
  let lines ← Failure.handle (fun _ => .null) r.lines
  return .obj [("cyclomatic_complexity", .arr (blocks.map blockJson)),
    ("maintainability_index", index), ("raw", linesJson lines)]

end DesignLens.Metrics
