import DesignLens.Metrics.Readings
import DesignLens.Number.Literal

/-!
# Indicators of bad design

An indicator points at a weakness of a text: readings beyond a threshold, words that should not be
there, functions that are too long. Each kind of indicator recommends something.
-/

namespace DesignLens.Scan

open Metrics Source

inductive IndicatorKind where
  | highComplexity
  | lowMaintainability
  | largeFile
  | globalState
  | dynamicEvaluation
  | printLogging
  | largeFunction
  deriving DecidableEq, Repr

def IndicatorKind.word : IndicatorKind → String
  | .highComplexity => "high_cc"
  | .lowMaintainability => "low_mi"
  | .largeFile => "large_file"
  | .globalState => "global_or_any_usage"
  | .dynamicEvaluation => "dynamic_eval"
  | .printLogging => "print_logging"
  | .largeFunction => "very_large_function"

def IndicatorKind.recommendation : IndicatorKind → String
  | .highComplexity => "Strategy or Template Method to split complex logic"
  | .lowMaintainability => "Refactor to smaller functions; apply Strategy/Facade"
  | .largeFile => "Split module by responsibility; consider Layered/MVC separation"
  | .globalState => "Introduce DI/Facade; reduce global state and Any"
  | .dynamicEvaluation => "Avoid eval/exec; use Strategy/Factory"
  | .printLogging => "Use logging; keep IO at edges (Hexagonal)"
  | .largeFunction => "Extract methods (Template Method) or strategies"

structure Indicator where
  kind : IndicatorKind
  details : List (String × Json)

def Indicator.toJson (i : Indicator) : Json := .obj (("type", .str i.kind.word) :: i.details)

/-- The failures of a reading that only leave out its indicator. -/
def isSkipped (kind : FailureKind) : Bool :=
  kind.isMalformed || kind.isBadValue || kind == .noAttribute

/-- Leaves out an indicator whose reading fails. -/
def skipping {α : Type} (other : α) : Except Failure α → Except Failure α
  | .ok a => .ok a
  | .error f => if isSkipped f.kind then .ok other else .error f

/-- The least complexity that is too high. -/
def complexityThreshold : Nat := 8

def isTooComplex (complexity : Json) : Except Failure Bool :=
  match complexity with
  | .int n => .ok (decide ((complexityThreshold : Int) ≤ n))
  | .bool _ => .ok false
  | .float x => .ok ((Number.Binary64.ofInt complexityThreshold).le x)
  | v => .error (.wrongType
      s!"'>=' not supported between instances of '{v.typeName}' and 'int'")

def highComplexity (r : Readings) : Except Failure (List Indicator) := do
  let flags ← (← r.blocks).mapM fun block => isTooComplex (block.fieldD "complexity" (.int 0))
  let n := flags.count true
  return if n = 0 then [] else [⟨.highComplexity, [("count", .nat n)]⟩]

/-- The value of a score, unless it is no number. -/
def scoreValue (score : Json) : Except Failure (Option Number.Binary64) :=
  match score with
  | .bool b => .ok (some (.ofInt (if b then 1 else 0)))
  | .float x => .ok (some x)
  | .str s => .ok (Number.Binary64.read? s)
  | .int n =>
    match Number.Binary64.ofInt n with
    | .infinite _ => .error ⟨.named "OverflowError", "int too large to convert to float"⟩
    | x => .ok (some x)
  | _ => .ok none

/-- The score below which a text is hard to maintain. -/
def maintainabilityThreshold : Nat := 50

def lowMaintainability (r : Readings) : Except Failure (List Indicator) := do
  let score ← r.maintainability
  match ← scoreValue score with
  | some x =>
    return if x.lt (.ofInt maintainabilityThreshold) then [⟨.lowMaintainability, [("mi", score)]⟩]
      else []
  | none => return []

/-- The number of lines that a file may have. -/
def fileLimit : Nat := 1000

/-- The lines of a large text as counted by the meter. -/
def measuredLines (r : Readings) : Except Failure (Option Json) := do
  match (← r.lines).fieldD "loc" (.int 0) with
  | .int n => return if (fileLimit : Int) < n then some (.int n) else none
  | _ => return none

/-- The meter's count is preferred to a plain count of lines. -/
def largeFile (r : Readings) (text : String) : Except Failure (List Indicator) := do
  let total := (Text.lines text).length
  match ← skipping none (measuredLines r) with
  | some n => return [⟨.largeFile, [("loc", n)]⟩]
  | none => return if fileLimit < total then [⟨.largeFile, [("loc", .nat total)]⟩] else []

def globalState (text : String) : List Indicator :=
  if Text.occurs "global " text || Text.occurs "from typing import Any" text then
    [⟨.globalState, []⟩]
  else []

def dynamicEvaluation (text : String) : List Indicator :=
  if Text.occurs "eval(" text || Text.occurs "exec(" text then [⟨.dynamicEvaluation, []⟩] else []

def printLogging (text : String) : List Indicator :=
  if Text.occurs "print(" text && !Text.occurs "logging" text then [⟨.printLogging, []⟩] else []

/-- The number of lines that a function may have. -/
def functionLimit : Nat := 80

def lineCount (d : FunctionDef) : Nat := d.span.endLine + 1 - d.span.line

/-- All functions of a program, those nearer to the top first. -/
def functionsOf (p : Program) : List FunctionDef :=
  (Node.walkLevels (Node.stmts p.module.body)).filterMap fun n =>
    match n with
    | .stmt (.functionDef d) => some d
    | _ => none

/-- The first function that is too long. -/
def longFunction? (p : Program) : Option FunctionDef :=
  (functionsOf p).find? fun d => functionLimit < lineCount d

/-- The lines of the first paragraph that is too long and has a definition in its first lines. -/
def longParagraph? (text : String) : Option (List String) :=
  ((Text.pieces "\n\n" text).map Text.lines).find? fun lines =>
    functionLimit < lines.length &&
      (lines.take 3).any fun line => Text.startsWith "def " (Text.trim line)

/-- A long function, or for want of one a long paragraph. -/
def largeFunction (text : String) : List Indicator :=
  match (Program.parse text).toOption.bind longFunction? with
  | some d => [⟨.largeFunction, [("lines", .nat (lineCount d)), ("name", .str d.name)]⟩]
  | none =>
    ((longParagraph? text).toList).map fun lines =>
      ⟨.largeFunction, [("lines", .nat lines.length)]⟩

/-- The indicators of a text in the order of their kinds. -/
def indicators (r : Readings) (text : String) : Except Failure (List Indicator) := do
  let complexity ← skipping [] (highComplexity r)
  let maintainability ← skipping [] (lowMaintainability r)
  let size ← largeFile r text
  return complexity ++ maintainability ++ size ++ globalState text ++ dynamicEvaluation text ++
    printLogging text ++ largeFunction text

/-- What indicators recommend, each thing once. -/
def recommendations (is : List Indicator) : List String :=
  (is.map fun i => i.kind.recommendation).eraseDups

end DesignLens.Scan
