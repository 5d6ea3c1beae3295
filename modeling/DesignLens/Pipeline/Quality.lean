import DesignLens.Pipeline.Work

/-!
# Quality checks

The code is linted, its layout is checked, its types are checked and its complexity is measured,
each by a program of its own. Lint and layout have to be clean; types only if the stage is told
so, and complexity is only reported.
-/

namespace DesignLens.Pipeline

open Workspace Work

structure QualityCheck where
  name : Json
  folder : Option Path
  fixIssues : Bool
  failOnErrors : Bool

def qualityParameters : List Arguments.Parameter :=
  [.optional "name", .optional "output_dir", .optional "fix_issues", .optional "fail_on_errors"]

def QualityCheck.ofArguments (arguments : Table Json) : Except Failure QualityCheck :=
  match Arguments.callFailure? "QualityStage.__init__" qualityParameters arguments "self" with
  | some failure => .error failure
  | none => .ok
      { name := argumentD arguments "name" (.str "Code Quality"),
        folder := folderOf arguments,
        fixIssues := flagOf arguments "fix_issues" false,
        failOnErrors := flagOf arguments "fail_on_errors" true }

/-- What one program finds: whether it is content, how many faults it counts, what it complains
about, and what else it has to say. -/
structure Finding where
  success : Bool
  count : Nat
  errors : Option (List String)
  details : List (String × Json)

/-- The findings of a program, with its count under a name. -/
def Finding.toJson (countName : Option String) (f : Finding) : Json :=
  .obj ([("success", .bool f.success)] ++
    (countName.toList.map fun name => (name, .nat f.count)) ++
    (f.errors.toList.map fun errors => ("errors", Json.strings errors)) ++ f.details)

def Finding.complaints (f : Finding) : List String := if f.success then [] else f.errors.getD []

def noIssues : Finding := ⟨true, 0, none, [("issues", .arr [])]⟩

def lintCommand (fix : Bool) : List String :=
  ["uv", "run", "ruff", "check", ".", "--output-format", "json"] ++
    if fix then ["--fix", "--unsafe-fixes"] else []

/-- Lints the code; the linter lists its issues. -/
def lintCode (folder : Option Path) (fix : Bool) : Work Finding :=
  recover isProcessFailure
    (fun f => ⟨false, 0, some [s!"Ruff error: {f.message}"], [("issues", .arr [])]⟩) do
    let answer ← command (lintCommand fix)
    match ← reported answer with
    | .value report =>
      let n ← MonadExcept.ofExcept report.size
      save folder "ruff-lint-report.json" answer.stdout
      return ⟨n = 0, n, some (if 0 < n then [s!"Ruff found {n} issues"] else []),
        [("issues", report)]⟩
    | _ => return noIssues

/-- The lines of what a program prints, if it prints anything. -/
def printedLines (text : String) : List String :=
  if text.isEmpty then [] else Text.pieces "\n" (Text.trim text)

/-- Checks the layout of the code. -/
def checkLayout : Work Finding :=
  recover isProcessFailure
    (fun f => ⟨false, 0, some [s!"Ruff format error: {f.message}"], []⟩) do
    let answer ← command ["uv", "run", "ruff", "format", ".", "--check"]
    if answer.exitCode = 0 then
      return ⟨true, 0, none, [("message", .str "All files are properly formatted")]⟩
    let files := printedLines answer.stdout
    return ⟨false, files.length, some [s!"Files need formatting: {files.length} files"],
      [("unformatted_files", .strings files)]⟩

/-- Blank lines and the closing line are no type errors. -/
def isTypeError (line : String) : Bool :=
  !(Text.trim line).isEmpty && !Text.startsWith "Found" line

/-- Checks the types of the code. -/
def checkTypes (folder : Option Path) : Work Finding :=
  recover isProcessFailure (fun f => ⟨false, 0, some [s!"MyPy error: {f.message}"], []⟩) do
    let answer ← command
      ["uv", "run", "mypy", "src/", "--ignore-missing-imports", "--no-strict-optional"]
    if answer.exitCode = 0 then
      return ⟨true, 0, none, [("message", .str "No type errors found")]⟩
    let lines := printedLines answer.stdout
    let n := (lines.filter isTypeError).length
    save folder "mypy-report.txt" answer.stdout
    return ⟨false, n, some [s!"MyPy found {n} type errors"], [("details", .strings lines)]⟩

/-- The greatest complexity that is accepted. -/
def acceptedComplexity : Int := 10

def isTooComplex (item : Json) : Except Failure Bool := do
  (← item.get "complexity" (.int 0)).greater (.int acceptedComplexity)

/-- The number of items that are too complex in a report by file. -/
def countTooComplex (report : Json) : Except Failure Nat := do
  let files ← report.fieldsBy "values"
  let flags ← files.mapM fun (_, items) => do (← items.elements).mapM isTooComplex
  return flags.flatten.count true

def noComplexity (success : Bool) (errors : Option (List String)) : Finding :=
  ⟨success, 0, errors, [("data", .obj [])]⟩

/-- Measures the complexity of the code. -/
def measureComplexity (folder : Option Path) : Work Finding :=
  recover isProcessFailure (fun f => noComplexity false (some [s!"Radon error: {f.message}"])) do
    let answer ← command ["uv", "run", "radon", "cc", "src/", "--json"]
    match ← reported answer with
    | .value report =>
      let n ← MonadExcept.ofExcept (countTooComplex report)
      save folder "complexity-report.json" answer.stdout
      return ⟨n = 0, n, none, [("data", report)]⟩
    | _ => return noComplexity true none

def QualityCheck.work (check : QualityCheck) : Work Bool := do
  ensureFolder check.folder
  let lint ← lintCode check.folder check.fixIssues
  put "ruff_lint" (lint.toJson (some "error_count"))
  let layout ← checkLayout
  put "ruff_format" (layout.toJson none)
  let types ← checkTypes check.folder
  put "mypy" (types.toJson (some "error_count"))
  let complexity ← measureComplexity check.folder
  put "complexity" (complexity.toJson (some "violations"))
  complain (lint.complaints ++ layout.complaints ++ types.complaints)
  put "summary" (.obj [("total_lint_errors", .nat (if lint.success then 0 else lint.count)),
    ("format_issues", .bool (!layout.success)), ("type_errors", .nat types.count),
    ("complexity_violations", .nat complexity.count)])
  return lint.success && layout.success && (types.success || !check.failOnErrors)

def QualityCheck.run (check : QualityCheck) (w : World) : World × Except Failure StageResult :=
  check.work.toResult check.name "Quality checking error: " w

end DesignLens.Pipeline
