import DesignLens.Analysis.Survey
import DesignLens.Json.Reader
import DesignLens.Processes

/-!
# Linting

A linter is another program that reports violations of rules as a JSON list. They are counted by
file and rule; an item that names no file or no rule does not count.
-/

namespace DesignLens.Metrics

open Analysis Workspace

/-- Violations by file, and for each file by rule. -/
abbrev RuleCounts : Type := Table (Table Nat)

/-- The file and the rule of an item. -/
def violation? (item : Json) : Option (String × String) :=
  if item.isObject then
    let file := (item.fieldD "filename" (.str "")).shown
    let rule := (item.fieldD "code" (.str "")).shown
    if file.isEmpty || rule.isEmpty then none else some (file, rule)
  else none

def increment (t : Table Nat) (name : String) (n : Nat) : Table Nat :=
  Table.insert name ((Table.find? name t).getD 0 + n) t

def countViolation (counts : RuleCounts) (v : String × String) : RuleCounts :=
  Table.insert v.1 (increment ((Table.find? v.1 counts).getD []) v.2 1) counts

/-- The violations that a linter's report lists, sorted by file. -/
def ruleCounts (report : Json) : RuleCounts :=
  let items :=
    match report with
    | .arr items => items
    | _ => []
  ((items.filterMap violation?).foldl countViolation []).mergeSort fun a b => decide (a.1 ≤ b.1)

/-- The counts of a linter, or a message. -/
abbrev LintOutcome : Type := Except String RuleCounts

/-- A linter ends with 0 if it finds nothing and with 1 if it finds something. -/
def lintOutcome (output : ProcessOutput) : LintOutcome :=
  if output.exitCode = 0 || output.exitCode = 1 then
    let text := if output.stdout.isEmpty then "[]" else output.stdout
    match Json.read text with
    | .ok report => .ok (ruleCounts report)
    | .error fault => .error s!"ruff parse error: {fault.message text}"
  else
    let message := Text.trim output.stderr
    .error (if message.isEmpty then "ruff failed" else message)

/-- The file that a linter is shown in place of a text. -/
def scratchFile : String := "<tmp>/input.py"

def lintTargets (t : Tree) (s : Subject) : List String :=
  (s.withoutEmptyCode.code.toList.map fun _ => scratchFile) ++
    s.files.filter fun f => (t.isFile (Path.ofString f)).toOption.getD false

def lintCommand (targets : List String) : List String :=
  ["ruff", "check", "--output-format", "json"] ++ targets

def noLinter : String := "ruff CLI not available in PATH"

/-- Runs the linter if it is there and has something to look at. -/
def lint (available : Bool) (t : Tree) (s : Subject) (p : Processes) :
    Processes × Except Failure LintOutcome :=
  let targets := lintTargets t s
  if available && !targets.isEmpty then
    let (p, output) := p.run (lintCommand targets)
    (p, output.map lintOutcome)
  else (p, .ok (.error noLinter))

def countsJson (counts : Table Nat) : Json := .obj (counts.map fun c => (c.1, .nat c.2))

def lintJson : LintOutcome → Json
  | .ok counts => .obj [("results", .arr (counts.map fun (file, rules) =>
      .obj [("file", .str file), ("counts", countsJson rules)]))]
  | .error message => messageJson message

/-- The violations of each rule in all files together. -/
def totals (counts : RuleCounts) : Table Nat :=
  counts.foldl (fun t file => file.2.foldl (fun t rule => increment t rule.1 rule.2) t) []

end DesignLens.Metrics
