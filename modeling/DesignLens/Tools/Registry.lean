import DesignLens.Analysis.Paths
import DesignLens.Arguments
import DesignLens.Enforcement.Ranked
import DesignLens.Proposal.Advice
import DesignLens.Proposal.Unified
import DesignLens.World

/-!
# Tools

Everything that can be asked for, by name. A tool is given its setting, the world and its arguments,
and answers with a value or fails; the world may be changed either way.
-/

namespace DesignLens.Tools

open Analysis Arguments Proposal Workspace

structure Tool where
  name : String
  parameters : List Parameter
  run : Setting → World → Table Json → World × Except Failure Json

/-- A tool that leaves the world alone. -/
def Tool.looking (name : String) (parameters : List Parameter)
    (look : Setting → Tree → Table Json → Except Failure Json) : Tool :=
  ⟨name, parameters, fun s w arguments => (w, look s w.tree arguments)⟩

/-- A tool that may change files. -/
def Tool.editing (name : String) (parameters : List Parameter)
    (edit : Setting → Tree → Table Json → Tree × Except Failure Json) : Tool :=
  ⟨name, parameters, fun s w arguments =>
    let (t, answer) := edit s w.tree arguments
    ({ w with tree := t }, answer)⟩

/-- A tool that may run other programs. -/
def Tool.running (name : String) (parameters : List Parameter)
    (run : Setting → World → Table Json → Processes × Except Failure Json) : Tool :=
  ⟨name, parameters, fun s w arguments =>
    let (p, answer) := run s w arguments
    ({ w with processes := p }, answer)⟩

def subjectOf (arguments : Table Json) : Subject :=
  ⟨text? arguments "code", texts arguments "files"⟩

def subjectParameters : List Parameter := [.optional "code", .optional "files"]

def countedParameters : List Parameter := subjectParameters ++ [.optional "max_suggestions"]

def codeParameters : List Parameter := [.required "code"]

def introduceParameters : List Parameter :=
  [.required "name", .required "module_path", .optional "dry_run", .optional "out_path"]

def introductionOf (arguments : Table Json) : Scaffold.Request :=
  { name := text? arguments "name", modulePath := textD arguments "module_path" "",
    dryRun := flagD arguments "dry_run" false, outPath := text? arguments "out_path" }

def introduceOnly (category : Advice.Category) (s : Setting) (t : Tree) (arguments : Table Json) :
    Tree × Except Failure Json :=
  let (t, answer) := s.workshop.introduceOnly category t (introductionOf arguments)
  (t, answer.map Scaffold.Answer.toJson)

def enforcementOf (arguments : Table Json) : Enforcement.Request :=
  { name := textD arguments "name" "", paths := texts arguments "paths",
    scope := textD arguments "scope" Enforcement.hitsScope,
    dryRun := flagD arguments "dry_run" true, outFolder := text? arguments "out_dir",
    maxFiles := number? arguments "max_files" }

def rankedEnforcementOf (arguments : Table Json) : Enforcement.RankedRequest :=
  { paths := texts arguments "paths", topCount := numberD arguments "top_n" 3,
    scope := textD arguments "scope" Enforcement.hitsScope,
    dryRun := flagD arguments "dry_run" true, outFolder := text? arguments "out_dir" }

def hintsJson (r : Bool × String) : Json :=
  .obj [("changed", .bool r.1), ("result", .str r.2)]

/-- A proposal under a view of it, or its message. -/
def proposalWith (view : Int → Dossier → Json) (s : Setting) (w : World)
    (arguments : Table Json) : Processes × Except Failure Json :=
  let count := numberD arguments "max_suggestions" 5
  let (p, outcome) := propose s w (subjectOf arguments) count
  (p, outcome.map fun proposal =>
    match proposal with
    | .ok proposal => view count proposal
    | .error message => messageJson message)

def tools : List Tool :=
  [.looking "list-patterns" [] fun s _ _ => .ok (.arr s.workshop.catalog.patterns),
    .looking "list-architectures" [] fun s _ _ => .ok (.arr s.workshop.catalog.architectures),
    .looking "list-refactorings" [] fun s _ _ => .ok (.arr s.workshop.catalog.techniques),
    .looking "analyze-patterns" subjectParameters fun s t a =>
      (patterns s.registry t (subjectOf a)).map findingsJson,
    .looking "analyze-architectures" subjectParameters fun s t a =>
      (architectures s.registry t (subjectOf a)).map findingsJson,
    .running "analyze-metrics" subjectParameters fun s w a =>
      let (p, outcome) :=
        Metrics.report s.instruments s.linter w.tree (subjectOf a) w.processes
      (p, outcome.map Metrics.reportJson),
    .editing "introduce-pattern" introduceParameters (introduceOnly .pattern),
    .editing "introduce-architecture" introduceParameters (introduceOnly .architecture),
    .looking "suggest-refactor-patterns" codeParameters fun s t a =>
      (advisePatterns s t (textD a "code" "")).map (adviceJson "pattern"),
    .looking "suggest-architecture-refactor" codeParameters fun s t a =>
      (adviseArchitectures s t (textD a "code" "")).map (adviceJson "architecture"),
    .looking "scan-anti-patterns" subjectParameters fun s t a =>
      (Scan.scan s.instruments t (subjectOf a)).map Scan.resultsJson,
    .looking "analyze-paths" [.required "paths", .optional "include_metrics"] fun s t a =>
      (analyzePaths s.registry s.instruments t (texts a "paths")
        (flagD a "include_metrics" false)).map fun r =>
          match r with
          | .ok report => report.toJson
          | .error message => messageJson message,
    .running "propose-architecture" countedParameters
      (proposalWith fun _ proposal => proposal.toJson),
    .running "propose-patterns" countedParameters (proposalWith Dossier.patternsJson),
    .looking "transform-add-type-hints" codeParameters fun s _ a =>
      (s.editor.add (textD a "code" "")).map hintsJson,
    .looking "thresholded-enforcement" countedParameters fun s t a =>
      (assess s t (subjectOf a) (numberD a "max_suggestions" 3)).map assessmentsJson,
    .editing "enforce-target"
      [.required "name", .required "paths", .optional "scope", .optional "dry_run",
        .optional "out_dir", .optional "max_files"] fun s t a =>
      let (t, outcome) := Enforcement.enforce s t (enforcementOf a)
      (t, outcome.map Enforcement.Report.toJson),
    .editing "enforce-ranked"
      [.required "paths", .optional "top_n", .optional "scope", .optional "dry_run",
        .optional "out_dir"] fun s t a =>
      let (t, outcome) := Enforcement.enforceRanked s t (rankedEnforcementOf a)
      (t, outcome.map (Enforcement.rankedJson (rankedEnforcementOf a))),
    .looking "scan-anti-architectures" countedParameters fun s t a =>
      (assessArchitectures s t (subjectOf a) (numberD a "max_suggestions" 5)).map assessmentsJson]

/-- The function name that call failures mention. -/
def Tool.function (t : Tool) : String := "tool_" ++ Text.replaceAll "-" "_" t.name

/-- Calls a tool by name. -/
def call (s : Setting) (w : World) (name : String) (arguments : Table Json) :
    World × Except Failure Json :=
  match tools.find? fun t => t.name == name with
  | none => (w, .error ⟨.noKey, Text.quoted name⟩)
  | some tool =>
    match callFailure? tool.function tool.parameters arguments with
    | some failure => (w, .error failure)
    | none => tool.run s w arguments

end DesignLens.Tools
