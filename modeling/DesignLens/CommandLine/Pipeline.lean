import DesignLens.CommandLine.Ending
import DesignLens.CommandLine.Options
import DesignLens.Pipeline.Report
import DesignLens.Pipeline.Stages

/-!
# The command for pipelines

The command loads a configuration, runs the four stages or one of them and writes the reports. It
ends well if all stages succeed.
-/

namespace DesignLens.CommandLine

open Pipeline Workspace

def pipelineOptions : List Choice :=
  [helpChoice,
    ⟨"config", ["--config", "-c"], .value none⟩,
    ⟨"output_dir", ["--output-dir", "-o"], .value none⟩,
    ⟨"stage", ["--stage"], .value (some (StageKind.all.map StageKind.word))⟩,
    ⟨"no_cache", ["--no-cache"], .flag⟩,
    ⟨"no_fail_fast", ["--no-fail-fast"], .flag⟩,
    ⟨"verbose", ["--verbose", "-v"], .flag⟩,
    ⟨"generate_config", ["--generate-config"], .flag⟩]

def pipelineHelp : String :=
  "\n".intercalate
    ["usage: run_pipeline.py [-h] [--config CONFIG] [--output-dir OUTPUT_DIR]",
      "                       [--stage \x7bsecurity,quality,testing,analysis\x7d]",
      "                       [--no-cache] [--no-fail-fast] [--verbose]",
      "                       [--generate-config]",
      "",
      "Run the mcp-architecton comprehensive pipeline",
      "",
      "options:",
      "  -h, --help            show this help message and exit",
      "  --config CONFIG, -c CONFIG",
      "                        Path to pipeline configuration file (JSON)",
      "  --output-dir OUTPUT_DIR, -o OUTPUT_DIR",
      "                        Output directory for pipeline results",
      "  --stage \x7bsecurity,quality,testing,analysis\x7d",
      "                        Run only a specific stage",
      "  --no-cache            Disable caching",
      "  --no-fail-fast        Continue pipeline even if stages fail",
      "  --verbose, -v         Enable verbose logging",
      "  --generate-config     Generate a default configuration file and exit",
      "",
      "Examples:",
      "  run_pipeline.py                           # Run with default configuration",
      "  run_pipeline.py --config custom.json      # Run with custom configuration",
      "  run_pipeline.py --stage security          # Run only security stage",
      "  run_pipeline.py --no-cache               # Disable caching",
      "  run_pipeline.py --output-dir results      # Custom output directory",
      ""]

/-- Where a configuration is put to start from. -/
def generatedFile : Path := Path.ofString "pipeline-config.json"

def generateConfig (w : World) : World × Except Failure Ending :=
  match Config.usual.save w.tree generatedFile with
  | (t, some failure) => ({ w with tree := t }, .error failure)
  | (t, none) =>
    ({ w with tree := t },
      .ok (.printing s!"Default configuration saved to {generatedFile.toString}\n"))

/-- The configuration that the command line asks for. -/
def configFor (found : Table String) (t : Tree) : Except Failure Config := do
  let c ←
    match (Table.find? "config" found).map Path.ofString with
    | some p => Config.load t p
    | none => .ok .usual
  let c :=
    match Table.find? "output_dir" found with
    | some folder => { c with reports := Path.ofString folder }
    | none => c
  let c := if Table.contains "no_fail_fast" found then { c with failFast := .bool false } else c
  return if Table.contains "no_cache" found then { c with useCache := .bool false } else c

/-- All stages of a configuration have to be sound, also when only one of them is to run. -/
def stagesFor (found : Table String) (c : Config) : Except Failure (List (Stage World)) := do
  let stages ← StageKind.all.mapM (StageKind.configured c)
  match (Table.find? "stage" found).bind StageKind.ofWord? with
  | none => return stages
  | some kind => return [← kind.configured c]

/-- Creates a folder; on failure what was created remains. -/
def ensureFolder (w : World) (p : Path) : World × Except Failure Unit :=
  match w.tree.makeFolders p with
  | (t, none) => ({ w with tree := t }, .ok ())
  | (t, some failure) => ({ w with tree := t }, .error failure)

/-- Writes a report. -/
def addReport (w : World) (folder : Path) (results : List StageResult) (kind : ReportKind) :
    World × Except Failure Unit :=
  match writeReport folder results kind w.tree with
  | .ok t => ({ w with tree := t }, .ok ())
  | .error failure => (w, .error failure)

/-- Steps that change the world one after another until one of them fails. -/
abbrev Steps : Type → Type := ExceptT Failure (StateM World)

def step {α : Type} (f : World → World × Except Failure α) : Steps α :=
  ExceptT.mk fun w => let (w, r) := f w; (r, w)

/-- Runs the pipeline and tells whether all stages succeeded. -/
def execute (found : Table String) : Steps Bool := do
  let c ← MonadExcept.ofExcept (configFor found (← get).tree)
  step fun w => ensureFolder w c.reports
  if c.useCache.truthy then step fun w => ensureFolder w c.cache
  let stages ← MonadExcept.ofExcept (stagesFor found c)
  let plan : Plan World := ⟨stages, [], c.failFast.truthy⟩
  let results ← step fun w => let (w, o) := plan.run w; (w, o.map Outcome.results)
  step fun w => ensureFolder w c.reports
  step fun w => addReport w c.reports results .summary
  step fun w => addReport w c.reports results .page
  return results.all StageResult.succeeded

def runPipeline (arguments : List String) (w : World) : World × Except Failure Ending :=
  match read pipelineOptions [] arguments with
  | .help => (w, .ok (.printing pipelineHelp))
  | .invalid => (w, .ok .misused)
  | .values found =>
    if Table.contains "generate_config" found then generateConfig w
    else
      let (succeeded, w) := StateT.run (ExceptT.run (execute found)) w
      (w, Failure.handle (fun _ => ⟨1, ""⟩)
        (succeeded.map fun allDone => ⟨if allDone then 0 else 1, ""⟩))

end DesignLens.CommandLine
