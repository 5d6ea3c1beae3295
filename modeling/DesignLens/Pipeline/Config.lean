import DesignLens.Arguments
import DesignLens.Json.Reader
import DesignLens.Workspace.Tree

/-!
# Configurations

A configuration names a pipeline, says where its reports and its cache go and holds the settings of
each stage. It is kept as a JSON object with a field for each part; a part that is left out has its
usual value.
-/

namespace DesignLens.Pipeline

open Workspace

structure Config where
  name : Json
  failFast : Json
  reports : Path
  security : Json
  quality : Json
  testing : Json
  analysis : Json
  languageVersion : Json
  useCache : Json
  cache : Path

namespace Config

def usual : Config :=
  { name := .str "mcp-architecton-pipeline", failFast := .bool true,
    reports := Path.ofString "pipeline-output", security := .obj [], quality := .obj [],
    testing := .obj [], analysis := .obj [], languageVersion := .str "3.10",
    useCache := .bool true, cache := Path.ofString ".pipeline-cache" }

/-- The JSON object of a configuration. -/
def document (c : Config) : Json :=
  .obj [("name", c.name), ("fail_fast", c.failFast), ("output_dir", .str c.reports.toString),
    ("security", c.security), ("quality", c.quality), ("testing", c.testing),
    ("analysis", c.analysis), ("python_version", c.languageVersion), ("use_cache", c.useCache),
    ("cache_dir", .str c.cache.toString)]

def parameters : List Arguments.Parameter :=
  [.optional "name", .optional "fail_fast", .optional "output_dir", .optional "security",
    .optional "quality", .optional "testing", .optional "analysis", .optional "python_version",
    .optional "use_cache", .optional "cache_dir"]

/-- Whether a name occurs in a value: among its fields, its items, or in its text. -/
def mentions (name : String) (v : Json) : Except Failure Bool :=
  match v with
  | .obj fields => .ok (Table.contains name fields)
  | .arr items => .ok ((items.filterMap Json.text?).contains name)
  | .str s => .ok (Text.occurs name s)
  | _ => .error (.wrongType s!"argument of type '{v.typeName}' is not iterable")

/-- A field of a value; only objects have fields. -/
def fieldOf (name : String) (v : Json) : Except Failure Json :=
  match v with
  | .obj fields => .ok ((Table.find? name fields).getD .null)
  | .arr _ => .error (.wrongType "list indices must be integers or slices, not str")
  | _ => .error (.wrongType "string indices must be integers, not 'str'")

/-- A path in a field, or its usual value for want of the field. -/
def pathIn (name : String) (default : Path) (v : Json) : Except Failure Path := do
  if ← mentions name v then
    match ← fieldOf name v with
    | .str s => .ok (Path.ofString s)
    | other => .error (.wrongType
        s!"expected str, bytes or os.PathLike object, not {other.typeName}")
  else .ok default

/-- A configuration from a JSON value. -/
def ofJson (v : Json) : Except Failure Config := do
  let reports ← pathIn "output_dir" usual.reports v
  let cache ← pathIn "cache_dir" usual.cache v
  match v with
  | .obj fields =>
    match Arguments.callFailure? "PipelineConfig.__init__" parameters fields "self" with
    | some failure => .error failure
    | none =>
      let part (name : String) (default : Json) : Json :=
        (Table.find? name fields).getD default
      .ok { name := part "name" usual.name, failFast := part "fail_fast" usual.failFast,
            reports := reports, security := part "security" usual.security,
            quality := part "quality" usual.quality, testing := part "testing" usual.testing,
            analysis := part "analysis" usual.analysis,
            languageVersion := part "python_version" usual.languageVersion,
            useCache := part "use_cache" usual.useCache, cache := cache }
  | _ => .error (.wrongType ("pipeline.config.settings.PipelineConfig() argument after ** must " ++
      s!"be a mapping, not {v.typeName}"))

def invalid (message : String) : Failure := .badValue s!"Invalid configuration file: {message}"

/-- A configuration from the text of a file. -/
def ofText (text : String) : Except Failure Config :=
  match Json.read text with
  | .error fault =>
    let message := fault.message text
    .error (match fault.cause with
      -- a number that is too long is not the fault of the file's form
      | .tooManyDigits _ => .badValue message
      | _ => invalid message)
  | .ok v => (ofJson v).mapError fun f => invalid f.message

/-- The configuration in a file; a file that is missing holds the usual one. -/
def load (t : Tree) (p : Path) : Except Failure Config := do
  if ← t.exists? p then ofText (← t.read p) else .ok usual

/-- Saves a configuration, in a folder that is created if need be. -/
def save (c : Config) (t : Tree) (p : Path) : Tree × Option Failure :=
  match t.makeFolders p.parent with
  | (t, some failure) => (t, some failure)
  | (t, none) =>
    match t.writeText p (Json.write .pretty c.document) with
    | .ok t => (t, none)
    | .error failure => (t, some failure)

/-- Whether two configurations say the same; the order of fields does not matter. -/
def same (a b : Config) : Bool :=
  let text (c : Config) : String := Json.write ⟨none, true, true⟩ c.document
  text a == text b

/-- A configuration with all settings of the stages spelt out. -/
def recommended : Json :=
  .obj [("name", usual.name), ("fail_fast", usual.failFast),
    ("output_dir", .str usual.reports.toString),
    ("security", .obj [("fail_on_high", .bool true), ("fail_on_medium", .bool false)]),
    ("quality", .obj [("fix_issues", .bool false), ("fail_on_errors", .bool true)]),
    ("testing", .obj [("coverage_threshold", .float (.ofInt 35)), ("run_benchmarks", .bool false),
      ("parallel", .bool true)]),
    ("analysis", .obj [("run_architecture_analysis", .bool true),
      ("run_pattern_analysis", .bool true)]),
    ("python_version", usual.languageVersion), ("use_cache", usual.useCache),
    ("cache_dir", .str usual.cache.toString)]

end Config

end DesignLens.Pipeline
