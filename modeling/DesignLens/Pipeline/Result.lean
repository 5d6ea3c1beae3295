import DesignLens.Arguments
import DesignLens.Json.Arithmetic
import DesignLens.Pipeline.Clock
import DesignLens.Workspace.Path

/-!
# Results of stages

A stage says how it went: its name, whether it succeeded, how long it took, what it found, what went
wrong and which files it left. Most of it is passed on as it comes, whatever its type.
-/

namespace DesignLens.Pipeline

open Workspace

structure StageResult where
  stageName : Json
  success : Json
  duration : Json
  output : Json
  errors : Json
  artifacts : List Path

/-- The result of a stage that broke off. -/
def StageResult.brokenOff (name message : Json) : StageResult :=
  ⟨name, .bool false, noTime, .obj [], .arr [message], []⟩

def StageResult.succeeded (r : StageResult) : Bool := r.success.truthy

def pathsJson (paths : List Path) : Json := .strings (paths.map Path.toString)

def StageResult.toJson (r : StageResult) : Json :=
  .obj [("stage_name", r.stageName), ("success", r.success), ("duration", r.duration),
    ("output", r.output), ("errors", r.errors), ("artifacts", pathsJson r.artifacts)]

def resultParameters : List Arguments.Parameter :=
  [.required "stage_name", .required "success", .required "duration", .optional "output",
    .optional "errors", .optional "artifacts"]

/-- The value of an argument that may be left out. -/
def argumentD (arguments : Table Json) (name : String) (default : Json) : Json :=
  (Table.find? name arguments).getD default

/-- A result from named arguments. -/
def StageResult.ofArguments (arguments : Table Json) : Except Failure StageResult :=
  match Arguments.callFailure? "PipelineResult.__init__" resultParameters arguments "self" with
  | some failure => .error failure
  | none => .ok
      { stageName := argumentD arguments "stage_name" .null,
        success := argumentD arguments "success" .null,
        duration := argumentD arguments "duration" .null,
        output := argumentD arguments "output" (.obj []),
        errors := argumentD arguments "errors" (.arr []),
        artifacts := (Arguments.texts arguments "artifacts").map Path.ofString }

end DesignLens.Pipeline
