import DesignLens.Pipeline.Config
import DesignLens.Pipeline.Quality
import DesignLens.Pipeline.Run
import DesignLens.Pipeline.Security
import DesignLens.Pipeline.Structure
import DesignLens.Pipeline.Testing

/-!
# The stages by kind

The four stages that a pipeline is made of, from named arguments or from a configuration.
-/

namespace DesignLens.Pipeline

/-- The four stages. -/
inductive StageKind where
  | security
  | quality
  | testing
  | analysis
  deriving DecidableEq, Repr

def StageKind.all : List StageKind := [.security, .quality, .testing, .analysis]

def StageKind.word : StageKind → String
  | .security => "security"
  | .quality => "quality"
  | .testing => "testing"
  | .analysis => "analysis"

def StageKind.ofWord? (word : String) : Option StageKind :=
  StageKind.all.find? fun k => k.word == word

/-- The settings of a stage in a configuration. -/
def StageKind.settings (c : Config) : StageKind → Json
  | .security => c.security
  | .quality => c.quality
  | .testing => c.testing
  | .analysis => c.analysis

/-- A stage that does not look at the context. -/
def Stage.ofWork (name : Json) (run : World → World × Except Failure StageResult) : Stage World :=
  ⟨some name, fun _ w => run w⟩

/-- A stage from named arguments. -/
def StageKind.stage (arguments : Table Json) : StageKind → Except Failure (Stage World)
  | .security => (SecurityCheck.ofArguments arguments).map fun c => .ofWork c.name c.run
  | .quality => (QualityCheck.ofArguments arguments).map fun c => .ofWork c.name c.run
  | .testing => (TestCheck.ofArguments arguments).map fun c => .ofWork c.name c.run
  | .analysis => (AnalysisCheck.ofArguments arguments).map fun c => .ofWork c.name c.run

/-- A stage that reports into a folder of its own. Its settings must not name another one. -/
def StageKind.configured (c : Config) (kind : StageKind) : Except Failure (Stage World) :=
  match kind.settings c with
  | .obj fields =>
    if Table.contains "output_dir" fields then
      .error (.wrongType "got multiple values for keyword argument 'output_dir'")
    else
      kind.stage (Table.insert "output_dir" (.str (c.reports.child kind.word).toString) fields)
  | other => .error (.wrongType s!"argument after ** must be a mapping, not {other.typeName}")

end DesignLens.Pipeline
