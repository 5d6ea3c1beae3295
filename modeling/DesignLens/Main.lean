import DesignLens.CommandLine.Pipeline
import DesignLens.CommandLine.Presets

/-!
# The command line

`presets` looks presets up. `pipeline` is a dry run of a pipeline: it starts from an empty folder,
with programs that succeed without a word, and prints the paths of the files that it would leave.
-/

namespace DesignLens.CommandLine

/-- An empty folder, and programs that have nothing to say. -/
def emptyWorld : World := ⟨.empty, ⟨[], []⟩⟩

/-- Runs a pipeline in the empty world and lists the files that it leaves. -/
def dryRun (arguments : List String) : Ending :=
  match runPipeline arguments emptyWorld with
  | (w, .ok e) =>
    let paths := w.tree.files.map fun file => "/".intercalate file.1 ++ "\n"
    { e with printed := e.printed ++ String.join paths }
  | (_, .error failure) => ⟨1, failure.message ++ "\n"⟩

/-- What a command line leads to. -/
def dispatch : List String → Ending
  | "presets" :: arguments => runPresets .shipped arguments
  | "pipeline" :: arguments => dryRun arguments
  | _ => .misused

end DesignLens.CommandLine

def main (arguments : List String) : IO UInt32 := do
  let ending := DesignLens.CommandLine.dispatch arguments
  IO.print ending.printed
  return ending.code.toUInt32
