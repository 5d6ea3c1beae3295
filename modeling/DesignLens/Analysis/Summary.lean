import DesignLens.Failure
import DesignLens.Json.Value
import DesignLens.Source.Grammar
import DesignLens.Text.Dedent

/-!
# Summaries of programs

The functions and classes at the top of a program. The text may be indented as a whole.
-/

namespace DesignLens.Analysis

open Source

structure Summary where
  /-- The names of functions and classes, sorted. -/
  names : List String
  /-- The names of functions in reading order. -/
  functions : List String

/-- The summary of a text, or why it is no program. -/
def summarize (text : String) : Except String Summary :=
  match Program.parse (Text.dedent text ++ "\n") with
  | .error fault => .error s!"Parsing Python code failed:\n{fault.message}"
  | .ok p =>
    let functions := p.module.body.filterMap fun s =>
      match s with
      | .functionDef d => some d.name
      | _ => none
    let classes := p.module.body.filterMap fun s =>
      match s with
      | .classDef d => some d.name
      | _ => none
    .ok ⟨Text.sort (functions ++ classes), functions⟩

def summaryJson : Except String Summary → Json
  | .ok s => .obj [("names", .strings s.names), ("functions", .strings s.functions)]
  | .error message => .obj [("error", .str message)]

end DesignLens.Analysis
