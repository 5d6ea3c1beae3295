/-!
# How a command ends

A command ends with an exit code and what it printed.
-/

namespace DesignLens.CommandLine

structure Ending where
  code : Nat
  printed : String
  deriving DecidableEq, Repr

namespace Ending

/-- A good end. -/
def printing (text : String) : Ending := ⟨0, text⟩

/-- The end of a command with an invalid command line. -/
def misused : Ending := ⟨2, ""⟩

end Ending

end DesignLens.CommandLine
