import DesignLens.CommandLine.Ending
import DesignLens.Failure

/-!
# The command for the server

The server runs until it is stopped. An interruption by the user is a good end, any other failure a
bad one; a server that stops of its own accord sets no exit code.
-/

namespace DesignLens.CommandLine

/-- The exit code after the server has stopped. -/
def serverCode : Except Failure Unit → Option Nat
  | .ok () => none
  | .error f => if f.kind.isHandled then some 1 else some 0

end DesignLens.CommandLine
