import DesignLens.Processes
import DesignLens.Workspace.Tree

/-!
# The world

What operations may change: the files, and the other programs with what they still have to answer.
-/

namespace DesignLens

structure World where
  tree : Workspace.Tree
  processes : Processes

end DesignLens
