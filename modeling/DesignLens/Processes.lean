import DesignLens.Failure

/-!
# Other programs

Other programs are run one after another. What they answer is settled beforehand: the answers stand
in a queue, and when it is empty a program succeeds without a word. The commands are recorded.
-/

namespace DesignLens

structure ProcessOutput where
  exitCode : Int
  stdout : String
  stderr : String
  deriving DecidableEq, Repr

structure Processes where
  queue : List (Except Failure ProcessOutput)
  commands : List (List String)

def Processes.run (p : Processes) (command : List String) :
    Processes × Except Failure ProcessOutput :=
  match p.queue with
  | [] => (⟨[], p.commands ++ [command]⟩, .ok ⟨0, "", ""⟩)
  | answer :: rest => (⟨rest, p.commands ++ [command]⟩, answer)

end DesignLens
