import DesignLens.Setting

/-!
# Advice on what is there

For the patterns or architectures found in a text the advice on them is given, each piece once and
in the order of the findings. If there is no such advice, the first pieces of all advice are
given.
-/

namespace DesignLens.Proposal

open Analysis

/-- The canonical names of findings, each once. -/
def foundNames (findings : List Json) : List String :=
  (findings.map fun f => Naming.canonical (f.fieldD "name" (.str "")).shown).eraseDups.filter
    (!·.isEmpty)

/-- The number of pieces of advice that are given for want of better. -/
def generalCount : Nat := 3

def adviceOn (advice : Table String) (findings : List Json) : Table String :=
  let fitting := (foundNames findings).filterMap fun name =>
    ((Table.find? name advice).filter (!·.isEmpty)).map fun text => (name, text)
  if fitting.isEmpty then advice.take generalCount else fitting

/-- Pieces of advice with a word for what they are about. -/
def adviceJson (word : String) (advice : Table String) : Json :=
  .obj [("suggestions", .arr (advice.map fun a =>
    .obj [(word, .str a.1), ("advice", .str a.2)]))]

def advisePatterns (s : Setting) (t : Workspace.Tree) (code : String) :
    Except Failure (Table String) :=
  (patterns s.registry t (.ofCode code)).map fun f => adviceOn s.advice.patterns (findingsD f)

def adviseArchitectures (s : Setting) (t : Workspace.Tree) (code : String) :
    Except Failure (Table String) :=
  (architectures s.registry t (.ofCode code)).map fun f =>
    adviceOn s.advice.architectures (findingsD f)

end DesignLens.Proposal
