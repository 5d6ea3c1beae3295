import DesignLens.Workspace.Tree

/-!
# What is examined

A subject is a text given directly, a list of files, or both. Its samples are its texts in order,
each with a label that says where it comes from.
-/

namespace DesignLens.Analysis

open Workspace

structure Subject where
  code : Option String
  files : List String

/-- A text that could be read or not. -/
structure Sample where
  label : String
  text : Except Failure String

/-- The label of a text that was given directly. -/
def inputLabel : String := "<input>"

namespace Subject

def ofCode (code : String) : Subject := ⟨some code, []⟩

/-- No text at all, or only an empty one. -/
def isEmpty (s : Subject) : Bool := (s.code.getD "").isEmpty && s.files.isEmpty

/-- The answer to an empty subject. -/
def emptyMessage : String := "Provide 'code' or 'files'"

/-- A text that was given directly counts only if it is not empty. -/
def withoutEmptyCode (s : Subject) : Subject := { s with code := s.code.filter (!·.isEmpty) }

def fileSample (t : Tree) (file : String) : Sample :=
  let p := Path.ofString file
  ⟨p.toString, t.read p⟩

def samples (t : Tree) (s : Subject) : List Sample :=
  (s.code.toList.map fun code => ⟨inputLabel, .ok code⟩) ++ s.files.map (fileSample t)

end Subject

end DesignLens.Analysis
