import DesignLens.Json.Writer
import DesignLens.Source.Syntax

/-!
# Findings

A finding says that a text shows a design pattern or an architecture, how sure that is, and why. A
detector looks at the statements of a module and at the text they were read from.
-/

namespace DesignLens.Detection

open Source

structure Finding where
  name : String
  confidence : Number.Binary64
  reason : String
  deriving DecidableEq, Repr

def Finding.toJson (f : Finding) : Json :=
  .obj [("name", .str f.name), ("confidence", .float f.confidence), ("reason", .str f.reason)]

/-- Reports what the statements of a module show. -/
abbrev Detector : Type := Layout → List Stmt → List Finding

/-- A detector that looks at the statements of a module one by one. -/
def perStatement (f : Layout → Stmt → List Finding) : Detector :=
  fun layout body => body.flatMap (f layout)

/-- A detector that looks at the classes of a module one by one. -/
def perClass (f : Layout → ClassDef → List Finding) : Detector :=
  perStatement fun layout s =>
    match s with
    | .classDef c => f layout c
    | _ => []

/-- A detector that looks at the functions of a module one by one. -/
def perFunction (f : Layout → FunctionDef → List Finding) : Detector :=
  perStatement fun layout s =>
    match s with
    | .functionDef d => if d.isAsync then [] else f layout d
    | _ => []

/-- One finding if a condition holds. -/
def report (condition : Bool) (finding : Finding) : List Finding :=
  if condition then [finding] else []

/-- A confidence given in hundredths. -/
def hundredths (n : Nat) : Number.Binary64 := .ofRatio false n 100

/-- A confidence that starts at six tenths and grows by one tenth with each further signal. -/
def graded (signals : Nat) : Number.Binary64 :=
  (hundredths 60).add ((hundredths 10).mul (.ofInt signals))

/-- A list of texts as reasons show it. -/
def shownTexts (texts : List String) : String := (Json.strings texts).shown

end DesignLens.Detection
