import DesignLens.Analysis.Probe
import DesignLens.Analysis.Subject

/-!
# Surveys

A survey probes every sample of a subject and reports the findings with the label of their sample. A
sample that cannot be read or probed has one error record instead. The survey of architectures keeps
only the findings that name an architecture or one of its building blocks.
-/

namespace DesignLens.Analysis

open Workspace

def errorRecord (label message : String) : Json :=
  .obj [("source", .str label), ("error", .str message)]

/-- A finding with its label, and with its name as the pattern it stands for. -/
def patternFinding (label : String) (finding : Json) : Except Failure Json := do
  let fields ← finding.record
  let fields :=
    match Table.find? "pattern" fields, Table.find? "name" fields with
    | none, some name => Table.insert "pattern" name fields
    | _, _ => fields
  return .obj (Table.insert "source" (.str label) fields)

/-- Names of architectures and of their building blocks. -/
def architectureNames : List String :=
  ["layered architecture", "hexagonal architecture", "clean architecture", "3-tier architecture",
    "three-tier architecture", "model-view-controller (mvc)", "repository", "service layer",
    "unit of work", "message bus", "domain events", "cqrs", "front controller"]

def withoutArchitecture (name : String) : String := Text.replaceAll " architecture" "" name

def namesArchitecture (name : String) : Bool :=
  let name := Text.lower (Text.trim name)
  !name.isEmpty && (Text.occurs "architecture" name || architectureNames.contains name ||
    (architectureNames.map withoutArchitecture).contains (Text.trim (withoutArchitecture name)))

/-- The name of a finding, or for want of it the pattern it stands for. -/
def nameOrPattern (finding : Json) : Except Failure Json := do
  return (← finding.get "name" .null).orElse (← finding.get "pattern" .null)

/-- A finding about an architecture with its label; other findings are dropped. -/
def architectureFinding (label : String) (finding : Json) : Except Failure (List Json) := do
  let name ← nameOrPattern finding
  if namesArchitecture (name.orElse (.str "")).shown then
    let fields ← finding.record
    return [.obj (Table.insert "source" (.str label) (Table.insert "name" name fields))]
  else return []

/-- What a sample contributes to a survey that reports findings in a certain way. -/
def surveySample (registry : Registry) (present : String → Json → Except Failure (List Json))
    (s : Sample) : Except Failure (List Json) :=
  match s.text >>= probe registry with
  | .ok findings => (findings.mapM (present s.label)).map List.flatten
  | .error failure => Failure.handle (fun f => [errorRecord s.label f.message]) (.error failure)

/-- The findings of a survey, or a message. -/
abbrev Findings : Type := Except String (List Json)

def survey (registry : Registry) (present : String → Json → Except Failure (List Json)) (t : Tree)
    (s : Subject) : Except Failure Findings :=
  if s.isEmpty then .ok (.error Subject.emptyMessage)
  else ((s.samples t).mapM (surveySample registry present)).map fun parts => .ok parts.flatten

def patterns (registry : Registry) (t : Tree) (s : Subject) : Except Failure Findings :=
  survey registry (fun label finding => (patternFinding label finding).map fun r => [r]) t s

def architectures (registry : Registry) (t : Tree) (s : Subject) : Except Failure Findings :=
  survey registry architectureFinding t s

/-- An answer that is only a message. -/
def messageJson (message : String) : Json := .obj [("error", .str message)]

def findingsJson : Findings → Json
  | .ok findings => .obj [("findings", .arr findings)]
  | .error message => messageJson message

/-- The findings, if there are any. -/
def findingsD (f : Findings) : List Json := f.toOption.getD []

end DesignLens.Analysis
