import DesignLens.Advice.Defaults
import DesignLens.Detection.Summaries
import DesignLens.Json.Value
import DesignLens.Text.Case
import DesignLens.Text.Search

/-!
# Advice by name

The advice on patterns and on architectures starts with the standing advice. Each detector may
replace the advice on its own name: by the advice of its module, by the first sentence about the
module, or by the first sentence about the detector itself.
-/

namespace DesignLens.Advice

inductive Category where
  | pattern
  | architecture
  deriving DecidableEq, Repr

def Category.word : Category → String
  | .pattern => "Pattern"
  | .architecture => "Architecture"

def architectureNames : List String :=
  ["Layered Architecture", "Hexagonal Architecture", "Clean Architecture", "MVC",
    "Front Controller", "Three-Tier Architecture", "Repository", "Service Layer", "Unit of Work",
    "Message Bus", "Domain Events", "CQRS"]

def categoryOf (name : String) : Category :=
  if architectureNames.contains name then .architecture else .pattern

/-- The greatest length of a piece of advice taken from a description. -/
def sentenceLimit : Nat := 220

/-- The first sentence of the first line of a description, or that line if it starts with a point.
A description without any text gives none. -/
def firstSentence (description : String) : Option String :=
  match Text.lines (Text.trim description) with
  | [] => none
  | line :: _ =>
    let line := Text.trim line
    let sentence := Text.trim (Text.before "." line)
    let chosen := if sentence.isEmpty then line else sentence
    if chosen.isEmpty then none else some (String.ofList (chosen.toList.take sentenceLimit))

/-- What a module says about itself. -/
structure Handbook where
  description : Option String
  advice : Json

/-- A detector as a source of advice. -/
structure Adviser where
  description : Option String
  handbook : Option Handbook

/-- The modules that detectors without a module are looked up in, by name. -/
def moduleNames : List String :=
  let packages := ["patterns", "architecture", "refactors", "refactors.__init__", "__init__"]
  let patterns :=
    ["__init__", "abstract_factory", "adapter", "blackboard", "borg", "bridge", "builder",
      "catalog", "chain_of_responsibility", "chaining_method", "command", "composite", "decorator",
      "delegation_pattern", "dependency_injection", "facade", "factory", "factory_method",
      "flyweight", "graph_search", "hsm", "iterator", "lazy_evaluation", "mediator", "memento",
      "observer", "pool", "prototype", "proxy", "publish_subscribe", "registry", "singleton",
      "specification", "state", "strategy", "template_method", "visitor"]
  let architectures :=
    ["__init__", "clean", "cqrs", "domain_events", "front_controller", "hexagonal", "layered",
      "message_bus", "mvc", "repository", "service_layer", "three_tier", "unit_of_work"]
  packages ++ patterns.map ("patterns." ++ ·) ++ architectures.map ("architecture." ++ ·)

def moduleName (name : String) : String :=
  Text.replaceAll "-" "_" (Text.replaceAll " " "_" (Text.lower name))

/-- The handbook of a detector: its own, or the empty one of a module with a fitting name. -/
def handbookOf (name : String) (a : Adviser) : Option Handbook :=
  match a.handbook with
  | some h => some h
  | none =>
    let module := moduleName name
    if [module, "patterns." ++ module, "architecture." ++ module].any moduleNames.contains then
      some ⟨none, .null⟩
    else none

/-- The advice that a detector gives on its name. -/
def adviceFrom (name : String) (a : Adviser) : Option String :=
  (handbookOf name a).bind fun h =>
    match h.advice with
    | .str text =>
      let text := Text.trim text
      if text.isEmpty then described h else some text
    | _ => described h
where
  described (h : Handbook) : Option String :=
    (h.description.bind firstSentence).orElse fun _ => a.description.bind firstSentence

/-- Advice on patterns and on architectures. -/
structure Maps where
  patterns : Table String
  architectures : Table String

def Maps.insert (m : Maps) (name text : String) : Maps :=
  match categoryOf name with
  | .pattern => { m with patterns := Table.insert name text m.patterns }
  | .architecture => { m with architectures := Table.insert name text m.architectures }

def Maps.defaults : Maps := ⟨patternDefaults, architectureDefaults⟩

def Maps.build (advisers : Table Adviser) : Maps :=
  advisers.foldl
    (fun m entry => ((adviceFrom entry.1 entry.2).map (m.insert entry.1)).getD m) .defaults

/-- The detectors of this library as sources of advice: their modules add nothing to what is said
about them. -/
def advisers : Table Adviser :=
  Detection.summaries.map fun (name, text) => (name, ⟨some text, some ⟨none, .null⟩⟩)

end DesignLens.Advice
