import DesignLens.Detection.Registry
import DesignLens.Failure
import DesignLens.Json.Traits
import DesignLens.Source.Grammar

/-!
# Probing a text

A probe is anything that can be asked about a program under a name: one of the detectors of this
library, or one from elsewhere, which may fail and may answer with any value. Probing a text asks
all probes of a registry in turn and strings their findings together.

A probe that fails in one of the usual ways contributes a finding about its failure. Any other
failure ends the whole examination.
-/

namespace DesignLens.Analysis

open Source

abbrev Probe : Type := Program → Except Failure Json

abbrev Registry : Type := Table Probe

def Probe.ofDetector (d : Detection.Detector) : Probe := fun p =>
  .ok (.arr ((d p.layout p.module.body).map Detection.Finding.toJson))

/-- The detectors of this library. -/
def builtins : Registry := Detection.detectors.map fun (name, d) => (name, Probe.ofDetector d)

/-- The failures of a probe that become findings. -/
def isTolerated (kind : FailureKind) : Bool :=
  kind == .noAttribute || kind == .wrongType || kind.isBadValue

/-- A finding without confidence. -/
def remark (name reason : String) : Json :=
  (Detection.Finding.mk name (.zero false) reason).toJson

/-- The findings in the answer of a probe; an empty answer of any type has none. -/
def findingsOf (answer : Json) : Except Failure (List Json) :=
  if answer.truthy then answer.elements else .ok []

def consult (p : Program) (name : String) (probe : Probe) : Except Failure (List Json) :=
  match probe p >>= findingsOf with
  | .ok findings => .ok findings
  | .error failure =>
    if isTolerated failure.kind then .ok [remark name s!"detector-error: {failure.message}"]
    else .error failure

/-- The findings of all probes of a registry; a text that is no program has one finding. -/
def probe (registry : Registry) (text : String) : Except Failure (List Json) :=
  match Program.parse text with
  | .error fault => .ok [remark "ParseError" fault.message]
  | .ok p => (registry.mapM fun entry => consult p entry.1 entry.2).map List.flatten

end DesignLens.Analysis
