import DesignLens.Setting

/-!
# Suggestions

A suggestion is a target with advice. For each result of a scan the first targets of its ranking are
looked at, and those with advice are suggested.
-/

namespace DesignLens.Proposal

open Analysis Workspace

structure Suggestion where
  target : Ranking.Target
  prompt : String

def Suggestion.toJson (s : Suggestion) : Json :=
  .obj [("target", .str s.target.name), ("category", .str s.target.category.word),
    ("weight", .nat s.target.weight), ("reasons", .strings s.target.reasons),
    ("prompt", .str s.prompt)]

/-- The advice on a target, unless it is empty. -/
def promptFor (advice : Advice.Maps) (t : Ranking.Target) : Option String :=
  let found :=
    match t.category with
    | .pattern => Table.find? t.name advice.patterns
    | .architecture => Table.find? t.name advice.architectures
  found.filter (!·.isEmpty)

/-- The suggestions among the first targets. -/
def suggestFirst (advice : Advice.Maps) (n : Nat) (targets : List Ranking.Target) :
    List Suggestion :=
  (targets.take n).filterMap fun t => (promptFor advice t).map fun prompt => ⟨t, prompt⟩

/-- What a scan found in a source and what it suggests. -/
structure Assessment where
  result : Scan.Result
  suggestions : List Suggestion

def Assessment.toJson (a : Assessment) : Json :=
  .obj [("source", .str a.result.source), ("metrics", a.result.metrics),
    ("indicators", .arr (a.result.indicators.map Scan.Indicator.toJson)),
    ("suggestions", .arr (a.suggestions.map Suggestion.toJson))]

abbrev Assessments : Type := Except String (List Assessment)

def defaultPerSource : Nat := 3

/-- Scans a subject and suggests targets for each of its samples. -/
def assess (s : Setting) (t : Tree) (subject : Subject) (count : Int) :
    Except Failure Assessments :=
  (Scan.scan s.instruments t subject).map fun results =>
    results.map fun rs => rs.map fun r =>
      ⟨r, suggestFirst s.advice (countOr defaultPerSource count) (s.rankResult r)⟩

def assessmentsJson : Assessments → Json
  | .ok as => .obj [("results", .arr (as.map Assessment.toJson))]
  | .error message => messageJson message

def defaultInAll : Nat := 5

/-- Only the suggestions of a category. -/
def ofCategory (category : Advice.Category) (suggestions : List Suggestion) : List Suggestion :=
  suggestions.filter fun s => s.target.category = category

/-- Only the architectures among the suggestions. -/
def Assessment.architecturesOnly (count : Int) (a : Assessment) : Assessment :=
  { a with
    suggestions := (ofCategory .architecture a.suggestions).take (countOr defaultInAll count) }

def assessArchitectures (s : Setting) (t : Tree) (subject : Subject) (count : Int) :
    Except Failure Assessments :=
  (assess s t subject count).map fun as => as.map fun l => l.map (·.architecturesOnly count)

end DesignLens.Proposal
