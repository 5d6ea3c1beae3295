import DesignLens.Advice.Maps
import DesignLens.Json.Traits
import DesignLens.Naming
import DesignLens.Ranking.Outline

/-!
# Ranking what to move to

Indicators of bad design speak for patterns and architectures: each kind of indicator has favourites
with a bonus of their own, and speaks with weight one for everything else that there is advice on.
Recommendations add one for each name they mention. The targets are ranked by weight, and by name
where weights are equal.
-/

namespace DesignLens.Ranking

/-- What an indicator of each kind speaks for most. -/
def favourites : Table (List (String × Nat)) :=
  [("high_cc",
      [("Strategy", 3), ("Template Method", 2), ("Chain of Responsibility", 2), ("State", 2),
        ("Command", 2), ("Mediator", 1), ("Visitor", 1), ("Facade", 1), ("Borg", 1)]),
    ("very_large_function",
      [("Template Method", 3), ("Strategy", 2), ("Chain of Responsibility", 1), ("Command", 1),
        ("Borg", 1)]),
    ("low_mi",
      [("Facade", 2), ("Strategy", 2), ("Mediator", 1), ("Observer", 1),
        ("Hexagonal Architecture", 1), ("Clean Architecture", 1), ("Singleton", 1)]),
    ("large_file",
      [("Layered Architecture", 3), ("Model-View-Controller (MVC)", 2),
        ("Hexagonal Architecture", 2), ("Clean Architecture", 2), ("Three-Tier Architecture", 2),
        ("Facade", 1), ("Borg", 1)]),
    ("global_or_any_usage",
      [("Dependency Injection", 3), ("Facade", 2), ("Hexagonal Architecture", 1),
        ("Service Layer", 1), ("Singleton", 2), ("Borg", 2)]),
    ("dynamic_eval",
      [("Factory Method", 3), ("Abstract Factory", 2), ("Strategy", 1), ("Command", 1),
        ("Proxy", 1), ("Visitor", 1)]),
    ("print_logging",
      [("Hexagonal Architecture", 2), ("Facade", 1), ("Observer", 1)])]

/-- Everything that an indicator of a kind speaks for, with the weight; an unknown kind speaks for
nothing. A name with advice of both categories is spoken for twice. -/
def spokenFor (advice : Advice.Maps) (kind : String) : List (String × Nat) :=
  match Table.find? kind favourites with
  | none => []
  | some chosen =>
    let names := Table.keys advice.patterns ++ Table.keys advice.architectures
    chosen ++ (names.filter fun n => !Table.contains n chosen).map fun n => (n, 1)

/-- What speaks for a name so far. -/
structure Tally where
  weight : Nat
  reasons : List String
  deriving DecidableEq, Repr

/-- Adds a weight and a reason to the tally of a name. -/
def addVote (reason : String) (tallies : Table Tally) (vote : String × Nat) : Table Tally :=
  let tally := (Table.find? vote.1 tallies).getD ⟨0, []⟩
  let reasons :=
    if tally.reasons.contains reason then tally.reasons else tally.reasons ++ [reason]
  Table.insert vote.1 ⟨tally.weight + vote.2, reasons⟩ tallies

/-- Takes an indicator of a kind into account. -/
def addIndicator (advice : Advice.Maps) (tallies : Table Tally) (kind : String) : Table Tally :=
  (spokenFor advice kind).foldl (addVote kind) tallies

/-- The names that a text mentions: outright, or through a spelling of a canonical name that is
equal to the name or part of it. -/
def mentioned (text : String) (names : List String) (aliases : Table String) : List String :=
  let text := Text.lower text
  let meant := Table.values (aliases.filter fun entry => Text.occurs entry.1 text)
  names.filter fun name =>
    Text.occurs (Text.lower name) text || meant.any fun canonical =>
      Naming.simplify name == Naming.simplify canonical || Text.occurs canonical (Text.lower name)

/-- The reason given for names that a recommendation mentions. -/
def recommendation : String := "recommendation"

/-- Takes the words of the recommendations into account. -/
def addMentions (advice : Advice.Maps) (aliases : Table String) (text : String)
    (tallies : Table Tally) : Table Tally :=
  if text.isEmpty then tallies
  else
    let hits := mentioned text (Table.keys advice.patterns) aliases ++
      mentioned text (Table.keys advice.architectures) aliases
    (hits.map fun name => (name, 1)).foldl (addVote recommendation) tallies

/-- A pattern or architecture to move to. -/
structure Target where
  name : String
  category : Advice.Category
  weight : Nat
  reasons : List String
  deriving DecidableEq, Repr

def Target.toJson (t : Target) : Json :=
  .arr [.str t.name, .str t.category.word, .nat t.weight, .strings t.reasons]

/-- Heavier targets come first, then smaller names. -/
def Target.precedes (a b : Target) : Bool :=
  b.weight < a.weight || (a.weight == b.weight && decide (a.name ≤ b.name))

def Target.ofTally (advice : Advice.Maps) (name : String) (tally : Tally) : Target :=
  ⟨name, if Table.contains name advice.patterns then .pattern else .architecture, tally.weight,
    Text.sort tally.reasons⟩

/-- The targets for indicators of the given kinds and recommendations with the given words. -/
def rank (advice : Advice.Maps) (aliases : Table String) (kinds : List String) (words : String) :
    List Target :=
  let tallies := addMentions advice aliases words (kinds.foldl (addIndicator advice) [])
  (tallies.map fun entry => Target.ofTally advice entry.1 entry.2).mergeSort Target.precedes

/-- The kind of an indicator given as an object. -/
def kindOf (indicator : Json) : Except Failure String :=
  (indicator.get "type" (.str "")).map Json.shown

/-- The targets for indicators and recommendations of unknown shape. -/
def rankValues (outline : Option Outline) (advice : Advice.Maps) (aliases : Table String)
    (indicators recommendations : List Json) : Except Failure (List Target) := do
  let kinds ← indicators.mapM kindOf
  let text ← Json.joinTexts " " recommendations
  return rank advice aliases kinds (words outline text)

end DesignLens.Ranking
