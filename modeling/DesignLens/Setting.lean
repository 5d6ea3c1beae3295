import DesignLens.Ranking.Targets
import DesignLens.Scaffold.Introduce
import DesignLens.Scan.Results
import DesignLens.TypeHints.Editor

/-!
# Setting

The setting is what operations depend on and never change.
-/

namespace DesignLens

structure Setting where
  registry : Analysis.Registry
  advice : Advice.Maps
  workshop : Scaffold.Workshop
  instruments : Metrics.Instruments
  /-- Whether there is a linter. -/
  linter : Bool
  /-- The outline of a text that is searched for names, if it has one. -/
  outline : String → Option Ranking.Outline
  /-- What hints are added with. -/
  editor : TypeHints.Editor

/-- The targets that indicators and their recommendations speak for. -/
def Setting.rank (s : Setting) (indicators : List Scan.Indicator) (recommendations : List String) :
    List Ranking.Target :=
  let text := " ".intercalate recommendations
  Ranking.rank s.advice Naming.aliases (indicators.map fun i => i.kind.word)
    (Ranking.words (s.outline text) text)

/-- The targets that one result of a scan speaks for. -/
def Setting.rankResult (s : Setting) (r : Scan.Result) : List Ranking.Target :=
  s.rank r.indicators r.recommendations

/-- The number of things asked for; a number that is not positive stands for a default. -/
def countOr (default : Nat) (asked : Int) : Nat := if 0 < asked then asked.toNat else default

end DesignLens
