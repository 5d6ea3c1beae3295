import DesignLens.Enforcement.Target

/-!
# Enforcing what a scan speaks for

The files are scanned, the targets that the scan speaks for are ranked, and the first of them are
enforced one after another.
-/

namespace DesignLens.Enforcement

open Workspace

structure RankedRequest where
  paths : List String
  topCount : Int
  scope : String
  dryRun : Bool
  outFolder : Option String

/-- The number of targets to enforce unless told otherwise. -/
def defaultTargets : Nat := 3

/-- A target and what came of enforcing it. -/
structure Applied where
  target : Ranking.Target
  report : Report

def Applied.toJson (a : Applied) : Json :=
  .obj (Table.insert "reasons" (.strings a.target.reasons)
    (Table.insert "weight" (.nat a.target.weight) a.report.fields))

/-- The indicators and recommendations of several results, in order. -/
def rankAll (s : Setting) (results : List Scan.Result) : List Ranking.Target :=
  s.rank (results.flatMap fun r => r.indicators) (results.flatMap fun r => r.recommendations)

/-- The targets that the files under the paths speak for. -/
def rankedTargets (s : Setting) (t : Tree) (paths : List String) :
    Except Failure (List Ranking.Target) := do
  let files ← sources t paths
  let results ← Scan.scan s.instruments t ⟨none, files.map Path.toString⟩
  return rankAll s (results.toOption.getD [])

/-- Enforces targets one after another. -/
def applyTargets (s : Setting) (r : RankedRequest) :
    Tree → List Ranking.Target → Tree × Except Failure (List Applied)
  | t, [] => (t, .ok [])
  | t, target :: rest =>
    match enforce s t ⟨target.name, r.paths, r.scope, r.dryRun, r.outFolder, none⟩ with
    | (t, .error failure) => (t, .error failure)
    | (t, .ok report) =>
      let (t, applied) := applyTargets s r t rest
      (t, applied.map fun as => ⟨target, report⟩ :: as)

/-- What was enforced, if there were any paths. -/
def enforceRanked (s : Setting) (t : Tree) (r : RankedRequest) :
    Tree × Except Failure (Option (List Applied)) :=
  if r.paths.isEmpty then (t, .ok none)
  else
    match rankedTargets s t r.paths with
    | .error failure => (t, .error failure)
    | .ok targets =>
      let (t, applied) := applyTargets s r t (targets.take (countOr defaultTargets r.topCount))
      (t, applied.map some)

def rankedJson (r : RankedRequest) : Option (List Applied) → Json
  | none => .obj noPathsFields
  | some applied =>
    .obj [("status", .str "ok"), ("paths", .strings r.paths), ("top_n", .int r.topCount),
      ("dry_run", .bool r.dryRun), ("scope", .str r.scope),
      ("applied", .arr (applied.map Applied.toJson))]

end DesignLens.Enforcement
