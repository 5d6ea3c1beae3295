import DesignLens.Pipeline.Result

/-!
# Running a pipeline

The stages of a pipeline run one after another. Each is given the context as it is then, and what a
stage that succeeds puts out is added to the context for those after it. A stage that breaks off has
a result that says why. If the pipeline is to fail fast, a stage that does not succeed is the last.
An interruption by the user ends the whole run.
-/

namespace DesignLens.Pipeline

open Workspace

abbrev Context : Type := Table Json

/-- A stage changes a world of its own kind, and gives a result or breaks off. -/
structure Stage (ω : Type) where
  name : Option Json
  run : Context → ω → ω × Except Failure StageResult

/-- What happened to one stage: what it was given and the results it led to. -/
structure Step where
  given : Context
  results : List StageResult

variable {ω : Type}

/-- What comes after a stage gave its result: the new context, and a failure if the result cannot be
made use of. -/
def absorb (context : Context) (r : StageResult) : Context × Option Failure :=
  if r.succeeded then
    match if r.output.truthy then r.output.record else .ok [] with
    | .error failure => (context, some failure)
    | .ok fields =>
      let context := Table.overlay context fields
      match r.duration.fixedText 2 with
      | .ok _ => (context, none)
      | .error failure => (context, some failure)
  else (context, none)

/-- The name of a stage, or its number. -/
def Stage.nameOr (s : Stage ω) (number : Nat) : Json := s.name.getD (.str s!"Stage {number}")

/-- Runs one stage: the context after it and what happened. A stage that breaks off has a result all
the same, unless the user interrupts it. -/
def Stage.execute (s : Stage ω) (number : Nat) (context : Context) (w : ω) :
    ω × Except Failure (Context × Step) :=
  let brokenOff (f : Failure) : StageResult := .brokenOff (s.nameOr number) (.str f.message)
  let (w, answer) := s.run context w
  (w, Failure.handle (fun f => (context, ⟨context, [brokenOff f]⟩)) (answer.map fun r =>
    let (after, problem) := absorb context r
    (after, ⟨context, r :: problem.toList.map brokenOff⟩)))

def Step.succeeded (s : Step) : Bool := s.results.all StageResult.succeeded

/-- Runs the stages in turn; `number` is the number of the first one. -/
def executeFrom (failFast : Bool) :
    Nat → Context → ω → List (Stage ω) → ω × Except Failure (Context × List Step)
  | _, context, w, [] => (w, .ok (context, []))
  | number, context, w, stage :: rest =>
    match stage.execute number context w with
    | (w, .error failure) => (w, .error failure)
    | (w, .ok (context, step)) =>
      if failFast && !step.succeeded then (w, .ok (context, [step]))
      else
        let (w, outcome) := executeFrom failFast (number + 1) context w rest
        (w, outcome.map fun (context, steps) => (context, step :: steps))

/-- The stages to run, and what they start from. -/
structure Plan (ω : Type) where
  stages : List (Stage ω)
  context : Context
  failFast : Bool

/-- What came of a run. -/
structure Outcome where
  steps : List Step
  context : Context

def Outcome.results (o : Outcome) : List StageResult := o.steps.flatMap fun s => s.results

def Outcome.artifacts (o : Outcome) : List Path := o.results.flatMap fun r => r.artifacts

def Plan.run (p : Plan ω) (w : ω) : ω × Except Failure Outcome :=
  let (w, outcome) := executeFrom p.failFast 1 p.context w p.stages
  (w, outcome.map fun (context, steps) => ⟨steps, context⟩)

/-- Runs a pipeline several times, each time with the context that the last run left. -/
def Plan.runTimes : Nat → Plan ω → ω → ω × Except Failure (List Outcome)
  | 0, _, w => (w, .ok [])
  | n + 1, p, w =>
    match p.run w with
    | (w, .error failure) => (w, .error failure)
    | (w, .ok outcome) =>
      let (w, outcomes) := runTimes n { p with context := outcome.context } w
      (w, outcomes.map (outcome :: ·))

def Outcome.toJson (o : Outcome) : Json :=
  .obj [("results", .arr (o.results.map StageResult.toJson)),
    ("contexts", .arr (o.steps.map fun s => .obj s.given)), ("context", .obj o.context),
    ("artifacts", pathsJson o.artifacts)]

def planParameters : List Arguments.Parameter :=
  [.required "name", .optional "stages", .optional "context", .optional "fail_fast"]

/-- A pipeline from named arguments and its stages. -/
def Plan.ofArguments (arguments : Table Json) (stages : List (Stage ω)) :
    Except Failure (Plan ω) :=
  match Arguments.callFailure? "Pipeline.__init__" planParameters arguments "self" with
  | some failure => .error failure
  | none =>
    let context :=
      match argumentD arguments "context" (.obj []) with
      | .obj fields => fields
      | _ => []
    .ok ⟨stages, context, (argumentD arguments "fail_fast" (.bool true)).truthy⟩

end DesignLens.Pipeline
