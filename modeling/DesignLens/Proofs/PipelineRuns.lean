import DesignLens.Pipeline.Run
import DesignLens.Proofs.TableEntries

/-!
# Runs of a pipeline

Every stage that runs leaves one result, and is given the context that the pipeline started with,
overlaid with what the stages before it put out as far as they succeeded. A pipeline that fails fast
runs its stages up to the first one that does not succeed, any other pipeline runs all of them.

This is about stages whose results have the types that they are meant to have. A result of another
type may leave a second result behind, for it can break off the work on the first one.
-/

namespace DesignLens.Pipeline

variable {ω : Type}

/-! ## What stages answer -/

/-- A result whose parts have the types that they are meant to have. -/
structure StageResult.WellTyped (r : StageResult) : Prop where
  stageName : ∃ name, r.stageName = .str name
  success : ∃ b, r.success = .bool b
  duration : ∃ x, r.duration = .float x
  output : ∃ fields, r.output = .obj fields ∧ (Table.keys fields).Nodup
  errors : ∃ messages, r.errors = .strings messages

/-- A stage that gives a well-typed result or breaks off, in whatever context and world. -/
def Stage.WellTyped (s : Stage ω) : Prop :=
  ∀ context w,
    match (s.run context w).2 with
    | .ok r => r.WellTyped
    | .error failure => failure.kind.isHandled = true

/-- The result that is kept of what a stage answers. -/
def Stage.resultOf (s : Stage ω) (number : Nat) : Except Failure StageResult → StageResult
  | .ok r => r
  | .error failure => .brokenOff (s.nameOr number) (.str failure.message)

/-! ## Contexts -/

/-- What a result puts out. -/
def StageResult.fields (r : StageResult) : Context :=
  match r.output with
  | .obj fields => fields
  | _ => []

/-- A context overlaid with what results put out, in turn, as far as they are successes. -/
def overlaid (context : Context) (results : List StageResult) : Context :=
  (results.filter StageResult.succeeded).foldl (fun c r => Table.overlay c r.fields) context

theorem overlaid_cons (context : Context) (r : StageResult) (results : List StageResult) :
    overlaid context (r :: results) = overlaid (overlaid context [r]) results := by
  unfold overlaid
  rw [List.filter_cons, List.filter_cons]
  split <;> rfl

theorem nodup_fields_resultOf {s : Stage ω} (hs : s.WellTyped) (number : Nat) (context : Context)
    (w : ω) : (Table.keys (s.resultOf number (s.run context w).2).fields).Nodup := by
  have h := hs context w
  cases hanswer : (s.run context w).2 with
  | ok r =>
    rw [hanswer] at h
    obtain ⟨fields, hfields, hn⟩ := h.output
    rw [Stage.resultOf, StageResult.fields, hfields]
    exact hn
  | error failure => exact List.nodup_nil

/-- Of the results that succeed, the last one with an entry for a name decides on it. -/
theorem find?_overlaid {results : List StageResult}
    (hn : ∀ r ∈ results, (Table.keys r.fields).Nodup) (context : Context) (name : String) :
    Table.find? name (overlaid context results) =
      (((results.filter StageResult.succeeded).reverse.findSome? fun r =>
        Table.find? name r.fields).or (Table.find? name context)) := by
  induction results generalizing context with
  | nil => rfl
  | cons r results ih =>
    have hrest := ih fun r' hr' => hn r' (List.mem_cons_of_mem r hr')
    rw [overlaid_cons, hrest, List.filter_cons]
    cases hr : r.succeeded with
    | false =>
      have hsame : overlaid context [r] = context := by
        rw [overlaid, List.filter_cons_of_neg (by simp [hr])]
        rfl
      rw [hsame, if_neg Bool.false_ne_true]
    | true =>
      have hover : overlaid context [r] = Table.overlay context r.fields := by
        rw [overlaid, List.filter_cons_of_pos hr]
        rfl
      rw [hover, Table.find?_overlay (hn r List.mem_cons_self), if_pos rfl, List.reverse_cons,
        List.findSome?_append, Option.or_assoc, List.findSome?_singleton]

/-! ## One stage -/

theorem absorb_of_wellTyped {r : StageResult} (hr : r.WellTyped) (context : Context) :
    absorb context r = (overlaid context [r], none) := by
  obtain ⟨fields, hfields, -⟩ := hr.output
  obtain ⟨x, hx⟩ := hr.duration
  have hput : (if r.output.truthy then r.output.record else .ok []) = .ok r.fields := by
    rw [StageResult.fields, hfields]
    cases fields <;> rfl
  cases h : r.succeeded with
  | false =>
    rw [absorb, if_neg (by simp [h]), overlaid, List.filter_cons_of_neg (by simp [h])]
    rfl
  | true =>
    rw [absorb, if_pos h, hput, overlaid, List.filter_cons_of_pos h, hx]
    rfl

/-- A stage that succeeds adds what it puts out to the context, and any other adds nothing. Each
leaves the one result that is kept of its answer. -/
theorem Stage.execute_eq {s : Stage ω} (hs : s.WellTyped) (number : Nat) (context : Context)
    (w : ω) :
    s.execute number context w =
      let (after, answer) := s.run context w
      (after, .ok (overlaid context [s.resultOf number answer],
        ⟨context, [s.resultOf number answer]⟩)) := by
  have h := hs context w
  rcases hrun : s.run context w with ⟨after, failure | r⟩
  · rw [hrun] at h
    simp only [Stage.execute, hrun, Except.map, Failure.handle, if_pos h]
    rfl
  · rw [hrun] at h
    simp only [Stage.execute, hrun, Except.map, Failure.handle, absorb_of_wellTyped h]
    rfl

/-! ## Stages in turn -/

/-- What comes of stages that run in turn, the first of them with the given number, in the given
context and world: the worlds after the stages that ran, and their results. -/
structure Runs (failFast : Bool) (number : Nat) (context : Context) (stages : List (Stage ω))
    (w : ω) (worlds : List ω) (results : List StageResult) : Prop where
  /-- Each result is what is kept of the answer of the stage in the same place. The stage ran in the
  world that the ones before it left, and in the context overlaid with their results. -/
  answers : ∀ i r, results[i]? = some r → ∃ (stage : Stage ω) (before after : ω) (answer : _),
    stages[i]? = some stage ∧ (w :: worlds)[i]? = some before ∧ worlds[i]? = some after ∧
      stage.run (overlaid context (results.take i)) before = (after, answer) ∧
      r = stage.resultOf (number + i) answer
  length_worlds : worlds.length = results.length
  /-- Only the last of the stages that run may fail, if the pipeline is to fail fast. -/
  succeeded : failFast = true → ∀ r ∈ results.dropLast, r.succeeded = true
  /-- A stage is left out only after a failure, and only if the pipeline is to fail fast. -/
  cut : results.length < stages.length →
    failFast = true ∧ ∃ r, results.getLast? = some r ∧ r.succeeded = false

theorem runs_nil (failFast : Bool) (number : Nat) (context : Context) (w : ω) :
    Runs failFast number context [] w [] [] where
  answers _ _ h := by simp at h
  length_worlds := rfl
  succeeded _ _ h := by simp at h
  cut h := by simp at h

/-- A failed stage is the last one of a pipeline that fails fast. -/
theorem runs_stop {number : Nat} {context : Context} {stage : Stage ω} {w after : ω}
    {answer : Except Failure StageResult} (hrun : stage.run context w = (after, answer))
    (hfailed : (stage.resultOf number answer).succeeded = false) (rest : List (Stage ω)) :
    Runs true number context (stage :: rest) w [after] [stage.resultOf number answer] where
  answers i r h := by
    obtain ⟨rfl, rfl⟩ : i = 0 ∧ stage.resultOf number answer = r := by
      cases i <;> simp_all
    exact ⟨stage, w, after, answer, rfl, rfl, rfl, hrun, rfl⟩
  length_worlds := rfl
  succeeded _ _ h := by simp at h
  cut _ := ⟨rfl, _, rfl, hfailed⟩

theorem Runs.cons {failFast : Bool} {number : Nat} {context : Context} {stage : Stage ω}
    {w after : ω} {answer : Except Failure StageResult} {rest : List (Stage ω)} {worlds : List ω}
    {results : List StageResult} (hrun : stage.run context w = (after, answer))
    (hgoes : failFast = true → (stage.resultOf number answer).succeeded = true)
    (h : Runs failFast (number + 1) (overlaid context [stage.resultOf number answer]) rest after
      worlds results) :
    Runs failFast number context (stage :: rest) w (after :: worlds)
      (stage.resultOf number answer :: results) where
  answers i r hr := by
    cases i with
    | zero =>
      obtain rfl : stage.resultOf number answer = r := by simpa using hr
      exact ⟨stage, w, after, answer, rfl, rfl, rfl, hrun, rfl⟩
    | succ i =>
      obtain ⟨stage', before, after', answer', hstage, hbefore, hafter, hrun', hr'⟩ :=
        h.answers i r (by simpa using hr)
      refine ⟨stage', before, after', answer', hstage, hbefore, hafter, ?_, ?_⟩
      · rw [List.take_succ_cons, overlaid_cons]
        exact hrun'
      · rw [hr', Nat.add_right_comm, Nat.add_assoc]
  length_worlds := congrArg (· + 1) h.length_worlds
  succeeded hfast r hr := by
    cases results with
    | nil => simp at hr
    | cons r' results =>
      rw [List.dropLast_cons_of_ne_nil (List.cons_ne_nil r' results)] at hr
      rcases List.mem_cons.mp hr with rfl | hr
      · exact hgoes hfast
      · exact h.succeeded hfast r hr
  cut hlt := by
    obtain ⟨hfast, r, hr, hfailed⟩ := h.cut (by simpa using hlt)
    refine ⟨hfast, r, ?_, hfailed⟩
    rw [List.getLast?_cons, hr]
    rfl

/-- The steps of stages that leave one result each. -/
def stepsOf (context : Context) (results : List StageResult) : List Step :=
  results.mapIdx fun i r => ⟨overlaid context (results.take i), [r]⟩

theorem stepsOf_cons (context : Context) (r : StageResult) (results : List StageResult) :
    stepsOf context (r :: results) =
      ⟨context, [r]⟩ :: stepsOf (overlaid context [r]) results := by
  have hgiven (i : Nat) : overlaid context ((r :: results).take (i + 1)) =
      overlaid (overlaid context [r]) (results.take i) := by
    rw [List.take_succ_cons, overlaid_cons]
  rw [stepsOf, List.mapIdx_cons]
  simp only [hgiven]
  rfl

theorem flatMap_stepsOf (context : Context) (results : List StageResult) :
    ((stepsOf context results).flatMap fun s => s.results) = results := by
  induction results generalizing context with
  | nil => rfl
  | cons r results ih =>
    rw [stepsOf_cons, List.flatMap_cons, ih]
    rfl

theorem executeFrom_runs (failFast : Bool) {stages : List (Stage ω)}
    (hs : ∀ s ∈ stages, s.WellTyped) (number : Nat) (context : Context) (w : ω) :
    ∃ (worlds : List ω) (results : List StageResult),
      Runs failFast number context stages w worlds results ∧
      executeFrom failFast number context w stages =
        (worlds.getLastD w, .ok (overlaid context results, stepsOf context results)) := by
  induction stages generalizing number context w with
  | nil => exact ⟨[], [], runs_nil failFast number context w, rfl⟩
  | cons stage rest ih =>
    rcases hrun : stage.run context w with ⟨after, answer⟩
    have hstep := stage.execute_eq (hs stage List.mem_cons_self) number context w
    rw [hrun] at hstep
    by_cases hstop : failFast = true ∧ (stage.resultOf number answer).succeeded = false
    · obtain ⟨rfl, hfailed⟩ := hstop
      refine ⟨[after], [stage.resultOf number answer], runs_stop hrun hfailed rest, ?_⟩
      simp only [executeFrom, hstep, Step.succeeded, List.all_cons, hfailed]
      rfl
    · obtain ⟨worlds, results, hruns, heq⟩ := ih (fun s h => hs s (List.mem_cons_of_mem stage h))
        (number + 1) (overlaid context [stage.resultOf number answer]) after
      have hgoes : (failFast && !(stage.resultOf number answer).succeeded) = false := by
        grind
      refine ⟨after :: worlds, stage.resultOf number answer :: results,
        hruns.cons hrun (by grind), ?_⟩
      simp only [executeFrom, hstep, Step.succeeded, List.all_cons, List.all_nil, Bool.and_true,
        hgoes, heq, Except.map, stepsOf_cons]
      rw [← overlaid_cons, List.getLastD_cons]
      rfl

/-! ## Whole runs -/

theorem Runs.nodup_fields {failFast : Bool} {number : Nat} {context : Context}
    {stages : List (Stage ω)} {w : ω} {worlds : List ω} {results : List StageResult}
    (h : Runs failFast number context stages w worlds results) (hs : ∀ s ∈ stages, s.WellTyped) :
    ∀ r ∈ results, (Table.keys r.fields).Nodup := by
  intro r hr
  obtain ⟨i, hi⟩ := List.mem_iff_getElem?.mp hr
  obtain ⟨stage, before, after, answer, hstage, -, -, hrun, rfl⟩ := h.answers i r hi
  have hn := nodup_fields_resultOf (hs stage (List.mem_of_getElem? hstage)) (number + i)
    (overlaid context (results.take i)) before
  rw [hrun] at hn
  exact hn

/-- Every pipeline of well-typed stages comes to an end. The stages that run leave one result each,
and each is given the first context overlaid with the results before it. The context at the end is
the first one overlaid with all of them. -/
theorem Plan.run_records_results {p : Plan ω} (hp : ∀ s ∈ p.stages, s.WellTyped) (w : ω) :
    ∃ (o : Outcome) (worlds : List ω), p.run w = (worlds.getLastD w, .ok o) ∧
      Runs p.failFast 1 p.context p.stages w worlds o.results ∧
      o.steps = stepsOf p.context o.results ∧ o.context = overlaid p.context o.results ∧
      ∀ count name, Table.find? name (overlaid p.context (o.results.take count)) =
        ((((o.results.take count).filter StageResult.succeeded).reverse.findSome? fun r =>
          Table.find? name r.fields).or (Table.find? name p.context)) := by
  obtain ⟨worlds, results, hruns, heq⟩ := executeFrom_runs p.failFast hp 1 p.context w
  have hresults : (Outcome.mk (stepsOf p.context results) (overlaid p.context results)).results =
      results := flatMap_stepsOf p.context results
  refine ⟨⟨stepsOf p.context results, overlaid p.context results⟩, worlds, ?_, ?_⟩
  · simp only [Plan.run, heq]
    rfl
  · rw [hresults]
    refine ⟨hruns, rfl, rfl, fun count name => find?_overlaid ?_ p.context name⟩
    exact fun r hr => hruns.nodup_fields hp r (List.mem_of_mem_take hr)

/-- A stage that counts how often it ran, and puts out the context that it was given. -/
def countingStage : Stage Nat where
  name := some (.str "count")
  run context n :=
    (n + 1, .ok ⟨.str "count", .bool true, noTime, .obj [("seen", .obj context)], .arr [], []⟩)

/-- A stage without a name that breaks off. -/
def brokenStage : Stage Nat where
  name := none
  run _ n := (n, .error (.badValue "no luck"))

theorem wellTyped_countingStage : countingStage.WellTyped := fun context _ =>
  ⟨⟨"count", rfl⟩, ⟨true, rfl⟩, ⟨_, rfl⟩, ⟨[("seen", .obj context)], rfl, List.nodup_singleton _⟩,
    ⟨[], rfl⟩⟩

theorem wellTyped_brokenStage : brokenStage.WellTyped := fun _ _ => rfl

/-- Two stages that count, with one that breaks off between them. -/
def interruptedCount (failFast : Bool) : Plan Nat :=
  ⟨[countingStage, brokenStage, countingStage], [("start", .null)], failFast⟩

theorem wellTyped_interruptedCount (failFast : Bool) :
    ∀ s ∈ (interruptedCount failFast).stages, s.WellTyped := by
  intro s hs
  simp only [interruptedCount, List.mem_cons, List.not_mem_nil, or_false] at hs
  rcases hs with rfl | rfl | rfl
  · exact wellTyped_countingStage
  · exact wellTyped_brokenStage
  · exact wellTyped_countingStage

theorem run_records_results_interruptedCount :
    ∃ (o : Outcome) (worlds : List Nat), (interruptedCount false).run 0 = (2, .ok o) ∧
      o.results.map StageResult.succeeded = [true, false, true] ∧
      Runs false 1 [("start", .null)] (interruptedCount false).stages 0 worlds o.results ∧
      o.context = overlaid [("start", .null)] o.results := by
  obtain ⟨o, worlds, hrun, hruns, -, hcontext, -⟩ :=
    Plan.run_records_results (wellTyped_interruptedCount false) 0
  have hworld : worlds.getLastD 0 = 2 := (congrArg Prod.fst hrun).symm
  have ho : (interruptedCount false).run 0 = (2, .ok o) := hworld ▸ hrun
  refine ⟨o, worlds, ho, ?_, hruns, hcontext⟩
  cases ho
  rfl

end DesignLens.Pipeline
