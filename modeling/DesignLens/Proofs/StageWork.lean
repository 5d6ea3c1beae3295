import DesignLens.Pipeline.Work
import DesignLens.Proofs.TableEntries

/-!
# How the work of a stage goes

Work starts with a draft and ends with a value or breaks off with a failure; either way it leaves a
draft. Each operation of a stage has an equation that says how it goes. Rules for what work leads to
put them together: work leads from drafts of one kind to drafts of another kind, or breaks off with
drafts of a third kind.
-/

namespace DesignLens

/-- What the programs that are run one after another answer. -/
def Processes.answerAt (p : Processes) (n : Nat) : Except Failure ProcessOutput :=
  (p.queue[n]?).getD (.ok ⟨0, "", ""⟩)

theorem Processes.run_answer (p : Processes) (words : List String) :
    (p.run words).2 = p.answerAt 0 := by
  unfold Processes.run Processes.answerAt
  cases p.queue <;> rfl

theorem Processes.run_rest (p : Processes) (words : List String) (n : Nat) :
    (p.run words).1.answerAt n = p.answerAt (n + 1) := by
  unfold Processes.run Processes.answerAt
  cases p.queue <;> rfl

end DesignLens

namespace DesignLens.Pipeline.Work

open Workspace

variable {α β : Type} {d d' : Draft} {f : Failure}

/-- How work ends from a draft on, and what has been noted by then. -/
def exec (work : Work α) (d : Draft) : Except Failure α × Draft :=
  StateT.run (ExceptT.run work) d

/-! ## Operations -/

theorem exec_pure (a : α) (d : Draft) : exec (pure a) d = (.ok a, d) := rfl

theorem exec_bind_of_ok {x : Work α} {g : α → Work β} {a : α} (h : exec x d = (.ok a, d')) :
    exec (x >>= g) d = exec (g a) d' := by
  change StateT.run (ExceptT.run (x >>= g)) d = _
  rw [ExceptT.run_bind, StateT.run_bind]
  change (exec x d >>= _ : Id _) = _
  rw [h]
  rfl

theorem exec_bind_of_error {x : Work α} {g : α → Work β} (h : exec x d = (.error f, d')) :
    exec (x >>= g) d = (.error f, d') := by
  change StateT.run (ExceptT.run (x >>= g)) d = _
  rw [ExceptT.run_bind, StateT.run_bind]
  change (exec x d >>= _ : Id _) = _
  rw [h]
  rfl

theorem exec_ofExcept (x : Except Failure α) (d : Draft) :
    exec (MonadExcept.ofExcept x) d = (x, d) := by
  cases x <;> rfl

theorem exec_command (words : List String) (d : Draft) :
    exec (command words) d = ((d.world.processes.run words).2,
      { d with world := { d.world with processes := (d.world.processes.run words).1 } }) :=
  exec_ofExcept (d.world.processes.run words).2 _

theorem exec_look (question : Tree → Except Failure α) (d : Draft) :
    exec (look question) d = (question d.world.tree, d) :=
  exec_ofExcept (question d.world.tree) d

theorem exec_setTree (t : Tree) (d : Draft) :
    exec (setTree t) d = (.ok (), { d with world := { d.world with tree := t } }) := rfl

theorem exec_change_of_ok {step : Tree → Except Failure Tree} {t : Tree}
    (h : step d.world.tree = .ok t) :
    exec (change step) d = (.ok (), { d with world := { d.world with tree := t } }) := by
  have hlook : exec (look step) d = (.ok t, d) := by rw [exec_look, h]
  exact (exec_bind_of_ok hlook).trans (exec_setTree t d)

theorem exec_change_of_error {step : Tree → Except Failure Tree}
    (h : step d.world.tree = .error f) : exec (change step) d = (.error f, d) := by
  have hlook : exec (look step) d = (.error f, d) := by rw [exec_look, h]
  exact exec_bind_of_error hlook

theorem exec_put (name : String) (v : Json) (d : Draft) :
    exec (put name v) d = (.ok (), { d with output := Table.insert name v d.output }) := rfl

theorem exec_complain (messages : List String) (d : Draft) :
    exec (complain messages) d = (.ok (), { d with errors := d.errors ++ messages }) := rfl

section Recovery

variable {covers : FailureKind → Bool} {other : Failure → α} {work : Work α}

theorem exec_recover_of_ok {a : α} (h : exec work d = (.ok a, d')) :
    exec (recover covers other work) d = (.ok a, d') := by
  change StateT.run (ExceptT.run (tryCatch work _)) d = _
  rw [ExceptT.run_tryCatch, StateT.run_bind]
  change (exec work d >>= _ : Id _) = _
  rw [h]
  rfl

theorem exec_recover_of_error (h : exec work d = (.error f, d')) :
    exec (recover covers other work) d =
      (if covers f.kind then .ok (other f) else .error f, d') := by
  change StateT.run (ExceptT.run (tryCatch work _)) d = _
  rw [ExceptT.run_tryCatch, StateT.run_bind]
  change (exec work d >>= _ : Id _) = _
  rw [h]
  change exec (if covers f.kind = true then pure (other f) else throw f) d' = _
  split
  · rfl
  · rfl

theorem exec_recover_bind {x : Work β} {g : β → Work α} {b : β} (h : exec x d = (.ok b, d')) :
    exec (recover covers other (x >>= g)) d = exec (recover covers other (g b)) d' := by
  rcases hrest : exec (g b) d' with ⟨f | a, d''⟩
  · rw [exec_recover_of_error hrest, exec_recover_of_error ((exec_bind_of_ok h).trans hrest)]
  · rw [exec_recover_of_ok hrest, exec_recover_of_ok ((exec_bind_of_ok h).trans hrest)]

end Recovery

/-! ## What is kept -/

/-- Two drafts that differ in their files at most. -/
structure FilesOnly (d d' : Draft) : Prop where
  processes : d'.world.processes = d.world.processes
  output : d'.output = d.output
  errors : d'.errors = d.errors
  artifacts : d'.artifacts = d.artifacts

theorem FilesOnly.refl (d : Draft) : FilesOnly d d := ⟨rfl, rfl, rfl, rfl⟩

theorem filesOnly_change (step : Tree → Except Failure Tree) (d : Draft) :
    FilesOnly d (exec (change step) d).2 := by
  cases h : step d.world.tree with
  | ok t =>
    rw [exec_change_of_ok h]
    exact ⟨rfl, rfl, rfl, rfl⟩
  | error f =>
    rw [exec_change_of_error h]
    exact FilesOnly.refl d

theorem isProcessFailure_writeText {t : Tree} {p : Path} {text : String}
    (h : t.writeText p text = .error f) : isProcessFailure f.kind = false := by
  unfold Tree.writeText Tree.write at h
  split at h
  · obtain rfl := Except.error.inj h
    rfl
  · split at h
    · obtain rfl := Except.error.inj h
      rfl
    · split at h
      · obtain rfl := Except.error.inj h
        rfl
      · exact nomatch h

/-- A report is saved, or the files do not allow it. -/
theorem exec_save (folder : Option Path) (name text : String) (d : Draft) :
    ∃ ending d', exec (save folder name text) d = (ending, d') ∧ FilesOnly d d' ∧
      (ending = .ok () ∨ folder ≠ none ∧ ∃ f, ending = .error f ∧
        isProcessFailure f.kind = false) := by
  cases folder with
  | none => exact ⟨_, _, exec_pure () d, FilesOnly.refl d, Or.inl rfl⟩
  | some folder =>
    cases h : d.world.tree.writeText (folder.child name) text with
    | ok t => exact ⟨_, _, exec_change_of_ok h, ⟨rfl, rfl, rfl, rfl⟩, Or.inl rfl⟩
    | error f =>
      exact ⟨_, _, exec_change_of_error h, FilesOnly.refl d,
        Or.inr ⟨by simp, f, rfl, isProcessFailure_writeText h⟩⟩

theorem exec_ensureFolder_some (folder : Path) (d : Draft) :
    exec (ensureFolder (some folder)) d =
      ((d.world.tree.makeFolders folder).2.elim (.ok ()) .error,
        { d with world := { d.world with tree := (d.world.tree.makeFolders folder).1 } }) := by
  have hget : exec (get : Work Draft) d = (.ok d, d) := rfl
  unfold ensureFolder
  rw [exec_bind_of_ok hget]
  rcases d.world.tree.makeFolders folder with ⟨t, failure⟩
  cases failure <;> rfl

/-- The folder for reports is there, or cannot be created. -/
theorem exec_ensureFolder (folder : Option Path) (d : Draft) :
    ∃ ending d', exec (ensureFolder folder) d = (ending, d') ∧ FilesOnly d d' ∧
      (ending = .ok () ∨ folder ≠ none ∧ ∃ f, ending = .error f) := by
  cases folder with
  | none => exact ⟨_, _, exec_pure () d, FilesOnly.refl d, Or.inl rfl⟩
  | some folder =>
    refine ⟨_, _, exec_ensureFolder_some folder d, ⟨rfl, rfl, rfl, rfl⟩, ?_⟩
    cases (d.world.tree.makeFolders folder).2 with
    | none => exact Or.inl rfl
    | some f => exact Or.inr ⟨by simp, f, rfl⟩

/-- One more answer has been taken, and nothing was noted. -/
structure Answered (d d' : Draft) : Prop where
  output : d'.output = d.output
  errors : d'.errors = d.errors
  rest : ∀ n, d'.world.processes.answerAt n = d.world.processes.answerAt (n + 1)

theorem Answered.filesOnly {d'' : Draft} (h : Answered d d') (hfiles : FilesOnly d' d'') :
    Answered d d'' where
  output := hfiles.output.trans h.output
  errors := hfiles.errors.trans h.errors
  rest n := by rw [hfiles.processes, h.rest]

theorem exec_command_answered (words : List String) (d : Draft) :
    ∃ d', exec (command words) d = (d.world.processes.answerAt 0, d') ∧ Answered d d' := by
  have hcommand := exec_command words d
  rw [Processes.run_answer] at hcommand
  exact ⟨_, hcommand, rfl, rfl, d.world.processes.run_rest words⟩

/-- Work that leaves a finding as it is, however it ends. -/
def Spares (name : String) (work : Work α) : Prop :=
  ∀ d, Table.find? name (exec work d).2.output = Table.find? name d.output

section Spares

variable {name : String}

theorem spares_pure (a : α) : Spares name (pure a) := fun _ => rfl

theorem spares_throw (f : Failure) : Spares name (throw f : Work α) := fun _ => rfl

theorem spares_ofExcept (x : Except Failure α) : Spares name (MonadExcept.ofExcept x) :=
  fun d => by rw [exec_ofExcept]

theorem spares_look (question : Tree → Except Failure α) : Spares name (look question) :=
  fun d => by rw [exec_look]

theorem spares_change (step : Tree → Except Failure Tree) : Spares name (change step) :=
  fun d => by rw [(filesOnly_change step d).output]

theorem spares_command (words : List String) : Spares name (command words) :=
  fun d => by rw [exec_command]

theorem spares_keep (p : Path) : Spares name (keep p) := fun _ => rfl

theorem spares_complain (messages : List String) : Spares name (complain messages) := fun _ => rfl

theorem spares_put {other : String} (h : name ≠ other) (v : Json) : Spares name (put other v) :=
  fun d => by rw [exec_put, Table.find?_insert_of_ne h]

theorem Spares.bind {x : Work α} {g : α → Work β} (hx : Spares name x)
    (hg : ∀ a, Spares name (g a)) : Spares name (x >>= g) := by
  intro d
  have hkept := hx d
  rcases h : exec x d with ⟨f | a, d'⟩
  · rw [h] at hkept
    rw [exec_bind_of_error h, hkept]
  · rw [h] at hkept
    rw [exec_bind_of_ok h, hg a d', hkept]

/-- A loop leaves alone what each round leaves alone. -/
theorem spares_forIn {γ : Type} {items : List γ} {init : β} {step : γ → β → Work (ForInStep β)}
    (hstep : ∀ x b, Spares name (step x b)) : Spares name (forIn items init step) := by
  induction items generalizing init with
  | nil => exact spares_pure init
  | cons x rest ih =>
    rw [List.forIn_cons]
    refine (hstep x init).bind fun round => ?_
    cases round with
    | done b => exact spares_pure b
    | yield b => exact ih

theorem Spares.recover {covers : FailureKind → Bool} {other : Failure → α} {work : Work α}
    (hwork : Spares name work) : Spares name (recover covers other work) := by
  intro d
  have hkept := hwork d
  rcases h : exec work d with ⟨f | a, d'⟩
  · rw [h] at hkept
    rw [exec_recover_of_error h, hkept]
  · rw [h] at hkept
    rw [exec_recover_of_ok h, hkept]

end Spares

/-! ## What work leads to -/

/-- An ending with a value and a draft of the kind `Q`, or with a failure and a draft of the kind
`E`. -/
def Ends (Q : α → Draft → Prop) (E : Draft → Prop) : Except Failure α × Draft → Prop
  | (.ok a, d) => Q a d
  | (.error _, d) => E d

/-- From every draft of the kind `P` work ends with a value and a draft of the kind `Q`, or breaks
off with a draft of the kind `E`. -/
def Leads (P : Draft → Prop) (work : Work α) (Q : α → Draft → Prop) (E : Draft → Prop) : Prop :=
  ∀ d, P d → Ends Q E (exec work d)

section Rules

variable {P E : Draft → Prop} {Q : α → Draft → Prop} {R : β → Draft → Prop}

theorem Leads.bind {x : Work α} {g : α → Work β} (hx : Leads P x Q E)
    (hg : ∀ a, Leads (Q a) (g a) R E) : Leads P (x >>= g) R E := by
  intro d hd
  have hends := hx d hd
  rcases h : exec x d with ⟨f | a, d'⟩
  · rw [h] at hends
    rw [exec_bind_of_error h]
    exact hends
  · rw [h] at hends
    rw [exec_bind_of_ok h]
    exact hg a d' hends

theorem Spares.leads {name : String} {work : Work α} (h : Spares name work) (v : Option Json) :
    Leads (fun d => Table.find? name d.output = v) work
      (fun _ d => Table.find? name d.output = v) (fun d => Table.find? name d.output = v) := by
  intro d hd
  have hkept := h d
  rcases hexec : exec work d with ⟨f | a, d'⟩
  all_goals
    rw [hexec] at hkept
    exact hkept.trans hd

end Rules

/-! ## Results -/

section Results

variable {name : Json} {lead : String} {work : Work Bool} {w w' : World} {r : StageResult}

/-- The result of work that came to its end. -/
theorem toResult_of_ok {success : Bool} (h : exec work (.blank w) = (.ok success, d)) :
    work.toResult name lead w = (d.world, .ok
      ⟨name, .bool success, noTime, .obj d.output, .strings d.errors, d.artifacts⟩) := by
  have hrun : StateT.run (ExceptT.run work) (.blank w) = (.ok success, d) := h
  unfold toResult
  rw [hrun]
  rfl

/-- The result of work that broke off. -/
theorem toResult_of_error (h : exec work (.blank w) = (.error f, d))
    (hhandled : f.kind.isHandled = true) :
    work.toResult name lead w = (d.world, .ok ⟨name, .bool false, noTime, .obj d.output,
      .strings (d.errors ++ [lead ++ f.message]), d.artifacts⟩) := by
  have hrun : StateT.run (ExceptT.run work) (.blank w) = (.error f, d) := h
  unfold toResult
  rw [hrun]
  exact congrArg (Prod.mk d.world) (if_pos hhandled)

theorem toResult_of_interrupted (h : exec work (.blank w) = (.error f, d))
    (hhandled : f.kind.isHandled = false) :
    work.toResult name lead w = (d.world, .error f) := by
  have hrun : StateT.run (ExceptT.run work) (.blank w) = (.error f, d) := h
  unfold toResult
  rw [hrun]
  exact congrArg (Prod.mk d.world) (if_neg (by simp [hhandled]))

/-- Work that broke off is no success; what it noted remains. -/
theorem result_of_error (h : exec work (.blank w) = (.error f, d))
    (hrun : work.toResult name lead w = (w', .ok r)) :
    r.success = .bool false ∧ r.output = .obj d.output := by
  cases hhandled : f.kind.isHandled with
  | true =>
    rw [toResult_of_error h hhandled] at hrun
    obtain rfl := Except.ok.inj (congrArg Prod.snd hrun)
    exact ⟨rfl, rfl⟩
  | false =>
    rw [toResult_of_interrupted h hhandled] at hrun
    exact nomatch congrArg Prod.snd hrun

/-- What a result says, by how the work ended. -/
theorem Leads.result {Q : Bool → Draft → Prop} {E : Draft → Prop}
    (hleads : Leads (· = .blank w) work Q E) (h : work.toResult name lead w = (w', .ok r)) :
    (∃ success d, Q success d ∧ r.success = .bool success ∧ r.output = .obj d.output) ∨
      ∃ d, E d ∧ r.success = .bool false ∧ r.output = .obj d.output := by
  have hends := hleads _ rfl
  rcases hexec : exec work (.blank w) with ⟨f | success, d⟩
  · rw [hexec] at hends
    exact Or.inr ⟨d, hends, result_of_error hexec h⟩
  · rw [hexec] at hends
    rw [toResult_of_ok hexec] at h
    obtain rfl := Except.ok.inj (congrArg Prod.snd h)
    exact Or.inl ⟨success, d, hends, rfl, rfl⟩

end Results

end DesignLens.Pipeline.Work
