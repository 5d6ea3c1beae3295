import DesignLens.Proofs.FileTree
import DesignLens.Proofs.Texts
import DesignLens.Scaffold.Introduce

/-!
# The courses of an introduction

Which text is seen at a path, what putting a text into a file does, and the few courses that an
introduction may take, `Introduction`. Only one of the courses writes a file.
-/

namespace DesignLens.Scaffold

open Workspace

variable {t t' : Tree} {p : Path}

theorem existing_eq (t : Tree) (p : Path) :
    existing t p =
      match t.look p with
      | .error failure => .error failure
      | .ok none => .ok none
      | .ok (some _) => (t.read p).map some := by
  unfold existing Tree.exists?
  simp only [bind, Except.bind]
  cases t.look p with
  | error failure => rfl
  | ok entry =>
    cases entry with
    | none => rfl
    | some e =>
      simp only [Except.map, Option.isSome_some, if_true]
      cases t.read p <;> rfl

/-- There is a text where a file that can be read is. -/
theorem existing_eq_some {text : String} :
    existing t p = .ok (some text) ↔
      p.isWritable = true ∧ t.locate p = .ok p.destination ∧
        t.isFolderAt p.destination = false ∧
          ∃ c, t.fileAt? p.destination = some c ∧ c.read = .ok text := by
  rw [existing_eq]
  unfold Tree.look Tree.read Tree.content
  cases hw : p.isWritable with
  | false => simp
  | true =>
    cases hl : t.locate p with
    | error cause => cases cause <;> simp
    | ok q =>
      obtain rfl := Tree.destination_of_locate hl
      cases hf : t.isFolderAt p.destination with
      | true => simp [Tree.entryAt?, hf, Except.map, bind, Except.bind]
      | false =>
        cases hc : t.fileAt? p.destination with
        | none => simp [Tree.entryAt?, hf, hc]
        | some c =>
          cases hr : c.read with
          | error failure => simp [Tree.entryAt?, hf, hc, hr, Except.map, bind, Except.bind]
          | ok s => simp [Tree.entryAt?, hf, hc, hr, Except.map, bind, Except.bind]

/-- There is no text where nothing is or where the path cannot be followed. -/
theorem existing_eq_none :
    existing t p = .ok none ↔
      p.isWritable = false ∨ (∃ cause, t.locate p = .error cause ∧ cause ≠ .nameTooLong) ∨
        t.locate p = .ok p.destination ∧ t.entryAt? p.destination = none := by
  rw [existing_eq]
  unfold Tree.look
  cases hw : p.isWritable with
  | false => simp
  | true =>
    cases hl : t.locate p with
    | error cause => cases cause <;> simp
    | ok q =>
      obtain rfl := Tree.destination_of_locate hl
      cases he : t.entryAt? p.destination with
      | none => simp [he]
      | some e => cases hr : t.read p <;> simp [he, Except.map]

/-! ## Putting texts into files -/

/-- A file is written where its path leads in the tree with all folders above it; if that fails,
only folders are added. -/
theorem put_cases {text : String} {outcome : Option Failure} (h : put t p text = (t', outcome)) :
    (∃ failure, outcome = some failure ∧ Tree.Grown t t') ∨
      outcome = none ∧ p.isWritable = true ∧ ∃ u, Tree.Grown t u ∧
        u.locate p = .ok p.destination ∧ u.isFolderAt p.destination = false ∧
          t' = u.setFile p.destination (.text text) := by
  have hgrown := Tree.grown_makeFolders t p.parent
  unfold put at h
  cases hm : t.makeFolders p.parent with
  | mk u failure =>
    rw [hm] at h hgrown
    cases failure with
    | some f =>
      simp only [Prod.mk.injEq] at h
      exact Or.inl ⟨f, h.2.symm, h.1 ▸ hgrown⟩
    | none =>
      simp only at h
      cases hw : u.writeText p text with
      | error f =>
        rw [hw, Prod.mk.injEq] at h
        exact Or.inl ⟨f, h.2.symm, h.1 ▸ hgrown⟩
      | ok v =>
        rw [hw, Prod.mk.injEq] at h
        obtain ⟨hwritable, hlocate, hfolder, hv⟩ := Tree.write_eq_ok.mp hw
        exact Or.inr ⟨h.2.symm, hwritable, u, hgrown, hlocate, hfolder, h.1 ▸ hv⟩

theorem fileAt?_of_put {text : String} (h : put t p text = (t', none)) :
    t'.fileAt? p.destination = some (.text text) := by
  obtain ⟨failure, hsome, -⟩ | ⟨-, -, u, -, -, -, rfl⟩ := put_cases h
  · exact nomatch hsome
  · rw [Tree.fileAt?_setFile, if_pos rfl]

/-- More folders hide no text. -/
theorem existing_of_grown {text : String} (hgrown : Tree.Grown t t')
    (h : existing t p = .ok (some text)) : existing t' p = .ok (some text) := by
  obtain ⟨hwritable, hlocate, hfolder, c, hfile, hread⟩ := existing_eq_some.mp h
  refine existing_eq_some.mpr ⟨hwritable, Tree.locate_mono hgrown.folders hlocate, ?_, c, ?_, hread⟩
  · cases hnew : t'.isFolderAt p.destination with
    | false => rfl
    | true =>
      rcases hgrown.apart _ hnew with hold | hnone
      · exact absurd hold (by simp [hfolder])
      · exact absurd hnone (by simp [hfile])
  · rw [hgrown.fileAt?, hfile]

/-- A text that is written can be read, if its line ends are plain. -/
theorem existing_of_put {text : String} (h : put t p text = (t', none))
    (hreturn : '\r' ∉ text.toList) : existing t' p = .ok (some text) := by
  obtain ⟨failure, hsome, -⟩ | ⟨-, hwritable, u, -, hlocate, hfolder, rfl⟩ := put_cases h
  · exact nomatch hsome
  · refine existing_eq_some.mpr ⟨hwritable, ?_, ?_, .text text, ?_, ?_⟩
    · exact Tree.locate_mono (fun q hq => by rwa [Tree.isFolderAt_setFile]) hlocate
    · rwa [Tree.isFolderAt_setFile]
    · rw [Tree.fileAt?_setFile, if_pos rfl]
    · rw [Content.read, Text.plainNewlines_eq_self hreturn, String.ofList_toList]

/-- Nothing can be read where nothing can be written. -/
theorem existing_ne_some_of_put_failed {text : String} {failure : Failure}
    (h : put t p text = (t', some failure)) (seen : String) : existing t' p ≠ .ok (some seen) := by
  intro hseen
  obtain ⟨hwritable, hlocate, hfolder, -⟩ := existing_eq_some.mp hseen
  unfold put at h
  cases hm : t.makeFolders p.parent with
  | mk u outcome =>
    rw [hm] at h
    cases outcome with
    | none =>
      simp only at h
      cases hw : u.writeText p text with
      | ok v => simp [hw] at h
      | error f =>
        simp only [hw, Prod.mk.injEq] at h
        obtain ⟨rfl, -⟩ := h
        have hwrite : u.writeText p text = .ok (u.setFile p.destination (.text text)) :=
          Tree.write_eq_ok.mpr ⟨hwritable, hlocate, hfolder, rfl⟩
        rw [hw] at hwrite
        exact nomatch hwrite
    | some f =>
      simp only [Prod.mk.injEq, Option.some.injEq] at h
      obtain ⟨rfl, -⟩ := h
      have hroot : p.destination = [] := by
        rw [Path.destination, Tree.makeFolders_failed hm hwritable hlocate]
        rfl
      rw [hroot] at hfolder
      exact nomatch hfolder

/-! ## The courses of an introduction -/

/-- How an introduction may go, with the tree and the answer that it ends with. -/
inductive Introduction (w : Workshop) (t : Tree) (r : Request) : Tree → Except Failure Answer → Prop
  | refused {answer : Answer} : w.draft r = .error answer → Introduction w t r t (.ok answer)
  | unreadable {d : Draft} {failure : Failure} : w.draft r = .ok d →
      existing t r.target = .error failure → Introduction w t r t (.error failure)
  | headless {d : Draft} {old : Option String} {failure : Failure} : w.draft r = .ok d →
      existing t r.target = .ok old → w.compose d (old.getD "") = .error failure →
      Introduction w t r t (.error failure)
  | present {d : Draft} {old : Option String} {scaffold : String} : w.draft r = .ok d →
      existing t r.target = .ok old → w.compose d (old.getD "") = .ok scaffold →
      w.isPresent scaffold (old.getD "") = true →
      Introduction w t r t (.ok (.present (r.nothingToDo d old)))
  | trial {d : Draft} {old : Option String} {scaffold : String} : w.draft r = .ok d →
      existing t r.target = .ok old → w.compose d (old.getD "") = .ok scaffold →
      w.isPresent scaffold (old.getD "") = false → r.dryRun = true →
      Introduction w t r t (.ok (.done (w.change r d old scaffold)))
  | failed {d : Draft} {old : Option String} {scaffold : String} {t' : Tree} {failure : Failure} :
      w.draft r = .ok d → existing t r.target = .ok old →
      w.compose d (old.getD "") = .ok scaffold → w.isPresent scaffold (old.getD "") = false →
      r.dryRun = false → put t r.target (merged old scaffold) = (t', some failure) →
      Introduction w t r t' (.error failure)
  | written {d : Draft} {old : Option String} {scaffold : String} {t' : Tree} :
      w.draft r = .ok d → existing t r.target = .ok old →
      w.compose d (old.getD "") = .ok scaffold → w.isPresent scaffold (old.getD "") = false →
      r.dryRun = false → put t r.target (merged old scaffold) = (t', none) →
      Introduction w t r t' (.ok (.done (w.change r d old scaffold)))

theorem introduce_introduction (w : Workshop) (t : Tree) (r : Request) :
    Introduction w t r (w.introduce t r).1 (w.introduce t r).2 := by
  unfold Workshop.introduce
  cases hd : w.draft r with
  | error answer => exact .refused hd
  | ok d =>
    simp only
    unfold Workshop.place
    cases ho : existing t r.target with
    | error failure => exact .unreadable hd ho
    | ok old =>
      simp only
      cases hc : w.compose d (old.getD "") with
      | error failure => exact .headless hd ho hc
      | ok scaffold =>
        simp only
        cases hp : w.isPresent scaffold (old.getD "") with
        | true => exact .present hd ho hc hp
        | false =>
          cases hdry : r.dryRun with
          | true => exact .trial hd ho hc hp hdry
          | false =>
            cases hput : put t r.target (merged old scaffold) with
            | mk t' outcome =>
              cases outcome with
              | some failure => exact .failed hd ho hc hp hdry hput
              | none => exact .written hd ho hc hp hdry hput

theorem introduce_eq_written {w : Workshop} {r : Request} {d : Draft} {old : Option String}
    {scaffold : String} (hd : w.draft r = .ok d) (ho : existing t r.target = .ok old)
    (hc : w.compose d (old.getD "") = .ok scaffold)
    (hp : w.isPresent scaffold (old.getD "") = false) (hwrite : r.dryRun = false)
    (hput : put t r.target (merged old scaffold) = (t', none)) :
    w.introduce t r = (t', .ok (.done (w.change r d old scaffold))) := by
  unfold Workshop.introduce Workshop.place
  simp only [hd, ho, hc, hp, hwrite, hput, Bool.false_eq_true, if_false]

/-! ## Drafts and scaffolds -/

theorem draft_eq_ok {w : Workshop} {r : Request} {d : Draft} (h : w.draft r = .ok d) :
    ∃ generator snippet, w.select (r.name.getD "") = some (d.category, d.name, generator) ∧
      d.entry = w.catalog.find? d.name d.category.word ∧
      generator d.entry = .ok (some snippet) ∧ snippet ≠ "" ∧
      d.code = w.engine.render [("name", .str d.name), ("module_path", .str r.modulePath)]
        snippet := by
  unfold Workshop.draft at h
  split at h
  · simp at h
  · rename_i category name generator hselect
    simp only at h
    split at h
    · simp at h
    · rename_i code hcode
      split at h
      · simp at h
      · rename_i snippet hsnippet
        rw [Option.filter_eq_some_iff] at hsnippet
        simp only [Except.ok.injEq] at h
        rw [← h]
        exact ⟨generator, snippet, hselect, rfl, hsnippet.1 ▸ hcode, by simpa using hsnippet.2, rfl⟩

theorem draft_eq_error {w : Workshop} {r : Request} {answer : Answer}
    (h : w.draft r = .error answer) : ∃ message name, answer = .refused message name := by
  unfold Workshop.draft at h
  split at h
  · exact ⟨_, _, (Except.error.inj h).symm⟩
  · simp only at h
    split at h
    · exact ⟨_, _, (Except.error.inj h).symm⟩
    · split at h
      · exact ⟨_, _, (Except.error.inj h).symm⟩
      · simp at h

theorem compose_eq_ok {w : Workshop} {d : Draft} {old scaffold : String} :
    w.compose d old = .ok scaffold ↔
      ∃ heading, w.heading d (Size.ofText (if old.isEmpty then d.code else old)) = .ok heading ∧
        heading ++ "\n\n" ++ d.code = scaffold := by
  unfold Workshop.compose
  cases w.heading d (Size.ofText (if old.isEmpty then d.code else old)) <;> simp [Except.map]

/-! ## Introductions that are done -/

/-- What is known about an introduction that is done, or would be. -/
theorem exists_change_of_done {w : Workshop} {r : Request} {effect : Effect}
    (h : w.introduce t r = (t', .ok (.done effect))) :
    ∃ d old scaffold, w.draft r = .ok d ∧ existing t r.target = .ok old ∧
      w.compose d (old.getD "") = .ok scaffold ∧ effect = w.change r d old scaffold ∧
      (r.dryRun = false →
        t'.fileAt? r.target.destination = some (.text (merged old scaffold))) := by
  have hcourse := introduce_introduction w t r
  rw [h] at hcourse
  cases hcourse with
  | refused hd =>
    obtain ⟨message, name, hanswer⟩ := draft_eq_error hd
    exact nomatch hanswer
  | trial hd ho hc _ hdry =>
    exact ⟨_, _, _, hd, ho, hc, rfl, fun hwrite => nomatch hdry.symm.trans hwrite⟩
  | written hd ho hc _ _ hput =>
    exact ⟨_, _, _, hd, ho, hc, rfl, fun _ => fileAt?_of_put hput⟩

end DesignLens.Scaffold
