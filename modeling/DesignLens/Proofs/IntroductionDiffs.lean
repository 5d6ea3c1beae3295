import DesignLens.Proofs.IntroductionFiles
import DesignLens.Proofs.UnifiedDiffs

/-!
# The difference that an introduction reports

The difference in the answer to a request describes the change completely: it consists of hunks that
turn the text that was seen into the text that is written, and back. It is never empty, for a
scaffold is never blank.

But the lines that head the difference and its hunks have no ends. So the two names of the file, the
head of the first hunk and its first line are written as one line, and no tool that expects them on
lines of their own can read the difference.
-/

namespace DesignLens.Scaffold

open Workspace

variable {w : Workshop} {t t' : Tree} {r : Request} {d : Draft} {old : Option String}
  {scaffold : String}

/-! ## Something is always changed -/

theorem exists_docstring_of_header {catalog : Catalog} {b : Brief} {text : String}
    (h : header catalog b = .ok text) : ∃ lines, text = docstring lines := by
  unfold header at h
  obtain ⟨inputs, -, h⟩ := bind_eq_ok.mp h
  obtain ⟨outputs, -, h⟩ := bind_eq_ok.mp h
  obtain ⟨tools, -, h⟩ := bind_eq_ok.mp h
  obtain ⟨complexity, -, h⟩ := bind_eq_ok.mp h
  obtain ⟨patternLine, -, h⟩ := bind_eq_ok.mp h
  obtain ⟨refactoringLine, -, h⟩ := bind_eq_ok.mp h
  exact ⟨_, (pure_eq_ok.mp h).symm⟩

/-- A scaffold starts with a quotation mark. -/
theorem quote_mem_of_compose {text : String} (h : w.compose d text = .ok scaffold) :
    '"' ∈ scaffold.toList := by
  obtain ⟨heading, hheading, rfl⟩ := compose_eq_ok.mp h
  obtain ⟨lines, rfl⟩ := exists_docstring_of_header hheading
  simp [docstring]

/-- A text is not what it becomes when a scaffold is put after it. -/
theorem merged_ne (h : '"' ∈ scaffold.toList) (old : Option String) :
    merged old scaffold ≠ old.getD "" := by
  intro hsame
  cases old with
  | none =>
    rw [merged, Option.getD_none] at hsame
    rw [hsame] at h
    exact absurd h (by simp)
  | some text =>
    -- what follows the trimmed text would have to be the blanks that were trimmed off
    obtain ⟨blanks, hblank, htext⟩ := Text.trimRight_append_blanks text
    rw [merged, Option.getD_some] at hsame
    have hchars := congrArg String.toList hsame
    rw [htext, String.toList_append, String.toList_append, String.toList_append, List.append_assoc,
      List.append_assoc, List.append_cancel_left_eq] at hchars
    have hquote : Text.isBlank '"' = true := by
      apply hblank
      rw [← hchars]
      exact List.mem_append_right _ (List.mem_append_left _ h)
    exact absurd hquote (by decide)

end DesignLens.Scaffold

namespace DesignLens.Diff

theorem Describes.ne_nil {name old new diff : String} {hunks : List Hunk}
    (h : Describes name old new diff hunks) (hne : new ≠ old) : hunks ≠ [] := by
  rintro rfl
  have hforward := h.forward
  rw [patch, patchFrom, Option.map_some, join_linesWithEnds] at hforward
  exact hne (Option.some.inj hforward).symm

/-- How a difference starts: nothing stands between its heads. -/
theorem Describes.start {name old new diff : String} {hunks : List Hunk}
    (h : Describes name old new diff hunks) (hne : hunks ≠ []) :
    ∃ rest, diff = "--- " ++ name ++ "+++ " ++ name ++ "@@ -" ++ rest := by
  cases hunks with
  | nil => exact absurd rfl hne
  | cons first hunks =>
    refine ⟨rangeText first.oldStart first.oldStop ++ " +" ++
      rangeText first.newStart first.newStop ++ " @@" ++
      String.join ((first.body.map fun line => line.1.sign ++ line.2) ++
        hunks.flatMap Hunk.lines), ?_⟩
    rw [h.text, if_neg hne]
    simp only [List.flatMap_cons, Hunk.lines, Hunk.head, List.cons_append, String.join_cons,
      String.append_assoc]

/-- The name of a file and what follows it in a difference are one line. -/
theorem not_head_prefix {name diff rest : String}
    (h : diff = "--- " ++ name ++ "+++ " ++ name ++ "@@ -" ++ rest) :
    ¬ ("--- " ++ name ++ "\n").toList <+: diff.toList := by
  rw [h]
  simp only [String.toList_append, List.append_assoc]
  rw [List.prefix_append_right_inj, List.prefix_append_right_inj]
  rintro ⟨tail, htail⟩
  exact absurd (congrArg List.head? htail) (by simp)

end DesignLens.Diff

namespace DesignLens.Scaffold

open Workspace

variable {w : Workshop} {t t' : Tree} {r : Request} {d : Draft} {old : Option String}
  {scaffold : String}

/-- The difference of a change describes it. -/
theorem exists_describes_change (r : Request) (old : Option String)
    (h : w.compose d (old.getD "") = .ok scaffold) :
    ∃ hunks, hunks ≠ [] ∧ Diff.Describes r.target.toString (old.getD "") (merged old scaffold)
      (w.change r d old scaffold).diff hunks := by
  obtain ⟨hunks, hdescribes⟩ :=
    Diff.exists_describes r.target.toString (old.getD "") (merged old scaffold)
  exact ⟨hunks, hdescribes.ne_nil (merged_ne (quote_mem_of_compose h) old), hdescribes⟩

/-- The difference in an answer consists of hunks that turn the text that was seen at the target
into the text that is written there, and back. But its first lines are written as one line. -/
theorem introduce_diff_describes (w : Workshop) (t t' : Tree) (r : Request) (effect : Effect)
    (h : w.introduce t r = (t', .ok (.done effect))) :
    ∃ old new hunks, existing t r.target = .ok old ∧ hunks ≠ [] ∧
      Diff.Describes r.target.toString (old.getD "") new effect.diff hunks ∧
      (∀ u e, w.introduce t { r with dryRun := false } = (u, .ok (.done e)) →
        e.diff = effect.diff ∧ u.fileAt? r.target.destination = some (.text new)) ∧
      (∃ rest, effect.diff =
        "--- " ++ r.target.toString ++ "+++ " ++ r.target.toString ++ "@@ -" ++ rest) ∧
      ¬ ("--- " ++ r.target.toString ++ "\n").toList <+: effect.diff.toList := by
  obtain ⟨d, old, scaffold, hd, ho, hc, rfl, -⟩ := exists_change_of_done h
  obtain ⟨hunks, hne, hdescribes⟩ := exists_describes_change r old hc
  obtain ⟨rest, hstart⟩ := hdescribes.start hne
  refine ⟨old, merged old scaffold, hunks, ho, hne, hdescribes, ?_, ⟨rest, hstart⟩,
    Diff.not_head_prefix hstart⟩
  intro u e hwritten
  obtain ⟨d', old', scaffold', hd', ho', hc', rfl, hfile⟩ := exists_change_of_done hwritten
  obtain rfl := Except.ok.inj (hd.symm.trans hd')
  obtain rfl := Except.ok.inj (ho.symm.trans ho')
  obtain rfl := Except.ok.inj (hc.symm.trans hc')
  exact ⟨rfl, hfile rfl⟩

/-! ## A difference for a text of one line -/

def lineTrial : Request := ⟨some "singleton", "t.py", true, none⟩

theorem target_lineTrial : lineTrial.target = ⟨false, ["t.py"]⟩ := by
  decide

theorem existing_line : existing hiddenTree lineTrial.target = .ok (some "x = 1\n") := by
  rw [target_lineTrial, existing_eq_some]
  exact ⟨by decide, by decide, by decide, .text "x = 1\n", rfl, by decide⟩

/-- The answer to a request for a trial, where nothing of the scaffold is present. -/
theorem introduce_eq_trial (hd : w.draft r = .ok d) (ho : existing t r.target = .ok old)
    (hc : w.compose d (old.getD "") = .ok scaffold)
    (hp : w.isPresent scaffold (old.getD "") = false) (hdry : r.dryRun = true) :
    w.introduce t r = (t, .ok (.done (w.change r d old scaffold))) := by
  unfold Workshop.introduce Workshop.place
  simp only [hd, ho, hc, hp, hdry, Bool.false_eq_true, if_false, if_true]

theorem exists_line_trial : ∃ d scaffold,
    Workshop.stocked.compose d "x = 1\n" = .ok scaffold ∧
      Workshop.stocked.introduce hiddenTree lineTrial = (hiddenTree,
        .ok (.done (Workshop.stocked.change lineTrial d (some "x = 1\n") scaffold))) := by
  have hnames : topLevelNames "x = 1\n" = [] := by decide +kernel
  obtain ⟨d, hd⟩ := exists_draft_of_singleton (show lineTrial.name = some "singleton" from rfl)
  obtain ⟨heading, hheading, -⟩ := stocked_plain.heading hd (Size.ofText "x = 1\n")
  have hcompose : Workshop.stocked.compose d "x = 1\n" = .ok (heading ++ "\n\n" ++ d.code) :=
    compose_eq_ok.mpr ⟨heading, hheading, rfl⟩
  exact ⟨d, _, hcompose,
    introduce_eq_trial hd existing_line hcompose (isPresent_of_none rfl hnames _) rfl⟩

theorem introduce_diff_describes_line : ∃ effect old new hunks,
    Workshop.stocked.introduce hiddenTree lineTrial = (hiddenTree, .ok (.done effect)) ∧
      existing hiddenTree lineTrial.target = .ok old ∧ hunks ≠ [] ∧
      Diff.Describes lineTrial.target.toString (old.getD "") new effect.diff hunks := by
  obtain ⟨d, scaffold, -, htrial⟩ := exists_line_trial
  obtain ⟨old, new, hunks, ho, hne, hdescribes, -⟩ := introduce_diff_describes _ _ _ _ _ htrial
  exact ⟨_, old, new, hunks, htrial, ho, hne, hdescribes⟩

/-- The heads of a difference do not stand on lines of their own. -/
theorem introduce_diff_heads_unbroken : ∃ effect,
    Workshop.stocked.introduce hiddenTree lineTrial = (hiddenTree, .ok (.done effect)) ∧
      (∃ rest, effect.diff = "--- t.py+++ t.py@@ -" ++ rest) ∧
      ¬ "--- t.py\n".toList <+: effect.diff.toList := by
  obtain ⟨d, scaffold, hcompose, htrial⟩ := exists_line_trial
  obtain ⟨hunks, hne, hdescribes⟩ :=
    exists_describes_change lineTrial (some "x = 1\n") hcompose
  obtain ⟨rest, hstart⟩ := hdescribes.start hne
  have hname : lineTrial.target.toString = "t.py" := by
    rw [target_lineTrial]
    decide
  rw [hname] at hstart
  exact ⟨_, htrial, ⟨rest, hstart⟩, Diff.not_head_prefix hstart⟩

end DesignLens.Scaffold
