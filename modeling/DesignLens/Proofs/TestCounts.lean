import DesignLens.Pipeline.Testing
import DesignLens.Proofs.JsonNumbers
import DesignLens.Proofs.TextPieces

/-!
# Counting tests in what they print

The last line that tests print sums them up. Those that failed are only mentioned if there are any,
and a line counts only if it mentions both those that passed and those that failed. So the summary
is read as it stands if a test failed, but if all tests passed none are counted.
-/

namespace DesignLens.Number

/-! ## Reading a count -/

variable {cs : List Char}

theorem plainDigits_of_isDigit (h : ∀ c ∈ cs, c.isDigit = true) : plainDigits cs = cs := by
  refine (List.map_congr_left fun c hc => ?_).trans (List.map_id cs)
  have hdigit := h c hc
  obtain ⟨hlow, hhigh⟩ : 48 ≤ c.toNat ∧ c.toNat ≤ 57 := Char.isDigit_iff_toNat.mp hdigit
  have hvalue : Text.decimalDigit? c = some (c.toNat - 48) := by
    rw [Text.decimalDigit?, if_pos (by omega), if_pos hdigit]
    rfl
  have hplace : 48 + (c.toNat - 48) = c.toNat := by omega
  rw [hvalue, Option.map_some, Option.getD_some, digitChar, hplace, Char.ofNat_toNat, id]

theorem dropUnderscores_of_not_mem (before : Char) (h : '_' ∉ cs) :
    dropUnderscores before cs = some cs := by
  fun_induction dropUnderscores before cs with
  | case1 => rfl
  | case2 => simp at h
  | case3 => simp at h
  | case4 => simp at h
  | case5 before c rest _ _ ih =>
    rw [List.mem_cons, not_or] at h
    rw [ih h.2, Option.map_some]

theorem takeSign_of_isDigit (h : ∀ c ∈ cs, c.isDigit = true) : takeSign cs = (false, cs) := by
  unfold takeSign
  split
  · exact absurd (h '-' List.mem_cons_self) (by decide)
  · exact absurd (h '+' List.mem_cons_self) (by decide)
  · rfl

/-- A count that was written down is read again unless it has too many digits. -/
theorem readInt?_toString (n : Nat) :
    readInt? (toString n) =
      if (Nat.toDigits 10 n).length ≤ digitLimit then some (n : Int) else none := by
  have hdigits : ∀ c ∈ Nat.toDigits 10 n, c.isDigit = true := fun _ => Json.isDigit_of_mem
  have hsolid : ∀ c ∈ Nat.toDigits 10 n, Text.isBlank c = false := fun c hc =>
    Text.isBlank_of_isDigit (hdigits c hc)
  have hunderscore : '_' ∉ Nat.toDigits 10 n := fun h => absurd (hdigits _ h) (by decide)
  have hvalue : natOfDigits (digitValues (Nat.toDigits 10 n)) = n := Json.natOfDigits_toDigits n
  obtain ⟨d, ds, hds⟩ := Json.exists_toDigits n
  have hnonempty : (Nat.toDigits 10 n).isEmpty = false := by rw [hds]; rfl
  have htrim : Text.trimChars (Nat.toDigits 10 n) = Nat.toDigits 10 n :=
    Text.trimChars_eq_self (fun c hc => hsolid c (List.mem_of_head? hc))
      fun c hc => hsolid c (List.mem_of_getLast? hc)
  unfold readInt?
  rw [Nat.toString_eq_ofList_toDigits, String.toList_ofList, htrim,
    plainDigits_of_isDigit hdigits, dropUnderscores_of_not_mem ' ' hunderscore]
  simp only [Option.bind_eq_bind, Option.bind_some, takeSign_of_isDigit hdigits, hnonempty,
    List.all_eq_true.mpr hdigits]
  by_cases hlimit : (Nat.toDigits 10 n).length ≤ digitLimit
  · rw [if_pos hlimit, if_neg (by simpa using hlimit), hvalue]
    rfl
  · rw [if_neg hlimit, if_pos (by simpa using hlimit)]

end DesignLens.Number

namespace DesignLens.Pipeline

open Workspace Work Number

/-! ## Words of a line -/

namespace Tally

variable {t : Tally} {line : String}

/-- A text that says nothing of what came of tests. -/
def Quiet (text : String) : Prop :=
  Text.occurs "passed" text = false ∧ Text.occurs "failed" text = false

instance (text : String) : Decidable (Quiet text) := inferInstanceAs (Decidable (_ ∧ _))

theorem Quiet.of_mem_words {text word : String} (h : Quiet text) (hword : word ∈ Text.words text) :
    Quiet word := by
  refine ⟨?_, ?_⟩
  · refine Bool.eq_false_iff.mpr fun hoccurs => ?_
    exact Bool.false_ne_true (h.1.symm.trans (Text.occurs_of_mem_words hword hoccurs))
  · refine Bool.eq_false_iff.mpr fun hoccurs => ?_
    exact Bool.false_ne_true (h.2.symm.trans (Text.occurs_of_mem_words hword hoccurs))

/-- Both words have a letter in common. -/
theorem quiet_of_not_mem {text : String} (h : 'a' ∉ text.toList) : Quiet text := by
  have hneedle : ∀ needle : String, 'a' ∈ needle.toList → Text.occurs needle text = false := by
    intro needle hneedle
    refine Bool.eq_false_iff.mpr fun hoccurs => h ?_
    have hpart := Text.occurs_iff.mp hoccurs
    exact hpart.subset hneedle
  exact ⟨hneedle "passed" (by decide), hneedle "failed" (by decide)⟩

/-- Goes through words with the words before them. -/
def countWords (t : Tally) (words : List String) : Tally :=
  (words.zip words.tail).foldl countWord t

theorem countWords_cons_cons (t : Tally) (before word : String) (rest : List String) :
    t.countWords (before :: word :: rest) =
      (t.countWord (before, word)).countWords (word :: rest) := rfl

theorem countWord_of_quiet {word : String} (h : Quiet word) (before : String) :
    t.countWord (before, word) = t := by
  rw [countWord, if_neg (by simp [h.1]), if_neg (by simp [h.2])]

theorem countWord_failed (t : Tally) (before : String) :
    t.countWord (before, "failed,") =
      { t with failed := (readInt? before).getD t.failed } := by
  have hpassed : ¬ Text.occurs "passed" "failed," = true := by decide
  have hfailed : Text.occurs "failed" "failed," = true := by decide
  rw [countWord, if_neg hpassed, if_pos hfailed]

theorem countWord_passed (t : Tally) (before : String) :
    t.countWord (before, "passed") = { t with passed := (readInt? before).getD t.passed } := by
  have hpassed : Text.occurs "passed" "passed" = true := by decide
  rw [countWord, if_pos hpassed]

theorem countWords_of_quiet {words : List String} (h : ∀ word ∈ words, Quiet word)
    (before : String) : t.countWords (before :: words) = t := by
  induction words generalizing before with
  | nil => rfl
  | cons word rest ih =>
    rw [countWords_cons_cons, countWord_of_quiet (h word List.mem_cons_self)]
    exact ih (fun other hother => h other (List.mem_cons_of_mem word hother)) word

theorem countWords_append {front : List String} {word : String}
    (hfront : ∀ other ∈ front, Quiet other) (hword : Quiet word) (rest : List String) :
    t.countWords (front ++ word :: rest) = t.countWords (word :: rest) := by
  induction front with
  | nil => rfl
  | cons first front ih =>
    have hrest := ih fun other hother => hfront other (List.mem_cons_of_mem first hother)
    cases front with
    | nil => exact (congrArg (Tally.countWords · (word :: rest)) (countWord_of_quiet hword first))
    | cons next front =>
      have hnext : Quiet next := hfront next (by simp)
      rw [← hrest, List.cons_append, List.cons_append, countWords_cons_cons,
        countWord_of_quiet hnext]

/-! ## Lines -/

/-- Whether a line is searched for counts. -/
def counts (line : String) : Bool := Text.occurs "passed" line && Text.occurs "failed" line

theorem countLine_of_counts (h : counts line = true) :
    t.countLine line = t.countWords (Text.words line) := if_pos h

theorem countLine_of_not_counts (h : counts line = false) :
    (t.countLine line).passed = t.passed ∧ (t.countLine line).failed = t.failed := by
  have hcounts : ¬ (Text.occurs "passed" line && Text.occurs "failed" line) = true := by
    rw [← counts, h]
    exact Bool.false_ne_true
  rw [countLine, if_neg hcounts]
  split_ifs <;> exact ⟨rfl, rfl⟩

/-- Lines that are not searched change no counts. -/
theorem foldl_countLine_of_not_counts {lines : List String}
    (h : ∀ line ∈ lines, counts line = false) (t : Tally) :
    (lines.foldl countLine t).passed = t.passed ∧ (lines.foldl countLine t).failed = t.failed := by
  induction lines generalizing t with
  | nil => exact ⟨rfl, rfl⟩
  | cons line rest ih =>
    obtain ⟨hpassed, hfailed⟩ := countLine_of_not_counts (t := t) (h line List.mem_cons_self)
    obtain ⟨ihpassed, ihfailed⟩ :=
      ih (fun other hother => h other (List.mem_cons_of_mem line hother)) (t.countLine line)
    exact ⟨ihpassed.trans hpassed, ihfailed.trans hfailed⟩

end Tally

/-! ## What tests print -/

/-- What tests print: lines that are not searched for counts, then a summary between two bars, and
perhaps blank lines. -/
structure Printout where
  earlier : List String
  leftBar : Nat
  failed : Nat
  passed : Nat
  time : String
  rightBar : Nat
  later : List String
  unbroken : ∀ line ∈ time :: (earlier ++ later), '\n' ∉ line.toList
  uncounted : ∀ line ∈ earlier, Tally.counts line = false
  quiet : Tally.Quiet time
  blank : ∀ line ∈ later, ∀ c ∈ line.toList, Text.isBlank c = true

namespace Printout

variable (p : Printout)

def bar (length : Nat) : String := String.ofList (List.replicate length '=')

/-- Tests that failed are mentioned if there are any. -/
def failures : List String := if p.failed = 0 then [] else [toString p.failed, "failed,"]

def summary : String :=
  " ".intercalate ([bar p.leftBar] ++ p.failures ++
    [toString p.passed, "passed", "in", p.time, bar p.rightBar])

def text : String := "\n".intercalate (p.earlier ++ p.summary :: p.later)

/-- What is read for a number of tests. -/
def legible (n : Nat) : Int := if (Nat.toDigits 10 n).length ≤ digitLimit then n else 0

theorem getD_readInt? (n : Nat) : (readInt? (toString n)).getD 0 = legible n := by
  rw [readInt?_toString, legible]
  split_ifs <;> rfl

/-! ### The words of the summary -/

theorem not_mem_bar {c : Char} (hc : c ≠ '=') (length : Nat) : c ∉ (bar length).toList := by
  intro h
  rw [bar, String.toList_ofList] at h
  exact hc (List.eq_of_mem_replicate h)

theorem quiet_bar (length : Nat) : Tally.Quiet (bar length) :=
  Tally.quiet_of_not_mem (not_mem_bar (by decide) length)

theorem toList_toString (n : Nat) : (toString n).toList = Nat.toDigits 10 n := by
  rw [Nat.toString_eq_ofList_toDigits, String.toList_ofList]

theorem not_mem_toString {c : Char} (hc : c.isDigit = false) (n : Nat) :
    c ∉ (toString n).toList := by
  intro h
  rw [toList_toString] at h
  exact Bool.false_ne_true (hc.symm.trans (Json.isDigit_of_mem h))

theorem quiet_toString (n : Nat) : Tally.Quiet (toString n) :=
  Tally.quiet_of_not_mem (not_mem_toString (by decide) n)

theorem words_toString (n : Nat) : Text.words (toString n) = [toString n] := by
  obtain ⟨d, ds, hds⟩ := Json.exists_toDigits n
  have hsolid : ∀ c ∈ Nat.toDigits 10 n, Text.isBlank c = false := fun c hc =>
    Text.isBlank_of_isDigit (Json.isDigit_of_mem hc)
  unfold Text.words
  rw [toList_toString, Text.wordsFrom_of_solid hsolid, if_neg (by simp [hds]), List.map_singleton,
    ← toList_toString, List.reverse_nil, List.nil_append, String.ofList_toList]

theorem counts_summary : Tally.counts p.summary = decide (p.failed ≠ 0) := by
  have hpassed : Text.occurs "passed" p.summary = true := by
    rw [summary, Text.occurs_intercalate (by decide) (by decide), List.any_eq_true]
    exact ⟨"passed", by simp, by decide⟩
  have hfailed : Text.occurs "failed" p.summary = p.failures.any (Text.occurs "failed") := by
    rw [summary, Text.occurs_intercalate (by decide) (by decide)]
    have hin : Text.occurs "failed" "in" = false := by decide
    have hother : Text.occurs "failed" "passed" = false := by decide
    simp only [List.any_append, List.any_cons, List.any_nil, (quiet_bar _).2,
      (quiet_toString _).2, p.quiet.2, hin, hother, Bool.or_false, Bool.false_or]
  rw [Tally.counts, hpassed, hfailed, Bool.true_and, failures]
  split_ifs with hzero
  · simp [hzero]
  · have hword : Text.occurs "failed" "failed," = true := by decide
    simp [hzero, hword]

theorem words_summary (h : p.failed ≠ 0) :
    Text.words p.summary = Text.words (bar p.leftBar) ++ toString p.failed :: "failed," ::
      toString p.passed :: "passed" :: "in" ::
        (Text.words p.time ++ Text.words (bar p.rightBar)) := by
  have hfailed : Text.words "failed," = ["failed,"] := by decide
  have hpassed : Text.words "passed" = ["passed"] := by decide
  have hin : Text.words "in" = ["in"] := by decide
  rw [summary, failures, if_neg h, Text.words_intercalate]
  simp only [List.flatMap_cons, List.flatMap_nil, List.append_nil, List.cons_append,
    List.nil_append, words_toString, hfailed, hpassed, hin]

/-- The summary is read as it stands if there are tests that failed. -/
theorem countLine_summary {t : Tally} (h : p.failed ≠ 0) (hpassed : t.passed = 0)
    (hfailed : t.failed = 0) :
    (t.countLine p.summary).passed = legible p.passed ∧
      (t.countLine p.summary).failed = legible p.failed := by
  have hcounts : Tally.counts p.summary = true := by simp [counts_summary, h]
  have hrest : ∀ word ∈ "in" :: (Text.words p.time ++ Text.words (bar p.rightBar)),
      Tally.Quiet word := by
    intro word hword
    rw [List.mem_cons, List.mem_append] at hword
    rcases hword with rfl | hword | hword
    · decide
    · exact p.quiet.of_mem_words hword
    · exact (quiet_bar _).of_mem_words hword
  rw [Tally.countLine_of_counts hcounts, words_summary p h,
    Tally.countWords_append (fun word => (quiet_bar _).of_mem_words) (quiet_toString _),
    Tally.countWords_cons_cons, Tally.countWord_failed, hfailed, getD_readInt?,
    Tally.countWords_cons_cons, Tally.countWord_of_quiet (quiet_toString _),
    Tally.countWords_cons_cons, Tally.countWord_passed, hpassed, getD_readInt?,
    Tally.countWords_of_quiet hrest]
  exact ⟨rfl, rfl⟩

theorem not_counts_of_mem_later {line : String} (h : line ∈ p.later) :
    Tally.counts line = false := by
  have hquiet : Tally.Quiet line :=
    Tally.quiet_of_not_mem fun hmem => absurd (p.blank line h 'a' hmem) (by decide)
  rw [Tally.counts, hquiet.1, Bool.false_and]

theorem mem_failures {field : String} (h : field ∈ p.failures) :
    field = toString p.failed ∨ field = "failed," := by
  unfold failures at h
  split_ifs at h
  · exact absurd h List.not_mem_nil
  · simpa only [List.mem_cons, List.not_mem_nil, or_false] using h

theorem unbroken_summary : '\n' ∉ p.summary.toList := by
  intro hsummary
  rcases Text.mem_intercalate hsummary with hmem | ⟨field, hfield, hmem⟩
  · exact absurd hmem (by decide)
  simp only [List.mem_append, List.mem_cons, List.not_mem_nil, or_false] at hfield
  rcases hfield with (rfl | hfield) | rfl | rfl | rfl | rfl | rfl
  · exact not_mem_bar (by decide) _ hmem
  · rcases p.mem_failures hfield with rfl | rfl
    · exact not_mem_toString (by decide) _ hmem
    · exact absurd hmem (by decide)
  · exact not_mem_toString (by decide) _ hmem
  · exact absurd hmem (by decide)
  · exact absurd hmem (by decide)
  · exact p.unbroken _ List.mem_cons_self hmem
  · exact not_mem_bar (by decide) _ hmem

theorem pieces_text : Text.pieces "\n" p.text = p.earlier ++ p.summary :: p.later := by
  have hsep : "\n".toList = ['\n'] := rfl
  refine Text.pieces_intercalate hsep (by simp) fun line hline => ?_
  rw [List.mem_append, List.mem_cons] at hline
  rcases hline with hline | rfl | hline
  · exact p.unbroken line (List.mem_cons_of_mem _ (List.mem_append_left _ hline))
  · exact p.unbroken_summary
  · exact p.unbroken line (List.mem_cons_of_mem _ (List.mem_append_right _ hline))

/-- What is counted in the whole: the summary if a test failed, and otherwise nothing. -/
theorem ofText_text :
    (Tally.ofText p.text).passed = (if p.failed = 0 then 0 else legible p.passed) ∧
      (Tally.ofText p.text).failed = legible p.failed := by
  obtain ⟨hpassed, hfailed⟩ := Tally.foldl_countLine_of_not_counts p.uncounted .zero
  rw [Tally.ofText, pieces_text, List.foldl_append, List.foldl_cons]
  obtain ⟨hlaterPassed, hlaterFailed⟩ := Tally.foldl_countLine_of_not_counts
    (fun line => p.not_counts_of_mem_later)
    ((p.earlier.foldl Tally.countLine .zero).countLine p.summary)
  rw [hlaterPassed, hlaterFailed]
  split_ifs with hzero
  · obtain ⟨hsame, hsame'⟩ := Tally.countLine_of_not_counts
      (t := p.earlier.foldl Tally.countLine .zero) (p.counts_summary.trans (by simp [hzero]))
    rw [hsame, hsame', hpassed, hfailed, hzero]
    exact ⟨rfl, rfl⟩
  · exact p.countLine_summary hzero hpassed hfailed

end Printout

end DesignLens.Pipeline
