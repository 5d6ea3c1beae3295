import DesignLens.Json.Traits
import DesignLens.Text.Blank
import DesignLens.Text.Search
import Mathlib.Data.List.Infix
import Mathlib.Data.List.Nodup
import Mathlib.Data.List.TakeWhile

/-!
# Searching, trimming, sorting and joining texts

Occurrence is being a contiguous part. Trimming removes nothing but blanks. Sorting keeps the texts,
puts them in ascending order, and in strictly ascending order if none is repeated. Joining values
succeeds if all of them are texts.
-/

namespace DesignLens.Text

theorem occursIn_iff {needle cs : List Char} :
    occursIn needle cs = true ↔ needle <:+: cs := by
  induction cs with
  | nil => simp [occursIn]
  | cons c rest ih =>
    rw [occursIn, Bool.or_eq_true, List.isPrefixOf_iff_prefix, ih, List.infix_cons_iff]

theorem occurs_iff {needle text : String} :
    occurs needle text = true ↔ needle.toList <:+: text.toList :=
  occursIn_iff

/-- Trimming the end of a text removes blanks only. -/
theorem trimRight_append_blanks (text : String) :
    ∃ blanks : List Char, (∀ c ∈ blanks, isBlank c = true) ∧
      text.toList = (trimRight text).toList ++ blanks := by
  refine ⟨(text.toList.reverse.takeWhile isBlank).reverse, ?_, ?_⟩
  · intro c hc
    exact List.mem_takeWhile_imp (List.mem_reverse.mp hc)
  · rw [trimRight, String.toList_ofList, dropEndWhile, ← List.reverse_append,
      List.takeWhile_append_dropWhile, List.reverse_reverse]

theorem trimRight_eq_self {text : String} {cs : List Char} {c : Char}
    (htext : text.toList = cs ++ [c]) (hc : isBlank c = false) : trimRight text = text := by
  rw [trimRight, htext, dropEndWhile, List.reverse_append, List.reverse_singleton,
    List.singleton_append, List.dropWhile_cons_of_neg (by simp [hc]), List.reverse_cons,
    List.reverse_reverse, ← htext, String.ofList_toList]

/-- A trimmed text is a contiguous part of the text and does not end with a blank. -/
theorem trim_contiguous (text : String) : (trim text).toList <:+: text.toList := by
  rw [trim, String.toList_ofList, trimChars, dropEndWhile]
  have hend : ((text.toList.dropWhile isBlank).reverse.dropWhile isBlank).reverse <+:
      text.toList.dropWhile isBlank := by
    rw [← List.reverse_suffix, List.reverse_reverse]
    exact List.dropWhile_suffix isBlank
  exact hend.isInfix.trans (List.dropWhile_suffix isBlank).isInfix

theorem isBlank_getLast?_trim {text : String} {c : Char}
    (h : (trim text).toList.getLast? = some c) : isBlank c = false := by
  rw [trim, String.toList_ofList, trimChars, dropEndWhile, List.getLast?_reverse] at h
  simpa [h] using List.head?_dropWhile_not isBlank (text.toList.dropWhile isBlank).reverse

/-- Only a text of blanks is trimmed to nothing. -/
theorem trim_ne_empty {text : String} {c : Char} (h : c ∈ text.toList) (hc : isBlank c = false) :
    trim text ≠ "" := by
  intro hempty
  have hchars := congrArg String.toList hempty
  rw [trim, String.toList_ofList, trimChars, dropEndWhile, String.toList_empty,
    List.reverse_eq_nil_iff, List.dropWhile_eq_nil_iff] at hchars
  -- The first character left at the start is not blank, so nothing is left at all.
  cases hleft : text.toList.dropWhile isBlank with
  | nil => simpa [hc] using List.dropWhile_eq_nil_iff.mp hleft c h
  | cons first rest =>
    have hblank := hchars first (by simp [hleft])
    have hfirst := List.head?_dropWhile_not isBlank text.toList
    simp [hleft, hblank] at hfirst

theorem plainNewlines_eq_self {cs : List Char} (h : '\r' ∉ cs) : plainNewlines cs = cs := by
  induction cs with
  | nil => rfl
  | cons c rest ih =>
    rw [List.mem_cons, not_or] at h
    rw [plainNewlines]
    · rw [if_neg (Ne.symm h.1), ih h.2]
    · rintro rest' hc -
      exact h.1 hc.symm

theorem return_not_mem_plainNewlines (cs : List Char) : '\r' ∉ plainNewlines cs := by
  fun_induction plainNewlines cs with
  | case1 => simp
  | case2 rest ih => simp [ih]
  | case3 c rest hpair ih =>
    rw [List.mem_cons, not_or]
    refine ⟨?_, ih⟩
    split_ifs with hc
    · decide
    · exact Ne.symm hc

theorem sort_perm (texts : List String) : (sort texts).Perm texts :=
  List.mergeSort_perm _ _

@[simp] theorem mem_sort {text : String} {texts : List String} :
    text ∈ sort texts ↔ text ∈ texts :=
  (sort_perm texts).mem_iff

theorem sort_pairwise_le (texts : List String) : (sort texts).Pairwise (· ≤ ·) := by
  have htrans : ∀ a b c : String, decide (a ≤ b) = true → decide (b ≤ c) = true →
      decide (a ≤ c) = true := by
    intro a b c hab hbc
    exact decide_eq_true (String.le_trans (of_decide_eq_true hab) (of_decide_eq_true hbc))
  have htotal : ∀ a b : String, (decide (a ≤ b) || decide (b ≤ a)) = true := by
    intro a b
    rcases String.le_total a b with h | h <;> simp [h]
  exact (List.pairwise_mergeSort htrans htotal texts).imp of_decide_eq_true

theorem lt_of_le_of_ne {a b : String} (hle : a ≤ b) (hne : a ≠ b) : a < b := by
  rw [← String.not_le]
  intro hba
  exact hne (String.le_antisymm hle hba)

theorem sort_pairwise_lt {texts : List String} (h : texts.Nodup) :
    (sort texts).Pairwise (· < ·) := by
  have hn : (sort texts).Nodup := (sort_perm texts).nodup_iff.mpr h
  exact ((sort_pairwise_le texts).and hn).imp fun hab => lt_of_le_of_ne hab.1 hab.2

end DesignLens.Text

namespace DesignLens.Json

theorem mapM_zipIdx_strings {f : Json × Nat → Except Failure String}
    (hf : ∀ text i, f (.str text, i) = .ok text) (texts : List String) (n : Nat) :
    ((texts.map Json.str).zipIdx n).mapM f = .ok texts := by
  induction texts generalizing n with
  | nil => rfl
  | cons text texts ih =>
    rw [List.map_cons, List.zipIdx_cons, List.mapM_cons, ih, hf]
    rfl

theorem joinTexts_strings (separator : String) (texts : List String) :
    joinTexts separator (texts.map Json.str) = .ok (separator.intercalate texts) := by
  -- The places only serve the message about an item that is no text.
  unfold Json.joinTexts
  rw [mapM_zipIdx_strings fun _ _ => rfl]
  rfl

end DesignLens.Json
