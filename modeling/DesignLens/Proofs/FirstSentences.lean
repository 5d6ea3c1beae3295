import DesignLens.Advice.Maps
import DesignLens.Proofs.TextPieces
import Mathlib.Data.List.DropRight

/-!
# The first sentence of a description

Advice that is taken from a description is its opening: what stands before the first line end and
before the first point, without the blanks around it. A point that the text starts with is no end,
and then the opening is the whole first line. There is no advice exactly if there is no description
or nothing but blanks in it: every character that ends a line is a blank, so that a trimmed text
starts with a line that is not empty.
-/

namespace DesignLens.Text

variable {text : String} {cs line : List Char} {c : Char}

/-! ## Trimmed texts -/

theorem dropEndWhile_isPrefix (p : Char → Bool) (cs : List Char) : dropEndWhile p cs <+: cs :=
  List.rdropWhile_prefix p cs

theorem head?_eq_of_isPrefix {start : List Char} (h : start <+: cs) (hne : start ≠ []) :
    start.head? = cs.head? := by
  obtain ⟨rest, rfl⟩ := h
  rw [List.head?_append_of_ne_nil _ hne]

/-- No start of a text begins with a blank if the text does not. -/
theorem isBlank_head?_of_isPrefix {start : List Char} (h : start <+: cs) (hhead : cs.head? = some c)
    (hblank : isBlank c = false) (d : Char) (hd : start.head? = some d) : isBlank d = false := by
  have hne : start ≠ [] := by
    rintro rfl
    cases hd
  obtain rfl : d = c := Option.some.inj (hd.symm.trans ((head?_eq_of_isPrefix h hne).trans hhead))
  exact hblank

theorem isBlank_head?_trim (h : (trim text).toList.head? = some c) : isBlank c = false := by
  rw [trim, String.toList_ofList, trimChars] at h
  have hne : dropEndWhile isBlank (text.toList.dropWhile isBlank) ≠ [] := by
    intro hnil
    rw [hnil] at h
    cases h
  rw [head?_eq_of_isPrefix (dropEndWhile_isPrefix _ _) hne] at h
  simpa [h] using List.head?_dropWhile_not isBlank text.toList

/-- Exactly the texts of blanks are trimmed to nothing. -/
theorem trim_eq_empty_iff : trim text = "" ↔ ∀ c ∈ text.toList, isBlank c = true := by
  constructor
  · intro hempty c hc
    by_contra hblank
    exact trim_ne_empty hc (by simpa using hblank) hempty
  · intro hblank
    rw [trim, trimChars, List.dropWhile_eq_nil_iff.mpr hblank]
    rfl

theorem exists_head?_trim (h : trim text ≠ "") :
    ∃ c, (trim text).toList.head? = some c ∧ isBlank c = false := by
  obtain ⟨c, cs, hchars⟩ : ∃ c cs, (trim text).toList = c :: cs :=
    List.exists_cons_of_ne_nil fun hnil => h (String.toList_eq_nil_iff.mp hnil)
  have hhead : (trim text).toList.head? = some c := by rw [hchars]; rfl
  exact ⟨c, hhead, isBlank_head?_trim hhead⟩

/-- Where there is no blank at the start, only the end is trimmed. -/
theorem trimChars_eq_dropEndWhile (h : ∀ c, cs.head? = some c → isBlank c = false) :
    trimChars cs = dropEndWhile isBlank cs := by
  cases cs with
  | nil => rfl
  | cons c rest => rw [trimChars, List.dropWhile_cons_of_neg (by simp [h c rfl])]

/-- Blanks at the end may be dropped before a text is shortened, if it is not shortened at a
blank. -/
theorem dropEndWhile_takeWhile {p q : Char → Bool} (h : ∀ c, p c = true → q c = true)
    (cs : List Char) :
    dropEndWhile p ((dropEndWhile p cs).takeWhile q) = dropEndWhile p (cs.takeWhile q) := by
  -- From the right end, where the blanks are dropped.
  induction cs using List.reverseRecOn with
  | nil => rfl
  | append_singleton cs c ih =>
    by_cases hc : p c = true
    · have hdrop : ∀ l : List Char, dropEndWhile p (l ++ [c]) = dropEndWhile p l := fun l =>
        List.rdropWhile_concat_pos p l c hc
      rw [hdrop, ih, List.takeWhile_append]
      split_ifs with hall
      · rw [List.takeWhile_cons_of_pos (h c hc), List.takeWhile_nil, hdrop,
          (List.takeWhile_prefix q).eq_of_length hall]
      · rfl
    · have hkeep : dropEndWhile p (cs ++ [c]) = cs ++ [c] := List.rdropWhile_concat_neg p cs c hc
      rw [hkeep]

/-! ## First lines -/

/-- What is not blank does not end a line. -/
theorem isLineEnd_eq_false (h : isBlank c = false) : isLineEnd c = false := by
  by_contra hend
  exact absurd (isBlank_of_isLineEnd (by simpa using hend)) (by simp [h])

theorem dropLineEnd_unended (h : ∀ c ∈ line, isLineEnd c = false) :
    dropLineEnd line.reverse = line.reverse := by
  rw [dropLineEnd, List.reverse_reverse]
  split
  · exact absurd (h '\n' List.mem_cons_self) (by decide)
  · rw [if_neg (by simp [h _ List.mem_cons_self])]
  · rfl

theorem dropLineEnd_ended (h : ∀ c ∈ line, isLineEnd c = false) (hc : isLineEnd c = true) :
    dropLineEnd (c :: line).reverse = line.reverse := by
  rw [dropLineEnd, List.reverse_reverse]
  split
  · rename_i heq
    obtain ⟨rfl, rfl⟩ := List.cons.inj heq
    exact absurd (h '\r' List.mem_cons_self) (by decide)
  · rename_i heq
    obtain ⟨rfl, rfl⟩ := List.cons.inj heq
    rw [if_pos hc]
  · rename_i heq
    cases heq

/-- The first line is what stands before the first line end, after what was read of it before. -/
theorem exists_linesFrom (line cs : List Char) (hline : ∀ c ∈ line, isLineEnd c = false)
    (hne : line ≠ [] ∨ cs ≠ []) :
    ∃ first rest, linesFrom line cs = first :: rest ∧
      dropLineEnd first = line.reverse ++ cs.takeWhile fun c => !isLineEnd c := by
  fun_induction linesFrom line cs with
  | case1 line hempty =>
    rw [List.isEmpty_iff] at hempty
    exact absurd hne (by simp [hempty])
  | case2 line hempty =>
    exact ⟨line.reverse, [], rfl, by simpa using dropLineEnd_unended hline⟩
  | case3 line rest ih =>
    -- Two characters that are one line end.
    refine ⟨_, _, rfl, ?_⟩
    rw [List.takeWhile_cons_of_neg (by decide), List.append_nil, dropLineEnd, List.reverse_reverse]
    rfl
  | case4 line c rest hpair hc ih =>
    refine ⟨_, _, rfl, ?_⟩
    rw [List.takeWhile_cons_of_neg (by simp [hc]), List.append_nil, dropLineEnd_ended hline hc]
  | case5 line c rest hpair hc ih =>
    rw [Bool.not_eq_true] at hc
    obtain ⟨first, others, hlines, hfirst⟩ :=
      ih (List.forall_mem_cons.mpr ⟨hc, hline⟩) (Or.inl (List.cons_ne_nil c line))
    refine ⟨first, others, hlines, ?_⟩
    rw [hfirst, List.takeWhile_cons_of_pos (by simp [hc]), List.reverse_cons, List.append_assoc,
      List.singleton_append]

/-- A text that is not empty has a first line: what stands before its first line end. -/
theorem exists_lines (h : text ≠ "") :
    ∃ rest, lines text =
      String.ofList (text.toList.takeWhile fun c => !isLineEnd c) :: rest := by
  obtain ⟨first, rest, hlines, hfirst⟩ := exists_linesFrom [] text.toList (by simp)
    (Or.inr fun hnil => h (String.toList_eq_nil_iff.mp hnil))
  refine ⟨rest.map fun line => String.ofList (dropLineEnd line), ?_⟩
  rw [lines, hlines, List.map_cons, hfirst, List.reverse_nil, List.nil_append]

/-- What stands before a character is the longest start of the text without it. -/
theorem before_eq_takeWhile {separator : String} {sep : Char} (hsep : separator.toList = [sep])
    (text : String) :
    before separator text = String.ofList (text.toList.takeWhile (· != sep)) := by
  rw [before, pieces, hsep]
  by_cases hmem : sep ∈ text.toList
  · obtain ⟨start, rest, htext, hstart⟩ := List.eq_append_cons_of_mem hmem
    have hother : ∀ c ∈ start, (c != sep) = true := fun c hc =>
      bne_iff_ne.mpr fun heq => hstart (heq ▸ hc)
    rw [htext, piecesFrom_append hstart, List.takeWhile_append_of_pos hother,
      List.takeWhile_cons_of_neg (by simp)]
    simp
  · have hother : ∀ c ∈ text.toList, (c != sep) = true := fun c hc =>
      bne_iff_ne.mpr fun heq => hmem (heq ▸ hc)
    rw [piecesFrom_end hmem, List.takeWhile_eq_self_iff.mpr hother]
    simp

/-! ## Openings -/

/-- The characters that the opening of a text ends at. -/
def endsOpening (cs : List Char) (c : Char) : Bool :=
  isLineEnd c || (c == '.' && cs.head? != some '.')

theorem endsOpening_iff : endsOpening cs c = true ↔
    isLineEnd c = true ∨ (c = '.' ∧ cs.head? ≠ some '.') := by
  simp [endsOpening]

/-- How a text starts, up to the end of its first line or an earlier point. -/
def opening (cs : List Char) : List Char :=
  dropEndWhile isBlank (cs.takeWhile fun c => !endsOpening cs c)

theorem opening_isPrefix (cs : List Char) : opening cs <+: cs :=
  (dropEndWhile_isPrefix _ _).trans (List.takeWhile_prefix _)

theorem endsOpening_of_mem (h : c ∈ opening cs) : endsOpening cs c = false := by
  simpa using List.mem_takeWhile_imp ((dropEndWhile_isPrefix _ _).subset h)

/-- A text that does not start with a blank has an opening. -/
theorem opening_ne_nil (hhead : cs.head? = some c) (hc : isBlank c = false) : opening cs ≠ [] := by
  obtain ⟨rest, rfl⟩ : ∃ rest, cs = c :: rest := List.head?_eq_some_iff.mp hhead
  have hstart : endsOpening (c :: rest) c = false := by
    simp [endsOpening, isLineEnd_eq_false hc]
  intro hnil
  have hblank := List.rdropWhile_eq_nil_iff.mp hnil c (by simp [hstart])
  exact absurd hblank (by simp [hc])

/-- Behind the opening there are only blanks up to a character that ends it. -/
theorem exists_eq_opening_append (cs : List Char) :
    ∃ blanks after, cs = opening cs ++ blanks ++ after ∧ (∀ c ∈ blanks, isBlank c = true) ∧
      ∀ c, after.head? = some c → endsOpening cs c = true := by
  refine ⟨List.rtakeWhile isBlank (cs.takeWhile fun c => !endsOpening cs c),
    cs.dropWhile fun c => !endsOpening cs c, ?_, fun c hc => List.mem_rtakeWhile_imp hc, ?_⟩
  · have hsplit : opening cs ++ List.rtakeWhile isBlank (cs.takeWhile fun c => !endsOpening cs c) =
        cs.takeWhile fun c => !endsOpening cs c :=
      List.rdropWhile_append_rtakeWhile
    rw [hsplit, List.takeWhile_append_dropWhile]
  · intro c hc
    have hstop := List.head?_dropWhile_not (fun c => !endsOpening cs c) cs
    simpa [hc] using hstop

end DesignLens.Text

namespace DesignLens.Advice

open Text

variable {description : String} {cs : List Char} {c : Char}

/-! ## The first sentence as an opening -/

theorem toList_point : ".".toList = ['.'] := rfl

/-- The opening of a text that starts with a point is its first line. -/
theorem opening_of_point (h : cs.head? = some '.') :
    opening cs = dropEndWhile isBlank (cs.takeWhile fun c => !isLineEnd c) := by
  simp [opening, endsOpening, h]

/-- There is nothing before the point that a text starts with. -/
theorem before_point_eq_empty (h : cs.head? = some '.') : before "." (String.ofList cs) = "" := by
  obtain ⟨rest, rfl⟩ := List.head?_eq_some_iff.mp h
  rw [before_eq_takeWhile toList_point, String.toList_ofList,
    List.takeWhile_cons_of_neg (by simp)]

/-- The opening of any other text is what stands before the first point of its first line. -/
theorem trim_before_point (hhead : cs.head? = some c) (hblank : isBlank c = false)
    (hpoint : c ≠ '.') :
    trim (before "." (String.ofList (dropEndWhile isBlank (cs.takeWhile fun c => !isLineEnd c)))) =
      String.ofList (opening cs) := by
  have hother : ∀ d, isBlank d = true → (d != '.') = true := by
    intro d hd
    rw [bne_iff_ne]
    rintro rfl
    exact absurd hd (by decide)
  have hends : (fun d => decide ((d != '.') = true ∧ (!isLineEnd d) = true)) =
      fun d => !endsOpening cs d := by
    funext d
    by_cases hd : d = '.' <;> simp [endsOpening, hhead, hpoint, hd]
  have hstart : (dropEndWhile isBlank (cs.takeWhile fun c => !isLineEnd c)).takeWhile (· != '.')
      <+: cs :=
    (List.takeWhile_prefix _).trans ((dropEndWhile_isPrefix _ _).trans (List.takeWhile_prefix _))
  rw [before_eq_takeWhile toList_point, String.toList_ofList, trim, String.toList_ofList,
    trimChars_eq_dropEndWhile (isBlank_head?_of_isPrefix hstart hhead hblank),
    dropEndWhile_takeWhile hother, List.takeWhile_takeWhile,
    hends, opening]

/-- The first sentence is the opening of the trimmed text, as far as the limit allows. -/
theorem firstSentence_eq (description : String) :
    firstSentence description = if trim description = "" then none
      else some (String.ofList ((opening (trim description).toList).take sentenceLimit)) := by
  by_cases hempty : trim description = ""
  · rw [if_pos hempty, firstSentence, hempty]
    rfl
  obtain ⟨c, hhead, hblank⟩ := exists_head?_trim hempty
  obtain ⟨rest, hlines⟩ := exists_lines hempty
  rw [if_neg hempty, firstSentence, hlines]
  generalize (trim description).toList = cs at hhead
  have hopening := opening_ne_nil hhead hblank
  have hline : trim (String.ofList (cs.takeWhile fun c => !isLineEnd c)) =
      String.ofList (dropEndWhile isBlank (cs.takeWhile fun c => !isLineEnd c)) := by
    rw [trim, String.toList_ofList, trimChars_eq_dropEndWhile]
    exact isBlank_head?_of_isPrefix (List.takeWhile_prefix _) hhead hblank
  dsimp only
  rw [hline]
  by_cases hpoint : c = '.'
  · -- The sentence before the point is empty, so the line is chosen.
    subst hpoint
    have hstart : (opening cs).head? = some '.' :=
      (head?_eq_of_isPrefix (opening_isPrefix cs) hopening).trans hhead
    rw [← opening_of_point hhead, before_point_eq_empty hstart]
    simp [hopening, trim, trimChars, dropEndWhile]
  · rw [trim_before_point hhead hblank hpoint]
    simp [hopening]

/-! ## What advice from a description looks like -/

/-- There is no description, or it is blank. -/
def SaysNothing (description : Option String) : Prop :=
  ∀ text ∈ description, ∀ c ∈ text.toList, isBlank c = true

/-- A sentence that a text opens with, where `line` is the first line of the text. -/
structure Opens (text line sentence : String) : Prop where
  ne_empty : sentence ≠ ""
  short : sentence.length ≤ 220
  unbroken : ∀ c ∈ sentence.toList, isLineEnd c = false
  leads : sentence.toList <+: text.toList
  pointed : '.' ∈ sentence.toList → line.toList.head? = some '.'
  solid : ∀ c, sentence.toList.head? = some c → isBlank c = false
  /-- Nothing but blanks is left out before the end of the line or an earlier point. -/
  full : sentence.length = 220 ∨ ∃ blanks after, text.toList = sentence.toList ++ blanks ++ after ∧
    (∀ c ∈ blanks, isBlank c = true) ∧
    ∀ c, after.head? = some c → isLineEnd c = true ∨ (c = '.' ∧ line.toList.head? ≠ some '.')

theorem firstSentence_eq_none_iff :
    firstSentence description = none ↔ trim description = "" := by
  rw [firstSentence_eq]
  split_ifs with hempty <;> simp [hempty]

/-- What is cut from the opening of a text that starts without a blank opens the text. -/
theorem opens_take {text line : String} (hline : line.toList.head? = text.toList.head?)
    (hhead : text.toList.head? = some c) (hblank : isBlank c = false) :
    Opens text line (String.ofList ((opening text.toList).take sentenceLimit)) := by
  have hopening := opening_ne_nil hhead hblank
  have hleads : (opening text.toList).take sentenceLimit <+: text.toList :=
    (List.take_prefix _ _).trans (opening_isPrefix _)
  have hgoes : ∀ d ∈ (opening text.toList).take sentenceLimit,
      ¬ (isLineEnd d = true ∨ (d = '.' ∧ line.toList.head? ≠ some '.')) := by
    intro d hd
    rw [hline, ← endsOpening_iff, endsOpening_of_mem (List.mem_of_mem_take hd)]
    exact Bool.false_ne_true
  constructor
  case ne_empty => simpa [sentenceLimit] using hopening
  case short =>
    rw [String.length_ofList]
    exact List.length_take_le sentenceLimit _
  case unbroken =>
    intro d hd
    rw [String.toList_ofList] at hd
    simpa using fun hend => hgoes d hd (Or.inl hend)
  case leads => rwa [String.toList_ofList]
  case pointed =>
    intro hpoint
    rw [String.toList_ofList] at hpoint
    by_contra hstart
    exact hgoes '.' hpoint (Or.inr ⟨rfl, hstart⟩)
  case solid =>
    rw [String.toList_ofList]
    exact isBlank_head?_of_isPrefix hleads hhead hblank
  case full =>
    rw [String.length_ofList, String.toList_ofList, hline]
    rcases Nat.le_total (opening text.toList).length sentenceLimit with hshort | hlong
    · obtain ⟨blanks, after, htext, hblanks, hafter⟩ := exists_eq_opening_append text.toList
      rw [List.take_of_length_le hshort]
      exact Or.inr ⟨blanks, after, htext, hblanks, fun d hd => endsOpening_iff.mp (hafter d hd)⟩
    · exact Or.inl (List.length_take_of_le hlong)

/-- A text of which something is left by trimming has a first line, and its first sentence opens
it. -/
theorem exists_opens (h : trim description ≠ "") :
    ∃ line rest sentence, lines (trim description) = line :: rest ∧
      firstSentence description = some sentence ∧ Opens (trim description) line sentence := by
  obtain ⟨c, hhead, hblank⟩ := exists_head?_trim h
  obtain ⟨rest, hlines⟩ := exists_lines h
  refine ⟨_, rest, _, hlines, (firstSentence_eq description).trans (if_neg h),
    opens_take ?_ hhead hblank⟩
  have hfirst : isLineEnd c = false := isLineEnd_eq_false hblank
  obtain ⟨others, hchars⟩ := List.head?_eq_some_iff.mp hhead
  simp [hchars, hfirst]

/-- Advice is taken from a description exactly if it says anything, and is then its opening. A first
line is only asked for where there is one. -/
theorem description_gives_opening (description : Option String) :
    (description.bind firstSentence = none ↔ SaysNothing description) ∧
    (¬ SaysNothing description → ∃ text line rest sentence, description = some text ∧
      lines (trim text) = line :: rest ∧ description.bind firstSentence = some sentence ∧
      Opens (trim text) line sentence) ∧
    ∀ text ∈ description, trim text ≠ "" → lines (trim text) ≠ [] := by
  cases description with
  | none => simp [SaysNothing]
  | some text =>
    have hnothing : SaysNothing (some text) ↔ ∀ c ∈ text.toList, isBlank c = true := by
      simp [SaysNothing]
    rw [hnothing, ← trim_eq_empty_iff, Option.bind_some]
    refine ⟨firstSentence_eq_none_iff, ?_, ?_⟩
    · intro h
      obtain ⟨line, rest, sentence, hlines, hsentence, hopens⟩ := exists_opens h
      exact ⟨text, line, rest, sentence, rfl, hlines, hsentence, hopens⟩
    · rintro _ ⟨⟩ h hnone
      obtain ⟨rest, hlines⟩ := exists_lines h
      rw [hnone] at hlines
      cases hlines

/-- A text that starts with a point, between line ends of two kinds. -/
def pointedText : String := "\r\n .x. y \x0bz."

theorem description_gives_opening_pointed :
    ¬ SaysNothing (some pointedText) ∧ trim pointedText ≠ "" ∧ lines (trim pointedText) ≠ [] ∧
      firstSentence pointedText = some ".x. y" ∧ Opens (trim pointedText) ".x. y " ".x. y" := by
  have hspoken : ¬ SaysNothing (some pointedText) := fun h =>
    absurd (h _ rfl '.' (by decide)) (by decide)
  have hkept : trim pointedText ≠ "" := by decide
  have hlines : lines (trim pointedText) = [".x. y ", "z."] := by decide
  have hsentence : firstSentence pointedText = some ".x. y" := by decide
  obtain ⟨-, hopening, hindex⟩ := description_gives_opening (some pointedText)
  obtain ⟨text, line, rest, sentence, htext, hfirst, hgiven, hopens⟩ := hopening hspoken
  obtain rfl := Option.some.inj htext
  obtain ⟨rfl, -⟩ := List.cons.inj (hlines.symm.trans hfirst)
  obtain rfl := Option.some.inj (hsentence.symm.trans hgiven)
  exact ⟨hspoken, hkept, hindex _ rfl hkept, hsentence, hopens⟩

end DesignLens.Advice
