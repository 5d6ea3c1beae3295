import DesignLens.Proofs.Texts

/-!
# Pieces and words of texts

A character that separates stands in no piece, and joining texts in which it does not occur can be
undone. Words stand between blanks, so the words on both sides of a blank can be taken separately.
-/

namespace DesignLens.Text

variable {sep c : Char} {cs piece : List Char}

/-! ## Pieces between separators -/

theorem piecesFrom_end (h : sep ∉ cs) (piece : List Char) :
    piecesFrom [sep] 0 piece cs = [piece.reverse ++ cs] := by
  induction cs generalizing piece with
  | nil => simp [piecesFrom]
  | cons c rest ih =>
    rw [List.mem_cons, not_or] at h
    have hprefix : [sep].isPrefixOf (c :: rest) = false := by simp [List.isPrefixOf, h.1]
    rw [piecesFrom, hprefix]
    simp [ih h.2]

theorem piecesFrom_append (h : sep ∉ cs) (piece rest : List Char) :
    piecesFrom [sep] 0 piece (cs ++ sep :: rest) =
      (piece.reverse ++ cs) :: piecesFrom [sep] 0 [] rest := by
  induction cs generalizing piece with
  | nil => simp [piecesFrom]
  | cons c cs ih =>
    rw [List.mem_cons, not_or] at h
    have hprefix : [sep].isPrefixOf (c :: (cs ++ sep :: rest)) = false := by
      simp [List.isPrefixOf, h.1]
    rw [List.cons_append, piecesFrom, hprefix]
    simp [ih h.2]

theorem not_mem_of_mem_piecesFrom {part : List Char} (hpiece : sep ∉ piece)
    (hpart : part ∈ piecesFrom [sep] 0 piece cs) : sep ∉ part := by
  induction cs generalizing piece with
  | nil =>
    rw [piecesFrom, List.mem_singleton] at hpart
    rw [hpart, List.mem_reverse]
    exact hpiece
  | cons c rest ih =>
    by_cases hc : c = sep
    · subst hc
      rw [piecesFrom, if_pos (by simp)] at hpart
      rcases List.mem_cons.mp hpart with rfl | hpart
      · rwa [List.mem_reverse]
      · exact ih List.not_mem_nil hpart
    · rw [piecesFrom, if_neg (by simp [Ne.symm hc])] at hpart
      exact ih (by simp [Ne.symm hc, hpiece]) hpart

/-- Texts without the separator are the pieces of what they are joined to. -/
theorem pieces_intercalate {separator : String} (hsep : separator.toList = [sep])
    {texts : List String} (hne : texts ≠ []) (h : ∀ text ∈ texts, sep ∉ text.toList) :
    pieces separator (separator.intercalate texts) = texts := by
  unfold pieces
  rw [hsep]
  induction texts with
  | nil => exact absurd rfl hne
  | cons text rest ih =>
    have htext := h text List.mem_cons_self
    cases rest with
    | nil =>
      rw [String.intercalate_singleton, piecesFrom_end htext]
      simp
    | cons next rest =>
      have hrest := ih (by simp) fun other hother => h other (List.mem_cons_of_mem _ hother)
      rw [String.intercalate_cons_cons, String.toList_append, String.toList_append, hsep,
        List.append_assoc, List.singleton_append, piecesFrom_append htext, List.map_cons, hrest]
      simp

theorem mem_intercalate {separator : String} {texts : List String}
    (h : c ∈ (separator.intercalate texts).toList) :
    c ∈ separator.toList ∨ ∃ text ∈ texts, c ∈ text.toList := by
  induction texts with
  | nil => simp at h
  | cons text texts ih =>
    cases texts with
    | nil => exact Or.inr ⟨text, List.mem_cons_self, by simpa using h⟩
    | cons next texts =>
      rw [String.intercalate_cons_cons, String.toList_append, String.toList_append,
        List.mem_append, List.mem_append] at h
      rcases h with (h | h) | h
      · exact Or.inr ⟨text, List.mem_cons_self, h⟩
      · exact Or.inl h
      · rcases ih h with h | ⟨other, hother, hc⟩
        · exact Or.inl h
        · exact Or.inr ⟨other, List.mem_cons_of_mem _ hother, hc⟩

/-! ## Words between blanks -/

theorem isBlank_of_isDigit (h : c.isDigit = true) : isBlank c = false := by
  obtain ⟨hlow, hhigh⟩ : 48 ≤ c.toNat ∧ c.toNat ≤ 57 := Char.isDigit_iff_toNat.mp h
  simp [isBlank]
  omega

/-- A text that neither starts nor ends with a blank is trimmed already. -/
theorem trimChars_eq_self (hhead : ∀ c, cs.head? = some c → isBlank c = false)
    (hlast : ∀ c, cs.getLast? = some c → isBlank c = false) : trimChars cs = cs := by
  have hdrop : ∀ l : List Char, (∀ c, l.head? = some c → isBlank c = false) →
      l.dropWhile isBlank = l := by
    intro l hl
    cases l with
    | nil => rfl
    | cons c rest => exact List.dropWhile_cons_of_neg (by simp [hl c rfl])
  unfold trimChars dropEndWhile
  rw [hdrop cs hhead, hdrop cs.reverse (by simpa using hlast), List.reverse_reverse]

/-- A word without blanks is the only one. -/
theorem wordsFrom_of_solid (h : ∀ c ∈ cs, isBlank c = false) (word : List Char) :
    wordsFrom word cs = if word.reverse ++ cs = [] then [] else [word.reverse ++ cs] := by
  induction cs generalizing word with
  | nil => simp [wordsFrom]
  | cons c rest ih =>
    have hc := h c List.mem_cons_self
    have hrest := ih (fun d hd => h d (List.mem_cons_of_mem c hd)) (c :: word)
    rw [wordsFrom, if_neg (by simp [hc]), hrest]
    simp

/-- A blank divides the words. -/
theorem wordsFrom_append (hc : isBlank c = true) (word cs rest : List Char) :
    wordsFrom word (cs ++ c :: rest) = wordsFrom word cs ++ wordsFrom [] rest := by
  induction cs generalizing word with
  | nil => cases word <;> simp [wordsFrom, hc]
  | cons d cs ih =>
    rw [List.cons_append, wordsFrom, wordsFrom, ih, ih]
    split_ifs <;> rfl

theorem infix_of_mem_wordsFrom {word w : List Char} (hw : w ∈ wordsFrom word cs) :
    w <:+: word.reverse ++ cs := by
  induction cs generalizing word with
  | nil =>
    rw [wordsFrom] at hw
    split_ifs at hw with hempty
    · exact absurd hw List.not_mem_nil
    · rw [List.mem_singleton.mp hw, List.append_nil]
  | cons c rest ih =>
    have hlater : w ∈ wordsFrom [] rest → w <:+: word.reverse ++ c :: rest := fun hmem =>
      (ih hmem).trans ⟨word.reverse ++ [c], [], by simp⟩
    rw [wordsFrom] at hw
    split_ifs at hw with hblank hempty
    · exact hlater hw
    · rcases List.mem_cons.mp hw with rfl | hw
      · exact (List.prefix_append _ _).isInfix
      · exact hlater hw
    · simpa using ih hw

/-- What does not contain a character does not reach across it. -/
theorem infix_append_cons_iff {needle before after : List Char} (hc : c ∉ needle) :
    needle <:+: before ++ c :: after ↔ needle <:+: before ∨ needle <:+: after := by
  constructor
  · rintro ⟨s, t, h⟩
    rcases List.append_eq_append_iff.mp h with ⟨u, rfl, -⟩ | ⟨u, hu, hafter⟩
    · exact Or.inl ⟨s, u, rfl⟩
    cases u with
    | nil => exact Or.inl ⟨s, [], by simpa using hu⟩
    | cons d u =>
      obtain ⟨rfl, rfl⟩ := List.cons.inj hafter
      -- The occurrence ends after the separating character, so it starts after it, too.
      rcases List.append_eq_append_iff.mp hu with ⟨v, -, rfl⟩ | ⟨v, -, hv⟩
      · exact absurd (by simp) hc
      · cases v with
        | nil =>
          rw [List.nil_append] at hv
          exact absurd (hv ▸ List.mem_cons_self) hc
        | cons e v =>
          obtain ⟨-, rfl⟩ := List.cons.inj hv
          exact Or.inr ⟨v, t, rfl⟩
  · rintro (h | h)
    · exact h.trans (List.prefix_append _ _).isInfix
    · exact h.trans ⟨before ++ [c], [], by simp⟩

/-! ## Fields with a blank between them -/

theorem toList_blank : " ".toList = [' '] := rfl

theorem words_append_blank (text rest : String) :
    words (text ++ " " ++ rest) = words text ++ words rest := by
  unfold words
  rw [String.toList_append, String.toList_append, toList_blank, List.append_assoc,
    List.singleton_append, wordsFrom_append (by decide), List.map_append]

/-- Fields are divided into words each for itself. -/
theorem words_intercalate (fields : List String) :
    words (" ".intercalate fields) = fields.flatMap words := by
  induction fields with
  | nil => rfl
  | cons field rest ih =>
    cases rest with
    | nil => simp
    | cons next rest =>
      rw [String.intercalate_cons_cons, words_append_blank, ih]
      rfl

theorem occurs_append_blank {needle : String} (hblank : ' ' ∉ needle.toList) (text rest : String) :
    occurs needle (text ++ " " ++ rest) = (occurs needle text || occurs needle rest) := by
  rw [Bool.eq_iff_iff, Bool.or_eq_true, occurs_iff, occurs_iff, occurs_iff,
    String.toList_append, String.toList_append, toList_blank, List.append_assoc,
    List.singleton_append, infix_append_cons_iff hblank]

/-- What contains no blank occurs within a field. -/
theorem occurs_intercalate {needle : String} (hblank : ' ' ∉ needle.toList) (hne : needle ≠ "")
    (fields : List String) :
    occurs needle (" ".intercalate fields) = fields.any (occurs needle) := by
  induction fields with
  | nil =>
    rw [List.any_nil, Bool.eq_false_iff, ne_eq, occurs_iff]
    simpa using hne
  | cons field rest ih =>
    cases rest with
    | nil => simp
    | cons next rest =>
      rw [String.intercalate_cons_cons, occurs_append_blank hblank, ih]
      rfl

theorem occurs_of_mem_words {needle text word : String} (hword : word ∈ words text)
    (h : occurs needle word = true) : occurs needle text = true := by
  obtain ⟨w, hw, rfl⟩ := List.mem_map.mp hword
  have hpart := occurs_iff.mp h
  rw [String.toList_ofList] at hpart
  exact occurs_iff.mpr (hpart.trans (infix_of_mem_wordsFrom hw))

end DesignLens.Text
