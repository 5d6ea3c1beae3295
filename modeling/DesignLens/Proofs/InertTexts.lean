import DesignLens.Proofs.DocstringParse
import DesignLens.Proofs.TextPieces
import DesignLens.Text.Case
import DesignLens.Text.Template

/-!
# Texts that stay as they are

A template in which nothing is opened is rendered to itself, whatever the values of names are. An
inert text has no character that means something in a template or in a string in triple quotes;
putting inert texts together gives inert texts.
-/

namespace DesignLens.Text

/-! ## Plain templates -/

/-- A text in which nothing opens a placeholder, a comment or a statement of a template. -/
def isPlainTemplate : List Char → Bool
  | [] => true
  | c :: rest =>
    !(c == '{' && (rest.head?.any fun d => d == '{' || d == '#' || d == '%')) &&
      isPlainTemplate rest

theorem renderChars_of_plain (context : Table Json) {cs : List Char}
    (h : isPlainTemplate cs = true) : renderChars context cs = some cs := by
  induction cs with
  | nil => rw [renderChars]
  | cons c rest ih =>
    simp only [isPlainTemplate, Bool.and_eq_true, Bool.not_eq_true'] at h
    have hrest := ih h.2
    rw [renderChars]
    · rw [hrest]
      rfl
    · rintro rest' hc hr
      simp [hc, hr] at h
    · rintro rest' hc hr
      simp [hc, hr] at h
    · rintro rest' hc hr
      simp [hc, hr] at h

theorem isPlainTemplate_append {as bs : List Char} (h : isPlainTemplate (as ++ bs) = true) :
    isPlainTemplate as = true ∧ isPlainTemplate bs = true := by
  induction as with
  | nil => exact ⟨rfl, h⟩
  | cons a as ih =>
    rw [List.cons_append, isPlainTemplate, Bool.and_eq_true] at h
    obtain ⟨has, hbs⟩ := ih h.2
    refine ⟨?_, hbs⟩
    rw [isPlainTemplate, Bool.and_eq_true]
    refine ⟨?_, has⟩
    cases as with
    | nil => simp
    | cons b as => exact h.1

/-- The two sides of a line end are plain on their own. -/
theorem isPlainTemplate_lines {as bs : List Char} (has : isPlainTemplate as = true)
    (hbs : isPlainTemplate bs = true) : isPlainTemplate (as ++ '\n' :: bs) = true := by
  induction as with
  | nil =>
    rw [List.nil_append, isPlainTemplate, hbs]
    rfl
  | cons a as ih =>
    rw [isPlainTemplate, Bool.and_eq_true] at has
    rw [List.cons_append, isPlainTemplate, Bool.and_eq_true]
    refine ⟨?_, ih has.2⟩
    cases as with
    | nil => simp
    | cons b as => exact has.1

/-- Characters that open nothing may stand before a plain text. -/
theorem isPlainTemplate_append_left {as bs : List Char} (has : '{' ∉ as)
    (hbs : isPlainTemplate bs = true) : isPlainTemplate (as ++ bs) = true := by
  induction as with
  | nil => exact hbs
  | cons a as ih =>
    rw [List.mem_cons, not_or] at has
    rw [List.cons_append, isPlainTemplate, ih has.2]
    simp [Ne.symm has.1]

/-! ## Inert texts -/

/-- Characters that mean nothing in a template or in a string in triple quotes. -/
def isInertChar (c : Char) : Bool := Source.isPlainChar c && c != '{'

def Inert (s : String) : Prop := ∀ c ∈ s.toList, isInertChar c = true

theorem inert_ofList {cs : List Char} (h : cs.all isInertChar = true) :
    Inert (String.ofList cs) := by
  intro c hc
  rw [String.toList_ofList] at hc
  exact List.all_eq_true.mp h c hc

theorem Inert.of_subset {a b : String} (h : a.toList ⊆ b.toList) (hb : Inert b) : Inert a :=
  fun c hc => hb c (h hc)

theorem Inert.not_mem {a : String} {c : Char} (ha : Inert a) (hc : isInertChar c = false) :
    c ∉ a.toList := by
  intro hmem
  simp [ha c hmem] at hc

theorem Inert.append {a b : String} (ha : Inert a) (hb : Inert b) : Inert (a ++ b) := by
  intro c hc
  rw [String.toList_append, List.mem_append] at hc
  exact hc.elim (ha c) (hb c)

theorem Inert.intercalate {separator : String} {texts : List String} (hs : Inert separator)
    (ht : ∀ text ∈ texts, Inert text) : Inert (separator.intercalate texts) := by
  intro c hc
  rcases mem_intercalate hc with hc | ⟨text, htext, hc⟩
  · exact hs c hc
  · exact ht text htext c hc

theorem mem_piecesFrom {needle piece cs part : List Char} {skip : Nat} {c : Char}
    (hpart : part ∈ piecesFrom needle skip piece cs) (hc : c ∈ part) : c ∈ piece ∨ c ∈ cs := by
  fun_induction piecesFrom needle skip piece cs with
  | case1 skip piece =>
    rw [List.mem_singleton.mp hpart, List.mem_reverse] at hc
    exact Or.inl hc
  | case2 skip piece d rest ih =>
    exact (ih hpart).imp_right (List.mem_cons_of_mem d)
  | case3 piece d rest hprefix ih =>
    rcases List.mem_cons.mp hpart with rfl | hpart
    · exact Or.inl (List.mem_reverse.mp hc)
    · rcases ih hpart with h | h
      · exact absurd h List.not_mem_nil
      · exact Or.inr (List.mem_cons_of_mem d h)
  | case4 piece d rest hprefix ih =>
    rcases ih hpart with h | h
    · rcases List.mem_cons.mp h with rfl | h
      · exact Or.inr List.mem_cons_self
      · exact Or.inl h
    · exact Or.inr (List.mem_cons_of_mem d h)

/-- Replacing brings in no characters but those of the replacement. -/
theorem mem_replaceAll {needle replacement text : String} {c : Char}
    (h : c ∈ (replaceAll needle replacement text).toList) :
    c ∈ replacement.toList ∨ c ∈ text.toList := by
  rcases mem_intercalate h with h | ⟨piece, hpiece, hc⟩
  · exact Or.inl h
  · obtain ⟨part, hpart, rfl⟩ := List.mem_map.mp hpiece
    rw [String.toList_ofList] at hc
    rcases mem_piecesFrom hpart hc with h | h
    · exact absurd h List.not_mem_nil
    · exact Or.inr h

/-- Changing the case of a character of ASCII keeps it inert. -/
theorem isInertChar_case : ∀ n < 128, isInertChar (Char.ofNat n) = true →
    isInertChar (Char.ofNat n).toUpper = true ∧ isInertChar (Char.ofNat n).toLower = true := by
  decide

theorem mem_titleChars {cs before : List Char} {afterCased : Bool} {d : Char}
    (hascii : ∀ c ∈ cs, c.toNat < 128) (hd : d ∈ titleChars before afterCased cs) :
    ∃ c ∈ cs, d = c.toUpper ∨ d = c.toLower := by
  induction cs generalizing before afterCased with
  | nil => simp [titleChars] at hd
  | cons c rest ih =>
    have hc : c.toNat < 128 := hascii c List.mem_cons_self
    rw [titleChars, List.mem_append] at hd
    rcases hd with hd | hd
    · refine ⟨c, List.mem_cons_self, ?_⟩
      split_ifs at hd
      · have hsigma : c.toNat ≠ 0x3a3 := by omega
        simp only [lowerInContext, hsigma, if_false, lowerChar, hc, if_true,
          List.mem_singleton] at hd
        exact Or.inr hd
      · simp only [titleChar, hc, if_true, List.mem_singleton] at hd
        exact Or.inl hd
    · obtain ⟨b, hb, h⟩ := ih (fun b hb => hascii b (List.mem_cons_of_mem c hb)) hd
      exact ⟨b, List.mem_cons_of_mem c hb, h⟩

theorem inert_title {text : String} (hascii : ∀ c ∈ text.toList, c.toNat < 128)
    (h : Inert text) : Inert (title text) := by
  intro d hd
  rw [title, String.toList_ofList] at hd
  obtain ⟨c, hc, heq⟩ := mem_titleChars hascii hd
  have hcase := isInertChar_case c.toNat (hascii c hc)
    (by rw [Char.ofNat_toNat]; exact h c hc)
  rw [Char.ofNat_toNat] at hcase
  rcases heq with rfl | rfl
  · exact hcase.1
  · exact hcase.2

theorem isInertChar_of_isDigit {c : Char} (h : c.isDigit = true) : isInertChar c = true := by
  have hne : ∀ d : Char, d.isDigit = false → c ≠ d := by
    rintro d hd rfl
    simp [h] at hd
  rw [isInertChar, Bool.and_eq_true, Source.isPlainChar_iff, bne_iff_ne]
  exact ⟨⟨hne _ (by decide), hne _ (by decide), hne _ (by decide), hne _ (by decide)⟩,
    hne _ (by decide)⟩

theorem inert_repr (n : Nat) : Inert n.repr := by
  intro c hc
  rw [Nat.repr, String.toList_ofList] at hc
  exact isInertChar_of_isDigit (Nat.isDigit_of_mem_toDigits (by decide) (by decide) hc)

end DesignLens.Text
