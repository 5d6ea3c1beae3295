import DesignLens.Proofs.JsonNumbers
import DesignLens.Proofs.TableEntries
import Mathlib.Data.List.Forall2

/-!
# Reading JSON documents back

A text is written for a value if it is read as that value wherever it stands. Such texts can be put
together to those of arrays and objects, with any blanks between them, so by induction every value
is read back from its text in every layout that leaves the order of fields. Only what the numbers
and names of the value are is left to suppose: whole numbers of at most 4300 digits, floating point
numbers that read back alone, and no name twice in an object.
-/

namespace DesignLens.Json

/-- A text that is read as a value before whatever ends it. -/
structure Written (w : List Char) (v : Json) : Prop where
  starts : ∃ c cs, w = c :: cs ∧ isBlank c = false ∧ c ≠ ']' ∧ c ≠ Char.ofNat 0xfeff
  unbroken : '\r' ∉ w
  reads : ∀ rest i fuel, Ends rest → w.length < fuel →
    readValue fuel ⟨w ++ rest, i⟩ = .ok (v, ⟨rest, i + w.length⟩)

/-! ## Words, strings and numbers -/

theorem written_word : ∀ word ∈ words, Written word.1.toList word.2 := by
  intro word hword
  have hfirst : ∀ word ∈ words, (word.1.toList.head?.any fun c =>
      !isBlank c && c != ']' && c != Char.ofNat 0xfeff) = true := by decide
  have hunbroken : ∀ word ∈ words, '\r' ∉ word.1.toList := by decide
  refine ⟨?_, hunbroken word hword, ?_⟩
  · have hword := hfirst word hword
    rw [Option.any_eq_true] at hword
    obtain ⟨c, hhead, hc⟩ := hword
    obtain ⟨cs, hcs⟩ := List.head?_eq_some_iff.mp hhead
    simp only [Bool.and_eq_true, Bool.not_eq_true', bne_iff_ne] at hc
    exact ⟨c, cs, hcs, hc.1.1, hc.1.2, hc.2⟩
  · intro rest i fuel _ hfuel
    obtain ⟨fuel, rfl⟩ := Nat.exists_eq_succ_of_ne_zero (Nat.ne_zero_of_lt hfuel)
    simp only [words, List.mem_cons, List.not_mem_nil, or_false] at hword
    rcases hword with rfl | rfl | rfl | rfl | rfl | rfl <;> rfl

theorem return_not_mem_escape (asciiOnly : Bool) (c : Char) : '\r' ∉ escape asciiOnly c := by
  have hunits : '\r' ∉ (unitsOf c).flatMap fun u => '\\' :: 'u' :: Text.hexPadded 4 u := by
    intro hmem
    obtain ⟨u, -, hu⟩ := List.mem_flatMap.mp hmem
    have hdigits : '\r' ∈ Text.hexPadded 4 u := by simpa using hu
    exact absurd (isSome_hexDigit?_of_mem_hexPadded hdigits) (by decide)
  unfold escape
  split_ifs with hquote hslash hnewline hreturn
  iterate 7 decide
  · exact hunits
  · exact fun hmem => hreturn (List.mem_singleton.mp hmem).symm

theorem written_string (asciiOnly : Bool) (s : String) :
    Written (writeString asciiOnly s).toList (.str s) where
  starts := ⟨'"', _, toList_writeString asciiOnly s, by decide, by decide, by decide⟩
  unbroken := by
    rw [toList_writeString]
    simp [return_not_mem_escape]
  reads := by
    intro rest i fuel _ hfuel
    obtain ⟨fuel, rfl⟩ := Nat.exists_eq_succ_of_ne_zero (Nat.ne_zero_of_lt hfuel)
    have hread := readString_writeString asciiOnly s rest i
    rw [toList_writeString, List.cons_append] at hread ⊢
    rw [readValue.eq_def]
    simp only [hread]
    rfl

theorem written_of_readNumber {w : List Char} (hw : IsNumeric w) {i k : Nat} {v : Json}
    (hread : readNumber ⟨w, i⟩ = .ok (v, ⟨[], k⟩)) : Written w v where
  starts := by
    obtain ⟨d, cs, -, hstart⟩ :=
      exists_digit_of_whole (whole_ne_nil_of_value? (readNumber_eq_ok.mp hread).1)
    have hplain : ∀ c ∈ w, isBlank c = false ∧ c ≠ ']' ∧ c ≠ Char.ofNat 0xfeff := by
      intro c hc
      refine ⟨isBlank_of_inNumber (hw c hc), ?_, ?_⟩
      · rintro rfl
        exact absurd (hw _ hc) (by decide)
      · rintro rfl
        exact absurd (hw _ hc) (by decide)
    rcases hstart with rfl | rfl
    · exact ⟨d, cs, rfl, hplain d List.mem_cons_self⟩
    · exact ⟨'-', d :: cs, rfl, hplain '-' List.mem_cons_self⟩
  unbroken := by
    intro hmem
    exact absurd (hw _ hmem) (by decide)
  reads := by
    intro rest i fuel hends hfuel
    obtain ⟨fuel, rfl⟩ := Nat.exists_eq_succ_of_ne_zero (Nat.ne_zero_of_lt hfuel)
    exact readValue_of_readNumber hread hends i fuel

theorem written_int {n : Int} (hn : (Nat.toDigits 10 n.natAbs).length ≤ 4300) :
    Written (toString n).toList (.int n) :=
  written_of_readNumber (isNumeric_toString n) (readNumber_toString hn 0)

theorem written_float {x : Number.Binary64} (hx : read (x.write numberWords) = .ok (.float x)) :
    Written (x.write numberWords).toList (.float x) := by
  cases x with
  | nan => exact written_word ("NaN", .float .nan) (by simp [words])
  | infinite negative =>
    cases negative
    · exact written_word ("Infinity", .float (.infinite false)) (by simp [words])
    · exact written_word ("-Infinity", .float (.infinite true)) (by simp [words])
  | finite negative m e =>
    have hnumeric := isNumeric_finite negative m e
    rw [← String.ofList_toList (s := (Number.Binary64.finite negative m e).write numberWords)] at hx
    obtain ⟨k, hread⟩ := readNumber_of_read hnumeric hx
    exact written_of_readNumber hnumeric hread

/-! ## Blanks -/

/-- Blanks as they stand between the parts of a document. -/
def IsGap (gap : List Char) : Prop := ∀ c ∈ gap, c = ' ' ∨ c = '\n'

theorem IsGap.blank {gap : List Char} (h : IsGap gap) : ∀ c ∈ gap, isBlank c = true := by
  intro c hc
  rcases h c hc with rfl | rfl <;> decide

theorem IsGap.unbroken {gap : List Char} (h : IsGap gap) : '\r' ∉ gap := by
  intro hmem
  rcases h _ hmem with heq | heq <;> exact absurd heq (by decide)

theorem IsGap.ends {gap : List Char} (h : IsGap gap) {c : Char} (hc : inNumber c = false)
    (rest : List Char) : Ends (gap ++ c :: rest) := by
  cases gap with
  | nil => exact ends_cons hc rest
  | cons b gap =>
    have hb : inNumber b = false := by
      rcases h b List.mem_cons_self with rfl | rfl <;> decide
    exact ends_cons hb _

theorem isGap_lineBreak (indent : Option Nat) (level : Nat) :
    IsGap (lineBreak indent level).toList := by
  have hblanks : ∀ n, IsGap ("".pushn ' ' n).toList := by
    intro n
    induction n with
    | zero => exact fun c hc => absurd hc (List.not_mem_nil)
    | succ n ih =>
      have hpush : "".pushn ' ' (n + 1) = ("".pushn ' ' n).push ' ' := rfl
      rw [hpush, String.toList_push]
      intro c hc
      rcases List.mem_append.mp hc with hc | hc
      · exact ih c hc
      · exact Or.inl (List.mem_singleton.mp hc)
  cases indent with
  | none => exact fun c hc => absurd hc (List.not_mem_nil)
  | some n =>
    intro c hc
    rw [lineBreak, String.toList_append] at hc
    rcases List.mem_append.mp hc with hc | hc
    · exact Or.inr (List.mem_singleton.mp hc)
    · exact hblanks _ c hc

/-- What starts a value is not passed over with the blanks before it. -/
theorem Written.skipBlanks {w : List Char} {v : Json} (hw : Written w v) {gap : List Char}
    (hgap : IsGap gap) (rest : List Char) (i : Nat) :
    (⟨gap ++ (w ++ rest), i⟩ : Rest).skipBlanks = ⟨w ++ rest, i + gap.length⟩ := by
  obtain ⟨c, cs, rfl, hc, -⟩ := hw.starts
  exact skipBlanks_gap hgap.blank hc (cs ++ rest) i

theorem exists_intercalate (separator w : List Char) (ws : List (List Char)) :
    ∃ more, separator.intercalate (w :: ws) = w ++ more := by
  cases ws with
  | nil => exact ⟨[], by rw [List.intercalate_singleton, List.append_nil]⟩
  | cons next ws => exact ⟨_, by rw [List.intercalate_cons_cons, List.append_assoc]⟩

/-- Two texts or more start with the first one, a comma and the second one. -/
theorem exists_intercalate_comma (gap w next : List Char) (ws : List (List Char)) :
    ∃ more, (',' :: gap).intercalate (next :: ws) = next ++ more ∧
      (',' :: gap).intercalate (w :: next :: ws) = w ++ ',' :: (gap ++ (next ++ more)) := by
  obtain ⟨more, hmore⟩ := exists_intercalate (',' :: gap) next ws
  refine ⟨more, hmore, ?_⟩
  rw [List.intercalate_cons_cons, hmore]
  simp

theorem not_mem_intercalate {c : Char} {separator : List Char} (hseparator : c ∉ separator)
    {ws : List (List Char)} (hws : ∀ w ∈ ws, c ∉ w) : c ∉ separator.intercalate ws := by
  induction ws with
  | nil => exact List.not_mem_nil
  | cons w ws ih =>
    have hfirst := hws w List.mem_cons_self
    cases ws with
    | nil =>
      rw [List.intercalate_singleton]
      exact hfirst
    | cons next ws =>
      have hothers := ih fun u hu => hws u (List.mem_cons_of_mem _ hu)
      rw [List.intercalate_cons_cons]
      simp [hfirst, hseparator, hothers]

theorem forall_mem_of_forall₂ {α β : Type} {R : α → β → Prop} {P : α → Prop}
    (hP : ∀ a b, R a b → P a) {as : List α} {bs : List β} (h : List.Forall₂ R as bs) :
    ∀ a ∈ as, P a := by
  induction h with
  | nil => exact fun a ha => absurd ha List.not_mem_nil
  | cons hab _ ih => exact List.forall_mem_cons.mpr ⟨hP _ _ hab, ih⟩

/-- The text between two brackets, with blanks after the first one, after each comma and before the
last one. -/
def enclosed (first : Char) (start gap close : List Char) (last : Char) (ws : List (List Char)) :
    List Char :=
  first :: (start ++ ((',' :: gap).intercalate ws ++ (close ++ [last])))

variable {start gap close w : List Char} {v : Json}

theorem length_enclosed (first last : Char) (start gap close : List Char)
    (ws : List (List Char)) :
    (enclosed first start gap close last ws).length =
      start.length + ((',' :: gap).intercalate ws).length + close.length + 2 := by
  simp only [enclosed, List.length_cons, List.length_append, List.length_nil]
  omega

theorem unbroken_enclosed {first last : Char} (hfirst : first ≠ '\r') (hlast : last ≠ '\r')
    (hstart : IsGap start) (hgap : IsGap gap) (hclose : IsGap close) {ws : List (List Char)}
    (hws : ∀ w ∈ ws, '\r' ∉ w) : '\r' ∉ enclosed first start gap close last ws := by
  have hitems : '\r' ∉ (',' :: gap).intercalate ws :=
    not_mem_intercalate (by simpa using hgap.unbroken) hws
  simp [enclosed, hfirst.symm, hlast.symm, hstart.unbroken, hitems, hclose.unbroken]

/-- The first bracket and the blanks after it are passed over. -/
theorem skipBlanks_enclosed (first last : Char) (hstart : IsGap start) (close : List Char)
    {ws : List (List Char)} {c : Char} {cs : List Char}
    (hitems : (',' :: gap).intercalate ws = c :: cs) (hc : isBlank c = false)
    (rest : List Char) (i : Nat) :
    ((⟨enclosed first start gap close last ws ++ rest, i⟩ : Rest).advance 1).skipBlanks =
      ⟨(',' :: gap).intercalate ws ++ (close ++ last :: rest), i + 1 + start.length⟩ := by
  have hinside := skipBlanks_gap hstart.blank hc (cs ++ (close ++ last :: rest)) (i + 1)
  have hshape : (⟨enclosed first start gap close last ws ++ rest, i⟩ : Rest).advance 1 =
      ⟨start ++ c :: (cs ++ (close ++ last :: rest)), i + 1⟩ := by
    rw [enclosed, hitems]
    simp [Rest.advance]
  rw [hshape, hinside, hitems]
  rfl

/-! ## Arrays -/

theorem readItems_last (hw : Written w v) (hclose : IsGap close) (acc : List Json)
    (rest : List Char) (i : Nat) {fuel : Nat} (hfuel : w.length < fuel) :
    readItems (fuel + 1) acc ⟨w ++ (close ++ ']' :: rest), i⟩ =
      .ok ((v :: acc).reverse, ⟨rest, i + w.length + close.length + 1⟩) := by
  have hread := hw.reads (close ++ ']' :: rest) i fuel (hclose.ends (by decide) rest) hfuel
  have hend := skipBlanks_gap hclose.blank (by decide : isBlank ']' = false) rest (i + w.length)
  rw [readItems, hread]
  simp only [bind, Except.bind, hend]
  rfl

theorem readItems_more (hw : Written w v) (hgap : IsGap gap) {next : List Char} {v' : Json}
    (hnext : Written next v') (acc : List Json) (more : List Char) (i : Nat) {fuel : Nat}
    (hfuel : w.length < fuel) :
    readItems (fuel + 1) acc ⟨w ++ ',' :: (gap ++ (next ++ more)), i⟩ =
      readItems fuel (v :: acc) ⟨next ++ more, i + w.length + 1 + gap.length⟩ := by
  have hread := hw.reads (',' :: (gap ++ (next ++ more))) i fuel (ends_cons (by decide) _) hfuel
  have hcomma : (⟨',' :: (gap ++ (next ++ more)), i + w.length⟩ : Rest).skipBlanks =
      ⟨',' :: (gap ++ (next ++ more)), i + w.length⟩ := rfl
  have hblanks : ((⟨',' :: (gap ++ (next ++ more)), i + w.length⟩ : Rest).advance 1).skipBlanks =
      ⟨next ++ more, i + w.length + 1 + gap.length⟩ := hnext.skipBlanks hgap more (i + w.length + 1)
  rw [readItems, hread]
  simp only [bind, Except.bind, hcomma, hblanks]

/-- The items of an array are read up to its end. -/
theorem readItems_written (hgap : IsGap gap) (hclose : IsGap close) {ws : List (List Char)}
    {vs : List Json} (h : List.Forall₂ Written ws vs) (hne : ws ≠ []) (acc : List Json)
    (rest : List Char) (i fuel : Nat)
    (hfuel : ((',' :: gap).intercalate ws).length + close.length + 1 < fuel) :
    readItems fuel acc ⟨(',' :: gap).intercalate ws ++ (close ++ ']' :: rest), i⟩ =
      .ok (acc.reverse ++ vs,
        ⟨rest, i + ((',' :: gap).intercalate ws).length + close.length + 1⟩) := by
  induction h generalizing acc i fuel with
  | nil => exact absurd rfl hne
  | @cons w v ws vs hw hrest ih =>
    obtain ⟨fuel, rfl⟩ := Nat.exists_eq_succ_of_ne_zero (Nat.ne_zero_of_lt hfuel)
    -- what comes after an item depends on whether it is the last one
    cases hrest with
    | nil =>
      rw [List.intercalate_singleton] at hfuel ⊢
      rw [readItems_last hw hclose acc rest i (by omega), List.reverse_cons]
    | @cons next v' ws vs hnext hrest =>
      obtain ⟨more, hmore, hshape⟩ := exists_intercalate_comma gap w next ws
      have htail := ih (List.cons_ne_nil _ _) (v :: acc) (i + w.length + 1 + gap.length) fuel
      rw [hmore] at htail
      rw [hshape] at hfuel ⊢
      simp only [List.length_append, List.length_cons] at hfuel htail ⊢
      have hstep := readItems_more hw hgap hnext acc (more ++ (close ++ ']' :: rest)) i
        (show w.length < fuel by omega)
      simp only [List.append_assoc, List.cons_append] at hstep htail ⊢
      rw [hstep, htail (by omega), List.reverse_cons, List.append_assoc]
      have hplace : i + w.length + 1 + gap.length + (next.length + more.length) + close.length + 1 =
          i + (w.length + (gap.length + (next.length + more.length) + 1)) + close.length + 1 := by
        omega
      rw [hplace]
      rfl

theorem readValue_array {cs : List Char} {i fuel : Nat} {inside after : Rest} {vs : List Json}
    (hinside : ((⟨'[' :: cs, i⟩ : Rest).advance 1).skipBlanks = inside)
    (hhead : inside.chars.head? ≠ some ']') (hitems : readItems fuel [] inside = .ok (vs, after)) :
    readValue (fuel + 1) ⟨'[' :: cs, i⟩ = .ok (.arr vs, after) := by
  rw [readValue.eq_def]
  simp only [hinside, hhead, if_false, hitems]
  rfl

theorem written_empty_array : Written ['[', ']'] (.arr []) where
  starts := ⟨'[', [']'], rfl, by decide, by decide, by decide⟩
  unbroken := by decide
  reads := by
    intro rest i fuel _ hfuel
    obtain ⟨fuel, rfl⟩ := Nat.exists_eq_succ_of_ne_zero (Nat.ne_zero_of_lt hfuel)
    rfl

theorem written_array (hstart : IsGap start) (hgap : IsGap gap) (hclose : IsGap close)
    {ws : List (List Char)} {vs : List Json} (h : List.Forall₂ Written ws vs) (hne : ws ≠ []) :
    Written (enclosed '[' start gap close ']' ws) (.arr vs) where
  starts := ⟨'[', _, rfl, by decide, by decide, by decide⟩
  unbroken := unbroken_enclosed (by decide) (by decide) hstart hgap hclose
    (forall_mem_of_forall₂ (fun _ _ hw => hw.unbroken) h)
  reads := by
    intro rest i fuel _ hfuel
    obtain ⟨fuel, rfl⟩ := Nat.exists_eq_succ_of_ne_zero (Nat.ne_zero_of_lt hfuel)
    rw [length_enclosed] at hfuel
    obtain ⟨c, cs, hfirst, hc, hend⟩ :
        ∃ c cs, (',' :: gap).intercalate ws = c :: cs ∧ isBlank c = false ∧ c ≠ ']' := by
      cases h with
      | nil => exact absurd rfl hne
      | @cons w v ws vs hw _ =>
        obtain ⟨more, hmore⟩ := exists_intercalate (',' :: gap) w ws
        obtain ⟨c, cs, rfl, hc, hend, -⟩ := hw.starts
        exact ⟨c, cs ++ more, by rw [hmore, List.cons_append], hc, hend⟩
    have hskip := skipBlanks_enclosed '[' ']' hstart close hfirst hc rest i
    have hhead : ((',' :: gap).intercalate ws ++ (close ++ ']' :: rest)).head? ≠ some ']' := by
      rw [hfirst]
      simpa using hend
    have hitems := readItems_written hgap hclose h hne [] rest (i + 1 + start.length) fuel
      (by omega)
    have hplace : i + 1 + start.length + ((',' :: gap).intercalate ws).length + close.length + 1 =
        i + (enclosed '[' start gap close ']' ws).length := by
      rw [length_enclosed]
      omega
    rw [hplace] at hitems
    exact readValue_array hskip hhead hitems

/-! ## Objects -/

/-- The text of a field: its name, a colon, and the text of its value. -/
def fieldText (asciiOnly : Bool) (field : String × List Char) : List Char :=
  (writeString asciiOnly field.1).toList ++ ':' :: ' ' :: field.2

/-- The texts of fields with the fields they are written for. -/
abbrev WrittenFields : List (String × List Char) → List (String × Json) → Prop :=
  List.Forall₂ fun written field => written.1 = field.1 ∧ Written written.2 field.2

theorem exists_fieldText (asciiOnly : Bool) (field : String × List Char) :
    ∃ cs, fieldText asciiOnly field = '"' :: cs := by
  rw [fieldText, toList_writeString]
  exact ⟨_, rfl⟩

section Field

variable {asciiOnly : Bool} {name : String} {acc : List (String × Json)} {after rest : List Char}
  {i j fuel : Nat}

/-- The name and the value of a field are read, with the colon and the blank between them. -/
theorem read_field (hw : Written w v) (hends : Ends after) (hfuel : w.length < fuel) :
    (fieldText asciiOnly (name, w) ++ after).head? = some '"' ∧
      ∃ r, readString ⟨fieldText asciiOnly (name, w) ++ after, i⟩ = .ok (name, r) ∧
        r.skipBlanks.chars.head? = some ':' ∧
        readValue fuel (r.skipBlanks.advance 1).skipBlanks =
          .ok (v, ⟨after, i + (fieldText asciiOnly (name, w)).length⟩) := by
  have hshape : fieldText asciiOnly (name, w) ++ after =
      (writeString asciiOnly name).toList ++ ':' :: ' ' :: (w ++ after) := by
    simp [fieldText]
  have hname := readString_writeString asciiOnly name (':' :: ' ' :: (w ++ after)) i
  generalize hlength : (writeString asciiOnly name).toList.length = n at hname
  have hgap : IsGap [' '] := by simp [IsGap]
  have hblank : ((⟨':' :: ' ' :: (w ++ after), i + n⟩ : Rest).advance 1).skipBlanks =
      ⟨w ++ after, i + n + 1 + 1⟩ := hw.skipBlanks hgap after (i + n + 1)
  have hread := hw.reads after (i + n + 1 + 1) fuel hends hfuel
  have hplace : i + n + 1 + 1 + w.length = i + (fieldText asciiOnly (name, w)).length := by
    rw [fieldText, List.length_append, hlength]
    simp only [List.length_cons]
    omega
  have hcolon : (⟨':' :: ' ' :: (w ++ after), i + n⟩ : Rest).skipBlanks =
      ⟨':' :: ' ' :: (w ++ after), i + n⟩ := rfl
  obtain ⟨cs, hcs⟩ := exists_fieldText asciiOnly (name, w)
  refine ⟨by rw [hcs]; rfl, ⟨':' :: ' ' :: (w ++ after), i + n⟩, ?_, ?_, ?_⟩
  · rw [hshape]
    exact hname
  · rw [hcolon]
    rfl
  · rw [hcolon, hblank, hread, hplace]

theorem readFields_last (hw : Written w v) (hclose : IsGap close) (hfuel : w.length < fuel) :
    readFields (fuel + 1) acc ⟨fieldText asciiOnly (name, w) ++ (close ++ '\x7d' :: rest), i⟩ =
      .ok (Table.insert name v acc,
        ⟨rest, i + (fieldText asciiOnly (name, w)).length + close.length + 1⟩) := by
  have hends : Ends (close ++ '\x7d' :: rest) := hclose.ends (by decide) rest
  obtain ⟨hhead, r, hname, hcolon, hread⟩ := read_field hw hends hfuel
  have hend := skipBlanks_gap hclose.blank (by decide : isBlank '\x7d' = false) rest
    (i + (fieldText asciiOnly (name, w)).length)
  rw [readFields, hname]
  simp only [hhead, hcolon, ne_eq, not_true, if_false, bind, Except.bind, hread, hend]
  rfl

theorem readFields_more (hw : Written w v) (hgap : IsGap gap) (hfuel : w.length < fuel)
    (next : String × List Char) (more : List Char) :
    readFields (fuel + 1) acc
        ⟨fieldText asciiOnly (name, w) ++ ',' :: (gap ++ (fieldText asciiOnly next ++ more)), i⟩ =
      readFields fuel (Table.insert name v acc)
        ⟨fieldText asciiOnly next ++ more,
          i + (fieldText asciiOnly (name, w)).length + 1 + gap.length⟩ := by
  obtain ⟨cs, hcs⟩ := exists_fieldText asciiOnly next
  rw [hcs, List.cons_append]
  have hends : Ends (',' :: (gap ++ '"' :: (cs ++ more))) := ends_cons (by decide) _
  obtain ⟨hhead, r, hname, hcolon, hread⟩ := read_field hw hends hfuel
  generalize i + (fieldText asciiOnly (name, w)).length = k at hread ⊢
  have hcomma : (⟨',' :: (gap ++ '"' :: (cs ++ more)), k⟩ : Rest).skipBlanks =
      ⟨',' :: (gap ++ '"' :: (cs ++ more)), k⟩ := rfl
  have hblanks : ((⟨',' :: (gap ++ '"' :: (cs ++ more)), k⟩ : Rest).advance 1).skipBlanks =
      ⟨'"' :: (cs ++ more), k + 1 + gap.length⟩ :=
    skipBlanks_gap hgap.blank (by decide) (cs ++ more) (k + 1)
  rw [readFields, hname]
  simp only [hhead, hcolon, ne_eq, not_true, if_false, bind, Except.bind, hread, hcomma, hblanks]

end Field

/-- The fields of an object are read up to its end. -/
theorem readFields_written (asciiOnly : Bool) (hgap : IsGap gap) (hclose : IsGap close)
    {fs : List (String × List Char)} {fields : List (String × Json)}
    (h : WrittenFields fs fields) (hne : fs ≠ []) (acc : List (String × Json))
    (hnames : (Table.keys (acc ++ fields)).Nodup) (rest : List Char) (i fuel : Nat)
    (hfuel : ((',' :: gap).intercalate (fs.map (fieldText asciiOnly))).length +
      close.length + 1 < fuel) :
    readFields fuel acc
        ⟨(',' :: gap).intercalate (fs.map (fieldText asciiOnly)) ++ (close ++ '\x7d' :: rest), i⟩ =
      .ok (acc ++ fields,
        ⟨rest, i + ((',' :: gap).intercalate (fs.map (fieldText asciiOnly))).length +
          close.length + 1⟩) := by
  induction h generalizing acc i fuel with
  | nil => exact absurd rfl hne
  | @cons f field fs fields hf hrest ih =>
    obtain ⟨name, w⟩ := f
    obtain ⟨name', v⟩ := field
    obtain ⟨heq, hw⟩ := hf
    dsimp only at heq hw
    obtain rfl := heq
    obtain ⟨fuel, rfl⟩ := Nat.exists_eq_succ_of_ne_zero (Nat.ne_zero_of_lt hfuel)
    -- a name that is new goes to the end, so the fields keep their order
    have hnew : Table.insert name v acc = acc ++ [(name, v)] := by
      refine Table.insert_of_not_mem v ?_
      rw [Table.keys, List.map_append, List.map_cons] at hnames
      exact fun hmem => (List.nodup_append.mp hnames).2.2 _ hmem _ List.mem_cons_self rfl
    have hlength : w.length < (fieldText asciiOnly (name, w)).length := by
      simp only [fieldText, List.length_append, List.length_cons]
      omega
    cases hrest with
    | nil =>
      rw [List.map_singleton, List.intercalate_singleton] at hfuel ⊢
      rw [readFields_last hw hclose (by omega), hnew]
    | @cons next field' fs fields hnext hrest =>
      obtain ⟨more, hmore, hshape⟩ := exists_intercalate_comma gap
        (fieldText asciiOnly (name, w)) (fieldText asciiOnly next) (fs.map (fieldText asciiOnly))
      have hnames' : (Table.keys (acc ++ [(name, v)] ++ field' :: fields)).Nodup := by
        rw [List.append_assoc]
        exact hnames
      have htail := ih (List.cons_ne_nil _ _) (acc ++ [(name, v)]) hnames'
        (i + (fieldText asciiOnly (name, w)).length + 1 + gap.length) fuel
      rw [List.map_cons, hmore] at htail
      rw [List.map_cons, List.map_cons, hshape] at hfuel ⊢
      simp only [List.length_append, List.length_cons] at hfuel htail ⊢
      have hless : w.length < fuel := by omega
      have hplace : i + (fieldText asciiOnly (name, w)).length + 1 + gap.length +
          ((fieldText asciiOnly next).length + more.length) + close.length + 1 =
          i + ((fieldText asciiOnly (name, w)).length +
            (gap.length + ((fieldText asciiOnly next).length + more.length) + 1)) +
            close.length + 1 := by
        omega
      simp only [List.append_assoc, List.cons_append] at htail ⊢
      rw [readFields_more hw hgap hless, hnew, htail (by omega), hplace]
      rfl

theorem readValue_object {cs : List Char} {i fuel : Nat} {inside after : Rest}
    {fields : List (String × Json)}
    (hinside : ((⟨'\x7b' :: cs, i⟩ : Rest).advance 1).skipBlanks = inside)
    (hhead : inside.chars.head? ≠ some '\x7d')
    (hfields : readFields fuel [] inside = .ok (fields, after)) :
    readValue (fuel + 1) ⟨'\x7b' :: cs, i⟩ = .ok (.obj fields, after) := by
  rw [readValue.eq_def]
  simp only [hinside, hhead, if_false, hfields]
  rfl

theorem written_empty_object : Written ['\x7b', '\x7d'] (.obj []) where
  starts := ⟨'\x7b', ['\x7d'], rfl, by decide, by decide, by decide⟩
  unbroken := by decide
  reads := by
    intro rest i fuel _ hfuel
    obtain ⟨fuel, rfl⟩ := Nat.exists_eq_succ_of_ne_zero (Nat.ne_zero_of_lt hfuel)
    rfl

theorem unbroken_fieldText (asciiOnly : Bool) (name : String) (hw : Written w v) :
    '\r' ∉ fieldText asciiOnly (name, w) := by
  have hname := (written_string asciiOnly name).unbroken
  simp [fieldText, hname, hw.unbroken]

theorem written_object (asciiOnly : Bool) (hstart : IsGap start) (hgap : IsGap gap)
    (hclose : IsGap close) {fs : List (String × List Char)} {fields : List (String × Json)}
    (h : WrittenFields fs fields) (hne : fs ≠ []) (hnames : (Table.keys fields).Nodup) :
    Written (enclosed '\x7b' start gap close '\x7d' (fs.map (fieldText asciiOnly)))
      (.obj fields) where
  starts := ⟨'\x7b', _, rfl, by decide, by decide, by decide⟩
  unbroken := by
    refine unbroken_enclosed (by decide) (by decide) hstart hgap hclose ?_
    have hfields := forall_mem_of_forall₂ (fun f _ hf => unbroken_fieldText asciiOnly f.1 hf.2) h
    exact List.forall_mem_map.mpr hfields
  reads := by
    intro rest i fuel _ hfuel
    obtain ⟨fuel, rfl⟩ := Nat.exists_eq_succ_of_ne_zero (Nat.ne_zero_of_lt hfuel)
    rw [length_enclosed] at hfuel
    obtain ⟨cs, hfirst⟩ :
        ∃ cs, (',' :: gap).intercalate (fs.map (fieldText asciiOnly)) = '"' :: cs := by
      obtain ⟨f, fs, rfl⟩ := List.exists_cons_of_ne_nil hne
      obtain ⟨more, hmore⟩ :=
        exists_intercalate (',' :: gap) (fieldText asciiOnly f) (fs.map (fieldText asciiOnly))
      obtain ⟨cs, hcs⟩ := exists_fieldText asciiOnly f
      exact ⟨cs ++ more, by rw [List.map_cons, hmore, hcs, List.cons_append]⟩
    have hskip := skipBlanks_enclosed '\x7b' '\x7d' hstart close hfirst (by decide) rest i
    have hhead : ((',' :: gap).intercalate (fs.map (fieldText asciiOnly)) ++
        (close ++ '\x7d' :: rest)).head? ≠ some '\x7d' := by
      rw [hfirst]
      simp
    have hfields := readFields_written asciiOnly hgap hclose h hne [] hnames rest
      (i + 1 + start.length) fuel (by omega)
    have hplace : i + 1 + start.length +
        ((',' :: gap).intercalate (fs.map (fieldText asciiOnly))).length + close.length + 1 =
        i + (enclosed '\x7b' start gap close '\x7d' (fs.map (fieldText asciiOnly))).length := by
      rw [length_enclosed]
      omega
    rw [hplace] at hfields
    exact readValue_object hskip hhead hfields

/-! ## Values -/

theorem enclose_nil (layout : Layout) (level : Nat) (opening closing : String) :
    enclose layout level opening closing [] = opening ++ closing :=
  rfl

theorem exists_enclosed (layout : Layout) (level : Nat) {opening closing : String}
    {first last : Char} (hopening : opening.toList = [first]) (hclosing : closing.toList = [last])
    {items : List String} (hne : items ≠ []) :
    ∃ start gap close, IsGap start ∧ IsGap gap ∧ IsGap close ∧
      (enclose layout level opening closing items).toList =
        enclosed first start gap close last (items.map String.toList) := by
  have hempty : items.isEmpty = false := by simpa using hne
  have hstart := isGap_lineBreak layout.indent (level + 1)
  have hclose := isGap_lineBreak layout.indent level
  have hcomma : ∃ gap, IsGap gap ∧
      (if layout.indent.isSome then "," ++ lineBreak layout.indent (level + 1) else ", ").toList =
        ',' :: gap := by
    split_ifs
    · exact ⟨_, hstart, by rw [String.toList_append]; rfl⟩
    · exact ⟨[' '], by simp [IsGap], rfl⟩
  obtain ⟨gap, hgap, hseparator⟩ := hcomma
  refine ⟨_, gap, _, hstart, hgap, hclose, ?_⟩
  rw [enclose, hempty]
  simp only [Bool.false_eq_true, if_false, String.toList_append, String.toList_intercalate,
    hseparator, hopening, hclosing]
  simp [enclosed]

mutual

/-- A value whose parts read back: whole numbers are not too long, floating point numbers read back
alone, and the names in an object differ. -/
def IsKept : Json → Prop
  | .int n => (Nat.toDigits 10 n.natAbs).length ≤ 4300
  | .float x => read (x.write numberWords) = .ok (.float x)
  | .arr items => AreKept items
  | .obj fields => (Table.keys fields).Nodup ∧ FieldsKept fields
  | _ => True

def AreKept : List Json → Prop
  | [] => True
  | v :: rest => IsKept v ∧ AreKept rest

def FieldsKept : List (String × Json) → Prop
  | [] => True
  | (_, v) :: rest => IsKept v ∧ FieldsKept rest

end

/-- Texts between brackets are those of an array if they are written for its items. -/
theorem written_enclose_array (layout : Layout) (level : Nat) {texts : List String}
    {vs : List Json} (h : List.Forall₂ Written (texts.map String.toList) vs) :
    Written (enclose layout level "[" "]" texts).toList (.arr vs) := by
  have hopening : "[".toList = ['['] := rfl
  have hclosing : "]".toList = [']'] := rfl
  by_cases hne : texts = []
  · obtain rfl := hne
    obtain rfl := List.forall₂_nil_left_iff.mp h
    rw [enclose_nil, String.toList_append, hopening, hclosing]
    exact written_empty_array
  · obtain ⟨start, gap, close, hstart, hgap, hclose, hshape⟩ :=
      exists_enclosed layout level hopening hclosing hne
    rw [hshape]
    exact written_array hstart hgap hclose h (by simpa using hne)

/-- Texts with their names between braces are those of an object if they are written for its
fields. -/
theorem written_enclose_object (layout : Layout) (level : Nat) {texts : List (String × String)}
    {fields : List (String × Json)} (hnames : (Table.keys fields).Nodup)
    (h : WrittenFields (texts.map fun f => (f.1, f.2.toList)) fields) :
    Written (enclose layout level "\x7b" "\x7d" (texts.map fun f =>
      writeString layout.asciiOnly f.1 ++ ": " ++ f.2)).toList (.obj fields) := by
  have hopening : "\x7b".toList = ['\x7b'] := rfl
  have hclosing : "\x7d".toList = ['\x7d'] := rfl
  by_cases hne : texts = []
  · obtain rfl := hne
    obtain rfl := List.forall₂_nil_left_iff.mp h
    rw [List.map_nil, enclose_nil, String.toList_append, hopening, hclosing]
    exact written_empty_object
  · have htexts : (texts.map fun f => writeString layout.asciiOnly f.1 ++ ": " ++ f.2) ≠ [] := by
      simpa using hne
    obtain ⟨start, gap, close, hstart, hgap, hclose, hshape⟩ :=
      exists_enclosed layout level hopening hclosing htexts
    have hfields : (texts.map fun f => writeString layout.asciiOnly f.1 ++ ": " ++ f.2).map
        String.toList =
        (texts.map fun f => (f.1, f.2.toList)).map (fieldText layout.asciiOnly) := by
      rw [List.map_map, List.map_map]
      refine List.map_congr_left ?_
      intro f _
      simp [fieldText]
    rw [hshape, hfields]
    exact written_object layout.asciiOnly hstart hgap hclose h (by simpa using hne) hnames

mutual

/-- A value is read back from what is written for it, at every level of every layout that leaves
the order of fields. -/
theorem written_writeAt {layout : Layout} (hsort : layout.sortKeys = false) :
    ∀ (v : Json) (level : Nat), v.IsKept → Written (writeAt layout level v).toList v
  | .null, _, _ => written_word ("null", .null) (by simp [words])
  | .bool true, _, _ => written_word ("true", .bool true) (by simp [words])
  | .bool false, _, _ => written_word ("false", .bool false) (by simp [words])
  | .int n, _, h => written_int h
  | .float x, _, h => written_float h
  | .str s, _, _ => written_string layout.asciiOnly s
  | .arr items, level, h => by
    rw [writeAt]
    exact written_enclose_array layout level (written_writeItems hsort items (level + 1) h)
  | .obj fields, level, h => by
    rw [writeAt]
    simp only [hsort, Bool.false_eq_true, if_false]
    exact written_enclose_object layout level h.1 (written_writeFields hsort fields (level + 1) h.2)

theorem written_writeItems {layout : Layout} (hsort : layout.sortKeys = false) :
    ∀ (items : List Json) (level : Nat), AreKept items →
      List.Forall₂ Written ((writeItems layout level items).map String.toList) items
  | [], _, _ => .nil
  | v :: items, level, h =>
    .cons (written_writeAt hsort v level h.1) (written_writeItems hsort items level h.2)

theorem written_writeFields {layout : Layout} (hsort : layout.sortKeys = false) :
    ∀ (fields : List (String × Json)) (level : Nat), FieldsKept fields →
      WrittenFields ((writeFields layout level fields).map fun f => (f.1, f.2.toList)) fields
  | [], _, _ => .nil
  | (_, v) :: fields, level, h =>
    .cons ⟨rfl, written_writeAt hsort v level h.1⟩ (written_writeFields hsort fields level h.2)

end

theorem read_of_written {text : String} {v : Json} (h : Written text.toList v) :
    read text = .ok v := by
  obtain ⟨c, cs, hcs, hc, -, hmark⟩ := h.starts
  have hread := h.reads [] 0 (2 * text.toList.length + 2) ends_nil (by omega)
  have hstart : (⟨text.toList, 0⟩ : Rest).skipBlanks = ⟨text.toList, 0⟩ := by
    have hgap : ∀ b ∈ ([] : List Char), isBlank b = true := by simp
    rw [hcs]
    exact skipBlanks_gap hgap hc cs 0
  have hhead : ¬ (text.toList.head? = some (Char.ofNat 0xfeff)) := by
    rw [hcs]
    simpa using hmark
  rw [List.append_nil] at hread
  unfold read
  simp only [hhead, if_false, hstart, hread]
  rfl

theorem written_write {layout : Layout} (hsort : layout.sortKeys = false) {v : Json}
    (h : v.IsKept) : Written (write layout v).toList v :=
  written_writeAt hsort v 0 h

/-- Every value whose parts read back is read back from its text. -/
theorem read_write {layout : Layout} (hsort : layout.sortKeys = false) {v : Json} (h : v.IsKept) :
    read (write layout v) = .ok v :=
  read_of_written (written_write hsort h)

end DesignLens.Json
