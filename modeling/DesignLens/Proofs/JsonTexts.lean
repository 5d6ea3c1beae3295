import DesignLens.Json.Reader
import DesignLens.Json.Writer
import Mathlib.Data.List.TakeWhile

/-!
# Reading the texts of JSON strings back

What is written for a string is read as that string wherever it stands. A character that is escaped
takes one code unit, or two if it lies beyond the first plane, and the two are put together again.
-/

namespace DesignLens.Json

/-! ## Places in a text -/

theorem advance_append (front rest : List Char) (i : Nat) :
    (⟨front ++ rest, i⟩ : Rest).advance front.length = ⟨rest, i + front.length⟩ := by
  rw [Rest.advance, List.drop_left]

theorem skipBlanks_gap {gap : List Char} (hgap : ∀ c ∈ gap, isBlank c = true) {c : Char}
    (hc : isBlank c = false) (rest : List Char) (i : Nat) :
    (⟨gap ++ c :: rest, i⟩ : Rest).skipBlanks = ⟨c :: rest, i + gap.length⟩ := by
  have htaken : (gap ++ c :: rest).takeWhile isBlank = gap := by
    rw [List.takeWhile_append_of_pos hgap, List.takeWhile_cons_of_neg (by simp [hc]),
      List.append_nil]
  rw [Rest.skipBlanks]
  simp only [htaken]
  exact advance_append gap (c :: rest) i

/-! ## Characters of a text -/

theorem hexDigit?_digitChar : ∀ d < 16, Text.hexDigit? (Nat.digitChar d) = some d := by
  decide

theorem readHex_concat (ds : List Char) (d : Nat) (hd : d < 16) :
    Text.readHex (ds ++ [Nat.digitChar d]) = 16 * Text.readHex ds + d := by
  rw [Text.readHex, List.foldl_append]
  simp [Text.readHex, hexDigit?_digitChar d hd]

theorem readHex_toDigits (n : Nat) : Text.readHex (Nat.toDigits 16 n) = n := by
  induction n using Nat.strongRecOn with
  | ind n ih =>
    rw [Nat.toDigits_eq_if (by decide)]
    split_ifs with hsmall
    · simp [Text.readHex, hexDigit?_digitChar n hsmall]
    · have hless : n / 16 < n := Nat.div_lt_self (by omega) (by decide)
      rw [readHex_concat _ _ (Nat.mod_lt n (by decide)), ih _ hless]
      omega

theorem isSome_hexDigit?_of_mem_toDigits (n : Nat) {c : Char} (hc : c ∈ Nat.toDigits 16 n) :
    (Text.hexDigit? c).isSome = true := by
  induction n using Nat.strongRecOn with
  | ind n ih =>
    rw [Nat.toDigits_eq_if (by decide)] at hc
    split_ifs at hc with hsmall
    · rw [List.mem_singleton.mp hc, hexDigit?_digitChar n hsmall]
      rfl
    · have hless : n / 16 < n := Nat.div_lt_self (by omega) (by decide)
      rcases List.mem_append.mp hc with hc | hc
      · exact ih _ hless hc
      · rw [List.mem_singleton.mp hc, hexDigit?_digitChar _ (Nat.mod_lt n (by decide))]
        rfl

theorem isSome_hexDigit?_of_mem_hexPadded {width u : Nat} {c : Char}
    (hc : c ∈ Text.hexPadded width u) : (Text.hexDigit? c).isSome = true := by
  rcases List.mem_append.mp hc with hc | hc
  · rw [(List.mem_replicate.mp hc).2]
    decide
  · exact isSome_hexDigit?_of_mem_toDigits u hc

theorem length_hexPadded {width u : Nat} (h : (Nat.toDigits 16 u).length ≤ width) :
    (Text.hexPadded width u).length = width := by
  rw [Text.hexPadded, List.length_append, List.length_replicate]
  omega

theorem length_hexPadded_unit {u : Nat} (hu : u < 65536) : (Text.hexPadded 4 u).length = 4 :=
  length_hexPadded ((Nat.length_toDigits_le_iff (by decide) (by decide)).mpr hu)

theorem readHex_hexPadded (width u : Nat) : Text.readHex (Text.hexPadded width u) = u := by
  have hzeros : ∀ k, (List.replicate k '0').foldl
      (fun n c => 16 * n + (Text.hexDigit? c).getD 0) 0 = 0 := by
    intro k
    induction k with
    | zero => rfl
    | succ k ih => rw [List.replicate_succ, List.foldl_cons]; exact ih
  rw [Text.readHex, Text.hexPadded, List.foldl_append, hzeros]
  exact readHex_toDigits u

/-- Four digits are read as the unit they were written for. -/
theorem unit?_hexPadded {u : Nat} (hu : u < 65536) (more : List Char) :
    unit? (Text.hexPadded 4 u ++ more) = some u := by
  have hlength := length_hexPadded_unit hu
  have htake : (Text.hexPadded 4 u ++ more).take 4 = Text.hexPadded 4 u :=
    List.take_left' hlength
  have hall : (Text.hexPadded 4 u).all (fun c => (Text.hexDigit? c).isSome) = true := by
    rw [List.all_eq_true]
    exact fun c hc => isSome_hexDigit?_of_mem_hexPadded hc
  rw [unit?]
  simp only [htake, hlength, hall, readHex_hexPadded]
  rfl

theorem readChars_one (start fuel : Nat) (acc : List Char) {u : Nat} (hu : u < 65536)
    (hhigh : isHighHalf u = false) (more : List Char) (i : Nat) :
    readChars start (fuel + 1) acc ⟨'\\' :: 'u' :: (Text.hexPadded 4 u ++ more), i⟩ =
      readChars start fuel (charOfUnit u :: acc) ⟨more, i + 6⟩ := by
  have hlength := length_hexPadded_unit hu
  have hafter : (⟨'\\' :: 'u' :: (Text.hexPadded 4 u ++ more), i⟩ : Rest).advance 6 =
      ⟨more, i + 6⟩ := by
    have hfront := advance_append ('\\' :: 'u' :: Text.hexPadded 4 u) more i
    simpa [hlength] using hfront
  rw [readChars.eq_def]
  simp only [unit?_hexPadded hu, hafter, hhigh, Bool.false_and]
  split
  · split <;> rfl
  · rfl

theorem readChars_pair (start fuel : Nat) (acc : List Char) {high low : Nat}
    (hhigh : isHighHalf high = true) (hlow : isLowHalf low = true) (more : List Char) (i : Nat) :
    readChars start (fuel + 1) acc
        ⟨'\\' :: 'u' :: (Text.hexPadded 4 high ++
          '\\' :: 'u' :: (Text.hexPadded 4 low ++ more)), i⟩ =
      readChars start fuel
        (Char.ofNat (0x10000 + (high - 0xd800) * 0x400 + (low - 0xdc00)) :: acc)
        ⟨more, i + 12⟩ := by
  have hhigh' : high < 65536 := by simp [isHighHalf] at hhigh; omega
  have hlow' : low < 65536 := by simp [isLowHalf] at hlow; omega
  have hfirst := length_hexPadded_unit hhigh'
  have hsecond := length_hexPadded_unit hlow'
  have hafter : (⟨'\\' :: 'u' :: (Text.hexPadded 4 high ++
      '\\' :: 'u' :: (Text.hexPadded 4 low ++ more)), i⟩ : Rest).advance 6 =
      ⟨'\\' :: 'u' :: (Text.hexPadded 4 low ++ more), i + 6⟩ := by
    have hfront := advance_append ('\\' :: 'u' :: Text.hexPadded 4 high)
      ('\\' :: 'u' :: (Text.hexPadded 4 low ++ more)) i
    simpa [hfirst] using hfront
  have hend : (⟨'\\' :: 'u' :: (Text.hexPadded 4 low ++ more), i + 6⟩ : Rest).advance 6 =
      ⟨more, i + 12⟩ := by
    have hfront := advance_append ('\\' :: 'u' :: Text.hexPadded 4 low) more (i + 6)
    simpa [hsecond] using hfront
  rw [readChars.eq_def]
  simp only [unit?_hexPadded hhigh', unit?_hexPadded hlow', hafter, hend, hhigh, hlow,
    Bool.and_self, if_true]

theorem toNat_not_half (c : Char) : ¬ (0xd800 ≤ c.toNat ∧ c.toNat < 0xe000) := by
  have hvalid : c.toNat.isValidChar := c.valid
  unfold Nat.isValidChar at hvalid
  omega

theorem charOfUnit_toNat (c : Char) : charOfUnit c.toNat = c := by
  have hhalf := toNat_not_half c
  have htest : (0xd800 ≤ c.toNat && c.toNat < 0xe000) = false := by
    rw [Bool.and_eq_false_iff, decide_eq_false_iff_not, decide_eq_false_iff_not]
    omega
  rw [charOfUnit]
  simp only [htest]
  exact Char.ofNat_toNat c

/-- A character is one unit, or two halves that can be put together again. -/
theorem unitsOf_cases (c : Char) :
    c.toNat < 0x10000 ∧ unitsOf c = [c.toNat] ∨
      ∃ high low, unitsOf c = [high, low] ∧ isHighHalf high = true ∧ isLowHalf low = true ∧
        Char.ofNat (0x10000 + (high - 0xd800) * 0x400 + (low - 0xdc00)) = c := by
  have hvalid : c.toNat < 0x110000 := by
    have hchar : c.toNat.isValidChar := c.valid
    unfold Nat.isValidChar at hchar
    omega
  by_cases hc : c.toNat < 0x10000
  · exact Or.inl ⟨hc, by simp [unitsOf, hc]⟩
  · refine Or.inr ⟨_, _, by simp only [unitsOf, hc, if_false]; rfl, ?_, ?_, ?_⟩
    · simp only [isHighHalf, Bool.and_eq_true, decide_eq_true_eq]
      omega
    · simp only [isLowHalf, Bool.and_eq_true, decide_eq_true_eq]
      omega
    · have hvalue : 0x10000 + (0xd800 + (c.toNat - 0x10000) / 0x400 - 0xd800) * 0x400 +
          (0xdc00 + (c.toNat - 0x10000) % 0x400 - 0xdc00) = c.toNat := by omega
      rw [hvalue]
      exact Char.ofNat_toNat c

theorem readChars_units (start fuel : Nat) (acc : List Char) (c : Char) (more : List Char)
    (i : Nat) :
    readChars start (fuel + 1) acc
        ⟨((unitsOf c).flatMap fun u => '\\' :: 'u' :: Text.hexPadded 4 u) ++ more, i⟩ =
      readChars start fuel (c :: acc)
        ⟨more, i + ((unitsOf c).flatMap fun u => '\\' :: 'u' :: Text.hexPadded 4 u).length⟩ := by
  rcases unitsOf_cases c with ⟨hc, hunits⟩ | ⟨high, low, hunits, hhigh, hlow, hchar⟩
  · have hhalf := toNat_not_half c
    have hhigh : isHighHalf c.toNat = false := by
      rw [isHighHalf, Bool.and_eq_false_iff, decide_eq_false_iff_not, decide_eq_false_iff_not]
      omega
    have hread := readChars_one start fuel acc hc hhigh more i
    rw [charOfUnit_toNat] at hread
    simpa [hunits, length_hexPadded_unit hc] using hread
  · -- both halves are escapes, and the reader takes them together
    have hread := readChars_pair start fuel acc hhigh hlow more i
    simp only [isHighHalf, isLowHalf, Bool.and_eq_true, decide_eq_true_eq] at hhigh hlow
    have hfirst : (Text.hexPadded 4 high).length = 4 := length_hexPadded_unit (by omega)
    have hsecond : (Text.hexPadded 4 low).length = 4 := length_hexPadded_unit (by omega)
    rw [hchar] at hread
    simpa [hunits, hfirst, hsecond] using hread

theorem readChars_plain (start fuel : Nat) (acc : List Char) {c : Char} (hquote : c ≠ '"')
    (hslash : c ≠ '\\') (hc : ¬ c.toNat < 32) (more : List Char) (i : Nat) :
    readChars start (fuel + 1) acc ⟨c :: more, i⟩ =
      readChars start fuel (c :: acc) ⟨more, i + 1⟩ := by
  rw [readChars.eq_def]
  simp only
  split
  · rename_i h
    cases h
  · rename_i h
    exact absurd (List.cons.inj h).1 hquote
  · rename_i h
    exact absurd (List.cons.inj h).1 hslash
  · rename_i h
    exact absurd (List.cons.inj h).1 hslash
  · rename_i h
    exact absurd (List.cons.inj h).1 hslash
  · rename_i h
    obtain ⟨rfl, rfl⟩ := List.cons.inj h
    rw [if_neg hc]
    rfl

/-- What is written for a character is read as that character. -/
theorem readChars_escape (start fuel : Nat) (acc : List Char) (asciiOnly : Bool) (c : Char)
    (more : List Char) (i : Nat) :
    readChars start (fuel + 1) acc ⟨escape asciiOnly c ++ more, i⟩ =
      readChars start fuel (c :: acc) ⟨more, i + (escape asciiOnly c).length⟩ := by
  unfold escape
  split_ifs with hquote hslash hnewline hreturn htab hfeed hback hcode
  · rw [hquote, readChars.eq_def]
    rfl
  · rw [hslash, readChars.eq_def]
    rfl
  · rw [hnewline, readChars.eq_def]
    rfl
  · rw [hreturn, readChars.eq_def]
    rfl
  · rw [htab, readChars.eq_def]
    rfl
  · rw [hfeed, readChars.eq_def]
    rfl
  · rw [hback, readChars.eq_def]
    rfl
  · exact readChars_units start fuel acc c more i
  · rw [Bool.or_eq_true, not_or, decide_eq_true_eq] at hcode
    exact readChars_plain start fuel acc hquote hslash hcode.1 more i

/-- The characters of a text are read up to its closing quote. -/
theorem readChars_written (start : Nat) (asciiOnly : Bool) (cs rest acc : List Char)
    (i fuel : Nat) (hfuel : cs.length < fuel) :
    readChars start fuel acc ⟨cs.flatMap (escape asciiOnly) ++ '"' :: rest, i⟩ =
      .ok (String.ofList (acc.reverse ++ cs),
        ⟨rest, i + (cs.flatMap (escape asciiOnly)).length + 1⟩) := by
  induction cs generalizing acc i fuel with
  | nil =>
    obtain ⟨fuel, rfl⟩ := Nat.exists_eq_succ_of_ne_zero (Nat.ne_zero_of_lt hfuel)
    rw [readChars.eq_def, List.append_nil]
    rfl
  | cons c cs ih =>
    obtain ⟨fuel, rfl⟩ := Nat.exists_eq_succ_of_ne_zero (Nat.ne_zero_of_lt hfuel)
    have hless : cs.length < fuel := Nat.lt_of_succ_lt_succ hfuel
    rw [List.flatMap_cons, List.append_assoc, readChars_escape, ih _ _ _ hless, List.reverse_cons,
      List.append_assoc, List.length_append]
    simp only [List.singleton_append, Nat.add_assoc]

theorem length_escape_pos (asciiOnly : Bool) (c : Char) : 0 < (escape asciiOnly c).length := by
  have hunits : 0 < ((unitsOf c).flatMap fun u => '\\' :: 'u' :: Text.hexPadded 4 u).length := by
    rcases unitsOf_cases c with ⟨-, hunits⟩ | ⟨high, low, hunits, -⟩ <;> simp [hunits]
  unfold escape
  split_ifs
  iterate 7 exact Nat.succ_pos _
  · exact hunits
  · exact Nat.succ_pos _

theorem length_le_flatMap_escape (asciiOnly : Bool) (cs : List Char) :
    cs.length ≤ (cs.flatMap (escape asciiOnly)).length := by
  induction cs with
  | nil => exact Nat.le_refl _
  | cons c cs ih =>
    have hpos := length_escape_pos asciiOnly c
    rw [List.flatMap_cons, List.length_append, List.length_cons]
    omega

theorem toList_writeString (asciiOnly : Bool) (s : String) :
    (writeString asciiOnly s).toList = '"' :: (s.toList.flatMap (escape asciiOnly) ++ ['"']) := by
  rw [writeString, String.toList_ofList]
  rfl

theorem readString_writeString (asciiOnly : Bool) (s : String) (rest : List Char) (i : Nat) :
    readString ⟨(writeString asciiOnly s).toList ++ rest, i⟩ =
      .ok (s, ⟨rest, i + (writeString asciiOnly s).toList.length⟩) := by
  have hshape : (writeString asciiOnly s).toList ++ rest =
      '"' :: (s.toList.flatMap (escape asciiOnly) ++ '"' :: rest) := by
    rw [toList_writeString]
    simp
  have hshort := length_le_flatMap_escape asciiOnly s.toList
  have hread := readChars_written i asciiOnly s.toList rest [] (i + 1)
    (((writeString asciiOnly s).toList ++ rest).length + 1) (by
      rw [hshape]
      simp only [List.length_cons, List.length_append]
      omega)
  rw [List.reverse_nil, List.nil_append, String.ofList_toList] at hread
  rw [readString, hshape]
  rw [hshape] at hread
  have hplace : i + 1 + (s.toList.flatMap (escape asciiOnly)).length + 1 =
      i + (writeString asciiOnly s).toList.length := by
    rw [toList_writeString]
    simp only [List.length_cons, List.length_append, List.length_nil]
    omega
  rw [hplace] at hread
  exact hread

end DesignLens.Json
