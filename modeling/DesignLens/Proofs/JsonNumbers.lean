import DesignLens.Proofs.Attempts
import DesignLens.Proofs.JsonTexts
import DesignLens.Proofs.PackedValues

/-!
# Reading the texts of JSON numbers back

A number is read up to the first character that cannot go on it, so it is read alike alone and
before such a character. A whole number reads back as itself; a floating point number does wherever
its decimal form alone does.
-/

namespace DesignLens.Json

open Number

/-! ## The end of a number -/

/-- Whether a character can go on a number. -/
def inNumber (c : Char) : Bool :=
  c.isDigit || c == '.' || c == 'e' || c == 'E' || c == '+' || c == '-'

/-- A number that stands before these characters ends there. -/
def Ends (rest : List Char) : Prop := ∀ c ∈ rest.head?, inNumber c = false

theorem ends_nil : Ends [] := by simp [Ends]

theorem ends_cons {c : Char} (h : inNumber c = false) (rest : List Char) : Ends (c :: rest) := by
  simpa [Ends] using h

variable {rest : List Char}

theorem takeDigits_append (h : Ends rest) (cs : List Char) :
    takeDigits (cs ++ rest) = takeDigits cs := by
  induction cs with
  | nil =>
    cases rest with
    | nil => rfl
    | cons c rest =>
      have hc : inNumber c = false := h c rfl
      simp only [inNumber, Bool.or_eq_false_iff] at hc
      exact List.takeWhile_cons_of_neg (by simp [hc])
  | cons c cs ih =>
    unfold takeDigits at ih ⊢
    rw [List.cons_append, List.takeWhile_cons, List.takeWhile_cons, ih]

theorem wholeDigits_append (h : Ends rest) {cs : List Char} (hcs : cs ≠ []) :
    wholeDigits (cs ++ rest) = wholeDigits cs := by
  obtain ⟨c, cs, rfl⟩ := List.exists_cons_of_ne_nil hcs
  by_cases hc : c = '0'
  · rw [hc]
    rfl
  · have htake := takeDigits_append h (c :: cs)
    have hwhole : ∀ ds, wholeDigits (c :: ds) = takeDigits (c :: ds) := by
      intro ds
      unfold wholeDigits
      split
      · rename_i heq
        exact absurd (List.cons.inj heq).1 hc
      · rfl
    rw [List.cons_append, hwhole, hwhole, ← List.cons_append, htake]

theorem fractionDigits_append (h : Ends rest) (cs : List Char) :
    fractionDigits (cs ++ rest) = fractionDigits cs := by
  have hother : ∀ {c : Char}, c ≠ '.' → ∀ ds, fractionDigits (c :: ds) = [] := by
    intro c hc ds
    unfold fractionDigits
    split
    · rename_i heq
      exact absurd (List.cons.inj heq).1 hc
    · rfl
  cases cs with
  | nil =>
    cases rest with
    | nil => rfl
    | cons c rest =>
      have hc : inNumber c = false := h c rfl
      have hpoint : c ≠ '.' := by
        rintro rfl
        exact absurd hc (by decide)
      exact hother hpoint rest
  | cons c cs =>
    by_cases hc : c = '.'
    · rw [hc]
      exact takeDigits_append h cs
    · rw [List.cons_append, hother hc, hother hc]

theorem exponentSign_other {c : Char} (hminus : c ≠ '-') (hplus : c ≠ '+') (cs : List Char) :
    exponentSign (c :: cs) = (1, c :: cs, 1) := by
  unfold exponentSign
  split
  · rename_i heq
    exact absurd (List.cons.inj heq).1 hminus
  · rename_i heq
    exact absurd (List.cons.inj heq).1 hplus
  · rfl

theorem exponentSign_append (h : Ends rest) (cs : List Char) :
    exponentSign (cs ++ rest) =
      ((exponentSign cs).1, (exponentSign cs).2.1 ++ rest, (exponentSign cs).2.2) := by
  cases cs with
  | nil =>
    cases rest with
    | nil => rfl
    | cons c rest =>
      have hc : inNumber c = false := h c rfl
      have hminus : c ≠ '-' := by
        rintro rfl
        exact absurd hc (by decide)
      have hplus : c ≠ '+' := by
        rintro rfl
        exact absurd hc (by decide)
      exact exponentSign_other hminus hplus rest
  | cons c cs =>
    by_cases hminus : c = '-'
    · rw [hminus]
      rfl
    · by_cases hplus : c = '+'
      · rw [hplus]
        rfl
      · rw [List.cons_append, exponentSign_other hminus hplus, exponentSign_other hminus hplus]
        rfl

theorem exponent?_append (h : Ends rest) (cs : List Char) :
    exponent? (cs ++ rest) = exponent? cs := by
  cases cs with
  | nil =>
    cases rest with
    | nil => rfl
    | cons c rest =>
      have hc : inNumber c = false := h c rfl
      have hmark : ¬ (c = 'e' ∨ c = 'E') := by
        rintro (rfl | rfl) <;> exact absurd hc (by decide)
      exact if_neg hmark
  | cons e cs =>
    simp only [List.cons_append, exponent?, exponentSign_append h, takeDigits_append h]

/-! ## The parts of a number -/

theorem length_takeDigits_le (cs : List Char) : (takeDigits cs).length ≤ cs.length :=
  (List.takeWhile_sublist _).length_le

theorem length_wholeDigits_le (cs : List Char) : (wholeDigits cs).length ≤ cs.length := by
  unfold wholeDigits
  split
  · exact Nat.succ_le_succ (Nat.zero_le _)
  · exact length_takeDigits_le cs

theorem length_fractionDigits_le (cs : List Char) (h : fractionDigits cs ≠ []) :
    (fractionDigits cs).length + 1 ≤ cs.length := by
  unfold fractionDigits at h ⊢
  split
  · exact Nat.succ_le_succ (length_takeDigits_le _)
  · simp_all

theorem length_exponentSign (cs : List Char) :
    (exponentSign cs).2.2 + (exponentSign cs).2.1.length = cs.length + 1 := by
  unfold exponentSign
  split
  · simp only [List.length_cons]
    omega
  · simp only [List.length_cons]
    omega
  · exact Nat.add_comm _ _

theorem length_exponent?_le (cs : List Char) : (exponent? cs).elim 0 Prod.snd ≤ cs.length := by
  cases cs with
  | nil => exact Nat.le_refl _
  | cons e cs =>
    have hsign := length_exponentSign cs
    simp only [exponent?]
    generalize exponentSign cs = parts at hsign ⊢
    obtain ⟨sign, digits, width⟩ := parts
    have hdigits := length_takeDigits_le digits
    dsimp only at hsign ⊢
    split_ifs
    · exact Nat.zero_le _
    · simp only [Option.elim_some, List.length_cons]
      omega
    · exact Nat.zero_le _

/-- What comes after the digits before and after the point. -/
def afterFraction (body : List Char) : List Char :=
  let afterWhole := body.drop (wholeDigits body).length
  if (fractionDigits afterWhole).isEmpty then afterWhole
  else afterWhole.drop ((fractionDigits afterWhole).length + 1)

theorem numeralOf_eq (negative : Bool) (body : List Char) :
    numeralOf negative body =
      ⟨negative, wholeDigits body, fractionDigits (body.drop (wholeDigits body).length),
        exponent? (afterFraction body)⟩ :=
  rfl

theorem numeralOf_append (h : Ends rest) (negative : Bool) {body : List Char} (hbody : body ≠ []) :
    numeralOf negative (body ++ rest) = numeralOf negative body := by
  have hwhole := wholeDigits_append h hbody
  have hlength := length_wholeDigits_le body
  have hafter : (body ++ rest).drop (wholeDigits body).length =
      body.drop (wholeDigits body).length ++ rest := List.drop_append_of_le_length hlength
  have hfraction := fractionDigits_append h (body.drop (wholeDigits body).length)
  have hrest : afterFraction (body ++ rest) = afterFraction body ++ rest := by
    unfold afterFraction
    simp only [hwhole, hafter, hfraction]
    split_ifs with hempty
    · rfl
    · have hnonempty : fractionDigits (body.drop (wholeDigits body).length) ≠ [] := by
        simpa using hempty
      exact List.drop_append_of_le_length (length_fractionDigits_le _ hnonempty)
  simp only [numeralOf_eq, hwhole, hafter, hfraction, hrest, exponent?_append h]

theorem length_numeralOf_le (negative : Bool) (body : List Char) :
    (numeralOf negative body).length ≤ (if negative then 1 else 0) + body.length := by
  have hwhole := length_wholeDigits_le body
  have hexponent := length_exponent?_le (afterFraction body)
  have hafter : (afterFraction body).length + (wholeDigits body).length +
      (if (fractionDigits (body.drop (wholeDigits body).length)).isEmpty then 0
        else (fractionDigits (body.drop (wholeDigits body).length)).length + 1) = body.length := by
    unfold afterFraction
    simp only
    split_ifs with hempty
    · rw [List.length_drop]
      omega
    · have hnonempty : fractionDigits (body.drop (wholeDigits body).length) ≠ [] := by
        simpa using hempty
      have hfraction := length_fractionDigits_le _ hnonempty
      rw [List.length_drop] at hfraction
      rw [List.length_drop, List.length_drop]
      omega
  rw [numeralOf_eq]
  simp only [Numeral.length]
  omega

theorem numeralAt_other {c : Char} (hc : c ≠ '-') (cs : List Char) :
    numeralAt (c :: cs) = numeralOf false (c :: cs) := by
  unfold numeralAt
  split
  · rename_i heq
    exact absurd (List.cons.inj heq).1 hc
  · rfl

theorem numeralAt_append (h : Ends rest) {w : List Char} (hw : (numeralAt w).whole ≠ []) :
    numeralAt (w ++ rest) = numeralAt w := by
  cases w with
  | nil => exact absurd rfl hw
  | cons c cs =>
    by_cases hc : c = '-'
    · obtain rfl := hc
      have hcs : cs ≠ [] := by
        rintro rfl
        exact hw rfl
      exact numeralOf_append h true hcs
    · rw [List.cons_append, numeralAt_other hc, numeralAt_other hc]
      exact numeralOf_append h false (List.cons_ne_nil c cs)

theorem length_numeralAt_le (w : List Char) : (numeralAt w).length ≤ w.length := by
  cases w with
  | nil => exact Nat.le_refl _
  | cons c cs =>
    by_cases hc : c = '-'
    · obtain rfl := hc
      have hlength := length_numeralOf_le true cs
      rw [List.length_cons, Nat.add_comm]
      exact hlength
    · have hlength := length_numeralOf_le false (c :: cs)
      rw [numeralAt_other hc]
      simpa using hlength

/-- The value of a number, if it has digits and not too many of them. -/
def Numeral.value? (n : Numeral) : Option Json :=
  if n.whole.isEmpty then none
  else if n.fraction.isEmpty && n.exponent.isNone then
    if 4300 < n.whole.length then none
    else
      let size : Int := natOfDigits (digitValues n.whole)
      some (.int (if n.negative then -size else size))
  else
    let parts : DecimalParts :=
      ⟨digitValues n.whole, digitValues n.fraction, n.exponent.elim 0 Prod.fst⟩
    some (.float (parts.value n.negative))

theorem readNumber_eq_ok {r after : Rest} {v : Json} :
    readNumber r = .ok (v, after) ↔
      (numeralAt r.chars).value? = some v ∧ r.advance (numeralAt r.chars).length = after := by
  unfold readNumber Numeral.value?
  simp only
  split_ifs <;> simp [Rest.fail]

theorem whole_ne_nil_of_value? {n : Numeral} {v : Json} (h : n.value? = some v) :
    n.whole ≠ [] := by
  intro hwhole
  rw [Numeral.value?, hwhole] at h
  cases h

/-- A number that takes a whole text is read alike before what ends it. -/
theorem readNumber_append (h : Ends rest) {w : List Char} {i k : Nat} {v : Json}
    (hread : readNumber ⟨w, i⟩ = .ok (v, ⟨[], k⟩)) (j : Nat) :
    readNumber ⟨w ++ rest, j⟩ = .ok (v, ⟨rest, j + w.length⟩) := by
  obtain ⟨hvalue, hadvance⟩ := readNumber_eq_ok.mp hread
  have hsame := numeralAt_append h (whole_ne_nil_of_value? hvalue)
  -- the number takes all of the text, so it ends where the rest starts
  have hall : (numeralAt w).length = w.length := by
    have hle := length_numeralAt_le w
    have hge : w.length ≤ (numeralAt w).length :=
      List.drop_eq_nil_iff.mp (congrArg Rest.chars hadvance)
    omega
  refine readNumber_eq_ok.mpr ⟨?_, ?_⟩
  · rw [hsame]
    exact hvalue
  · rw [hsame, hall]
    exact advance_append w rest j

/-! ## Whole numbers -/

theorem exists_toDigits (n : Nat) : ∃ d ds, Nat.toDigits 10 n = d :: ds :=
  List.exists_cons_of_ne_nil (List.ne_nil_of_length_pos Nat.length_toDigits_pos)

theorem isDigit_of_mem {n : Nat} {d : Char} (hd : d ∈ Nat.toDigits 10 n) : d.isDigit = true :=
  Nat.isDigit_of_mem_toDigits (by decide) (by decide) hd

theorem head_toDigits_ne {n : Nat} (hn : 0 < n) : (Nat.toDigits 10 n).head? ≠ some '0' := by
  induction n using Nat.strongRecOn with
  | ind n ih =>
    rw [Nat.toDigits_eq_if (by decide)]
    split_ifs with hsmall
    · have hdigits : ∀ d < 10, 0 < d → Nat.digitChar d ≠ '0' := by decide
      simpa using hdigits n hsmall hn
    · have hless : n / 10 < n := Nat.div_lt_self hn (by decide)
      have hpos : 0 < n / 10 := by omega
      have hhead := ih _ hless hpos
      obtain ⟨d, ds, hds⟩ := exists_toDigits (n / 10)
      rw [hds] at hhead ⊢
      exact hhead

theorem takeDigits_toDigits (n : Nat) : takeDigits (Nat.toDigits 10 n) = Nat.toDigits 10 n := by
  exact List.takeWhile_eq_self_iff.mpr fun _ => isDigit_of_mem

theorem wholeDigits_toDigits (n : Nat) : wholeDigits (Nat.toDigits 10 n) = Nat.toDigits 10 n := by
  cases n with
  | zero => rfl
  | succ n =>
    have hhead := head_toDigits_ne (Nat.succ_pos n)
    unfold wholeDigits
    split
    · rename_i heq
      rw [heq] at hhead
      exact absurd rfl hhead
    · exact takeDigits_toDigits (n + 1)

theorem natOfDigits_toDigits (n : Nat) : natOfDigits (digitValues (Nat.toDigits 10 n)) = n := by
  rw [natOfDigits, digitValues, List.foldl_map]
  exact foldl_toDigits n

theorem numeralOf_toDigits (negative : Bool) (n : Nat) :
    numeralOf negative (Nat.toDigits 10 n) = ⟨negative, Nat.toDigits 10 n, [], none⟩ := by
  have hwhole := wholeDigits_toDigits n
  have hafter : afterFraction (Nat.toDigits 10 n) = [] := by
    unfold afterFraction
    rw [hwhole, List.drop_length]
    rfl
  rw [numeralOf_eq, hwhole, hafter, List.drop_length]
  rfl

theorem toList_toString (n : Int) :
    (toString n).toList =
      if n < 0 then '-' :: Nat.toDigits 10 n.natAbs else Nat.toDigits 10 n.natAbs := by
  cases n with
  | ofNat n =>
    have htext : toString (Int.ofNat n) = toString n := rfl
    have hsign : ¬ Int.ofNat n < 0 := by simp
    rw [htext, Nat.toString_eq_ofList_toDigits, String.toList_ofList, if_neg hsign]
    rfl
  | negSucc n =>
    have htext : toString (Int.negSucc n) = "-" ++ toString (n + 1) := rfl
    have hdigits : (toString (n + 1)).toList = Nat.toDigits 10 (n + 1) := by
      rw [Nat.toString_eq_ofList_toDigits, String.toList_ofList]
    rw [htext, String.toList_append, hdigits, if_pos (Int.negSucc_lt_zero n)]
    rfl

theorem numeralAt_toString (n : Int) :
    numeralAt (toString n).toList = ⟨decide (n < 0), Nat.toDigits 10 n.natAbs, [], none⟩ := by
  rw [toList_toString]
  by_cases hn : n < 0
  · rw [if_pos hn, decide_eq_true hn]
    exact numeralOf_toDigits true n.natAbs
  · have hbody := numeralOf_toDigits false n.natAbs
    obtain ⟨d, ds, hds⟩ := exists_toDigits n.natAbs
    have hd : d ≠ '-' := by
      rintro rfl
      have hmem : '-' ∈ Nat.toDigits 10 n.natAbs := by
        rw [hds]
        exact List.mem_cons_self
      have hdigit : Char.isDigit '-' = true := isDigit_of_mem hmem
      exact absurd hdigit (by decide)
    rw [if_neg hn, decide_eq_false hn]
    rw [hds] at hbody ⊢
    rw [numeralAt_other hd, hbody]

/-- A whole number reads back as itself unless it is too long to be read. -/
theorem readNumber_toString {n : Int} (hn : (Nat.toDigits 10 n.natAbs).length ≤ 4300) (i : Nat) :
    readNumber ⟨(toString n).toList, i⟩ =
      .ok (.int n, ⟨[], i + (toString n).toList.length⟩) := by
  have hnumeral := numeralAt_toString n
  have hvalue : (numeralAt (toString n).toList).value? = some (.int n) := by
    have hempty : (Nat.toDigits 10 n.natAbs).isEmpty = false := by
      obtain ⟨d, ds, hds⟩ := exists_toDigits n.natAbs
      rw [hds]
      rfl
    have hint : (if n < 0 then -(n.natAbs : Int) else n.natAbs) = n := by
      split_ifs <;> omega
    rw [hnumeral, Numeral.value?]
    simp only [hempty, List.isEmpty_nil, Option.isNone_none, Bool.and_self, Bool.false_eq_true,
      if_false, if_true, Nat.not_lt.mpr hn, natOfDigits_toDigits, decide_eq_true_eq, hint]
  have hlength : (numeralAt (toString n).toList).length = (toString n).toList.length := by
    rw [hnumeral, toList_toString]
    by_cases hsign : n < 0
    · simp [Numeral.length, hsign, Nat.add_comm]
    · simp [Numeral.length, hsign]
  refine readNumber_eq_ok.mpr ⟨hvalue, ?_⟩
  rw [hlength, Rest.advance, List.drop_length]

/-! ## Floating point numbers -/

/-- A text of characters that occur in numbers. -/
def IsNumeric (w : List Char) : Prop := ∀ c ∈ w, inNumber c = true

theorem IsNumeric.append {w u : List Char} (hw : IsNumeric w) (hu : IsNumeric u) :
    IsNumeric (w ++ u) := by
  intro c hc
  rcases List.mem_append.mp hc with hc | hc
  · exact hw c hc
  · exact hu c hc

theorem IsNumeric.cons {c : Char} (hc : inNumber c = true) {w : List Char} (hw : IsNumeric w) :
    IsNumeric (c :: w) :=
  List.forall_mem_cons.mpr ⟨hc, hw⟩

theorem inNumber_of_isDigit {c : Char} (hc : c.isDigit = true) : inNumber c = true := by
  simp [inNumber, hc]

theorem isNumeric_zeros (n : Nat) : IsNumeric (List.replicate n '0') := by
  intro c hc
  rw [(List.mem_replicate.mp hc).2]
  decide

theorem isNumeric_toDigits (n : Nat) : IsNumeric (Nat.toDigits 10 n) := fun _ hc =>
  inNumber_of_isDigit (isDigit_of_mem hc)

theorem isNumeric_toString (n : Int) : IsNumeric (toString n).toList := by
  rw [toList_toString]
  split_ifs
  · exact IsNumeric.cons (by decide) (isNumeric_toDigits _)
  · exact isNumeric_toDigits _

/-- The digits of a decimal are digits. -/
def HasDigits (d : Decimal) : Prop := ∀ k ∈ d.digits, k < 10

theorem lt_ten_of_mem_digitsOf {n k : Nat} (hk : k ∈ digitsOf n) : k < 10 := by
  obtain ⟨c, hc, rfl⟩ := List.mem_map.mp hk
  have hdigit := isDigit_of_mem hc
  obtain ⟨-, hlast⟩ := Char.isDigit_iff_toNat.mp hdigit
  have hnine : '9'.toNat = 57 := rfl
  omega

theorem hasDigits_ofNat (n : Nat) (exponent : Int) : HasDigits (Decimal.ofNat n exponent) := by
  intro k hk
  have hmem : k ∈ digitsOf n := by
    have hreverse := List.mem_reverse.mp hk
    exact List.mem_reverse.mp ((List.dropWhile_sublist _).subset hreverse)
  exact lt_ten_of_mem_digitsOf hmem

theorem hasDigits_shortestFrom (m : Nat) (e : Int) (fuel : Nat) (k : Int) :
    HasDigits (shortestFrom m e fuel k) := by
  induction fuel generalizing k with
  | zero => exact hasDigits_ofNat _ _
  | succ fuel ih =>
    rw [shortestFrom]
    simp only
    split_ifs
    iterate 4 exact hasDigits_ofNat _ _
    exact ih _

theorem inNumber_digitChar : ∀ k < 10, inNumber (digitChar k) = true := by decide

theorem HasDigits.isNumeric {d : Decimal} (hd : HasDigits d) :
    IsNumeric (d.digits.map digitChar) := by
  intro c hc
  obtain ⟨k, hk, rfl⟩ := List.mem_map.mp hc
  exact inNumber_digitChar k (hd k hk)

theorem isNumeric_front (ds : List Char) :
    IsNumeric ds → IsNumeric (match ds with
      | [] => ['0']
      | [c] => [c]
      | c :: cs => c :: '.' :: cs) := by
  intro hds
  have hpoint : inNumber '.' = true := by decide
  split
  · exact isNumeric_zeros 1
  · exact hds
  · obtain ⟨hfirst, hothers⟩ := List.forall_mem_cons.mp hds
    exact IsNumeric.cons hfirst (IsNumeric.cons hpoint hothers)

theorem HasDigits.isNumeric_write {d : Decimal} (hd : HasDigits d) :
    IsNumeric d.write.toList := by
  have hdigits := hd.isNumeric
  have hzero : IsNumeric ['0', '.'] := List.all_eq_true.mp rfl
  have hpoint : IsNumeric ['.'] := List.all_eq_true.mp rfl
  have hwhole : IsNumeric ['.', '0'] := List.all_eq_true.mp rfl
  unfold Decimal.write
  generalize d.digits.map digitChar = ds at hdigits ⊢
  simp only
  by_cases hplain : -4 < d.point ∧ d.point ≤ 16
  · rw [if_pos hplain]
    split_ifs
    · simp only [String.toList_append, String.toList_ofList]
      exact hzero.append ((isNumeric_zeros _).append hdigits)
    · simp only [String.toList_append, String.toList_ofList]
      exact (hdigits.append (isNumeric_zeros _)).append hwhole
    · simp only [String.toList_append, String.toList_ofList]
      have hfront : IsNumeric (ds.take d.point.toNat) := fun c hc =>
        hdigits c (List.mem_of_mem_take hc)
      have hback : IsNumeric (ds.drop d.point.toNat) := fun c hc =>
        hdigits c (List.mem_of_mem_drop hc)
      exact (hfront.append hpoint).append hback
  · have hsize : IsNumeric (toString (d.point - 1).natAbs).toList := by
      rw [Nat.toString_eq_ofList_toDigits, String.toList_ofList]
      exact isNumeric_toDigits _
    have hsign : inNumber (if d.point - 1 < 0 then '-' else '+') = true := by
      split_ifs <;> decide
    have hmark : inNumber 'e' = true := by decide
    rw [if_neg hplain, String.toList_ofList]
    refine (isNumeric_front ds hdigits).append (IsNumeric.cons hmark (IsNumeric.cons hsign ?_))
    split_ifs
    · exact IsNumeric.cons rfl hsize
    · exact hsize

theorem isNumeric_finite (negative : Bool) (m : Nat) (e : Int) :
    IsNumeric ((Binary64.finite negative m e).write numberWords).toList := by
  have hzero : IsNumeric "0.0".toList := List.all_eq_true.mp rfl
  have hsign : IsNumeric (if negative then "-" else "").toList := by
    cases negative <;> exact List.all_eq_true.mp rfl
  have hsize : IsNumeric (if m = 0 then "0.0" else (shortest m e).write).toList := by
    split_ifs
    · exact hzero
    · exact (hasDigits_shortestFrom m e _ _).isNumeric_write
  rw [Binary64.write, String.toList_append]
  exact hsign.append hsize

/-! ## Numbers among values -/

theorem isBlank_of_inNumber {c : Char} (hc : inNumber c = true) : isBlank c = false := by
  rw [Bool.eq_false_iff]
  intro hblank
  simp only [isBlank, Bool.or_eq_true, beq_iff_eq] at hblank
  rcases hblank with ((rfl | rfl) | rfl) | rfl <;> exact absurd hc (by decide)

theorem IsNumeric.skipBlanks {w : List Char} (hw : IsNumeric w) (i : Nat) :
    (⟨w, i⟩ : Rest).skipBlanks = ⟨w, i⟩ := by
  have hnone : w.takeWhile isBlank = [] := by
    cases w with
    | nil => rfl
    | cons c cs =>
      have hc := isBlank_of_inNumber (hw c List.mem_cons_self)
      exact List.takeWhile_cons_of_neg (by simp [hc])
  rw [Rest.skipBlanks]
  simp only [hnone]
  rfl

/-- What starts with no quote, bracket or brace and is no word is read as a number. -/
theorem readValue_of_other {c : Char} {cs : List Char} (hquote : c ≠ '"') (hbrace : c ≠ '\x7b')
    (hbracket : c ≠ '[')
    (hwords : (words.find? fun word => word.1.toList.isPrefixOf (c :: cs)) = none) (fuel i : Nat) :
    readValue (fuel + 1) ⟨c :: cs, i⟩ = readNumber ⟨c :: cs, i⟩ := by
  rw [readValue.eq_def]
  simp only
  split
  · rename_i heq
    exact absurd (List.cons.inj heq).1 hquote
  · rename_i heq
    exact absurd (List.cons.inj heq).1 hbrace
  · rename_i heq
    exact absurd (List.cons.inj heq).1 hbracket
  · rw [hwords]

theorem ne_of_isDigit {c d : Char} (hd : d.isDigit = true) (hc : c.isDigit = false) : c ≠ d := by
  rintro rfl
  exact absurd hd (by simp [hc])

/-- A number with digits starts with one, or with one after a sign. -/
theorem exists_digit_of_whole {w : List Char} (h : (numeralAt w).whole ≠ []) :
    ∃ d cs, d.isDigit = true ∧ (w = d :: cs ∨ w = '-' :: d :: cs) := by
  have hbody : ∀ body, wholeDigits body ≠ [] → ∃ d cs, d.isDigit = true ∧ body = d :: cs := by
    intro body hwhole
    cases body with
    | nil => exact absurd rfl hwhole
    | cons d cs =>
      refine ⟨d, cs, ?_, rfl⟩
      by_contra hd
      have hzero : d ≠ '0' := by
        rintro rfl
        exact hd (by decide)
      refine hwhole ?_
      unfold wholeDigits
      split
      · rename_i heq
        exact absurd (List.cons.inj heq).1 hzero
      · exact List.takeWhile_cons_of_neg hd
  cases w with
  | nil => exact absurd rfl h
  | cons c cs =>
    by_cases hc : c = '-'
    · obtain rfl := hc
      obtain ⟨d, ds, hd, rfl⟩ := hbody cs h
      exact ⟨d, ds, hd, Or.inr rfl⟩
    · rw [numeralAt_other hc] at h
      obtain ⟨d, ds, hd, heq⟩ := hbody (c :: cs) h
      exact ⟨d, ds, hd, Or.inl heq⟩

/-- No word starts like a number: its first letter, after a sign or not, is no digit. -/
theorem find?_words_of_digit {d : Char} (hd : d.isDigit = true) {w : List Char}
    (hw : w.find? (· != '-') = some d) :
    (words.find? fun word => word.1.toList.isPrefixOf w) = none := by
  have hletters : ∀ word ∈ words,
      ((word.1.toList.find? (· != '-')).any fun c => !c.isDigit) = true := by decide
  rw [List.find?_eq_none]
  intro word hword hstart
  have hletter := hletters word hword
  rw [Option.any_eq_true] at hletter
  obtain ⟨c, hfirst, hc⟩ := hletter
  have hfound := (List.isPrefixOf_iff_prefix.mp hstart).find?_eq_some hfirst
  rw [hw] at hfound
  obtain rfl := Option.some.inj hfound
  simp [hd] at hc

theorem readValue_of_readNumber {w : List Char} {i k : Nat} {v : Json}
    (hread : readNumber ⟨w, i⟩ = .ok (v, ⟨[], k⟩)) (h : Ends rest) (j fuel : Nat) :
    readValue (fuel + 1) ⟨w ++ rest, j⟩ = .ok (v, ⟨rest, j + w.length⟩) := by
  have hnumber := readNumber_append h hread j
  obtain ⟨d, cs, hd, hw⟩ :=
    exists_digit_of_whole (whole_ne_nil_of_value? (readNumber_eq_ok.mp hread).1)
  have hsign : d ≠ '-' := (ne_of_isDigit hd (by decide)).symm
  have hwords : (words.find? fun word => word.1.toList.isPrefixOf (w ++ rest)) = none := by
    refine find?_words_of_digit hd ?_
    rcases hw with rfl | rfl <;> simp [hsign]
  rcases hw with rfl | rfl
  · rw [List.cons_append] at hnumber hwords ⊢
    rw [readValue_of_other (ne_of_isDigit hd (by decide)).symm (ne_of_isDigit hd (by decide)).symm
      (ne_of_isDigit hd (by decide)).symm hwords, hnumber]
  · rw [List.cons_append] at hnumber hwords ⊢
    rw [readValue_of_other (by decide) (by decide) (by decide) hwords, hnumber]

/-- A text of such characters is read as a number, for every word has other letters. -/
theorem IsNumeric.readValue {w : List Char} (hw : IsNumeric w) (fuel i : Nat) :
    readValue (fuel + 1) ⟨w, i⟩ = readNumber ⟨w, i⟩ := by
  have hwords : (words.find? fun word => word.1.toList.isPrefixOf w) = none := by
    have hletters : ∀ word ∈ words, word.1.toList.all inNumber = false := by decide
    rw [List.find?_eq_none]
    intro word hword hstart
    have hnumeric : word.1.toList.all inNumber = true := by
      rw [List.all_eq_true]
      exact fun c hc => hw c ((List.isPrefixOf_iff_prefix.mp hstart).subset hc)
    exact absurd hnumeric (by simp [hletters word hword])
  cases w with
  | nil =>
    rw [readValue.eq_def]
    simp only [hwords]
  | cons c cs =>
    have hc := hw c List.mem_cons_self
    have hother : ∀ {c' : Char}, inNumber c' = false → c ≠ c' := by
      rintro c' hc' rfl
      exact absurd hc (by simp [hc'])
    exact readValue_of_other (hother (by decide)) (hother (by decide)) (hother (by decide))
      hwords fuel i

/-- A numeric text that reads as a value alone is a number that takes the whole text. -/
theorem readNumber_of_read {w : List Char} (hw : IsNumeric w) {v : Json}
    (h : read (String.ofList w) = .ok v) : ∃ k, readNumber ⟨w, 0⟩ = .ok (v, ⟨[], k⟩) := by
  unfold read at h
  rw [String.toList_ofList] at h
  simp only at h
  split_ifs at h with hmark
  · cases h
  · obtain ⟨⟨v', r⟩, hread, hend⟩ := bind_eq_ok.mp h
    rw [hw.skipBlanks, hw.readValue] at hread
    have hrest : r = (⟨w, 0⟩ : Rest).advance (numeralAt w).length :=
      (readNumber_eq_ok.mp hread).2.symm
    -- there are no blanks to pass over after the number, so nothing is left after it
    have hnumeric : IsNumeric r.chars := by
      rw [hrest]
      exact fun c hc => hw c (List.mem_of_mem_drop hc)
    rw [show r = ⟨r.chars, r.position⟩ from rfl] at hend
    rw [hnumeric.skipBlanks] at hend
    split_ifs at hend with hempty
    · obtain rfl := Except.ok.inj hend
      exact ⟨r.position, by rw [hread, ← List.isEmpty_iff.mp hempty]⟩
    · cases hend

end DesignLens.Json
