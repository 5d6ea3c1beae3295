import DesignLens.Proofs.RankedGenerators
import DesignLens.Proofs.TextPieces

/-!
# Names in their final form

What has been put in lower case stays as it is when it is put in lower case again: the table moves
no character to one that it moves itself, and to none that is treated apart. Nor does it move
anything to a blank, so that trimming finds nothing more to do. Hence the normal form of a name is
final, and so is its canonical name.
-/

namespace DesignLens.Text

/-! ## What the table for lower case leads to -/

/-- A shift moves every code point of its range that its stride reaches. -/
def CaseShift.Moves (s : CaseShift) (n : Nat) : Prop :=
  s.range.first ≤ n ∧ n ≤ s.range.last ∧ (n - s.range.first) % s.stride = 0

theorem image?_eq_none_iff {t : CaseShifts} {c : Char} :
    t.image? c = none ↔ ∀ s ∈ t.shifts.toList, ¬ s.Moves c.toNat := by
  simp [CaseShifts.image?, CaseShift.Moves]

theorem exists_moves_of_image? {t : CaseShifts} {c d : Char} (h : t.image? c = some d) :
    ∃ s ∈ t.shifts.toList, s.Moves c.toNat ∧
      d = Char.ofNat ((c.toNat : Int) + s.shift).toNat := by
  obtain ⟨s, hs, rfl⟩ := Option.map_eq_some_iff.mp h
  have hmoves := Array.find?_some hs
  simp only [Bool.and_eq_true, decide_eq_true_eq, beq_iff_eq] at hmoves
  exact ⟨s, Array.mem_toList_iff.mpr (Array.mem_of_find?_eq_some hs),
    ⟨hmoves.1.1, hmoves.1.2, hmoves.2⟩, rfl⟩

/-- A range of code points, of which every second one is meant if it is sparse. -/
structure Stretch where
  first : Nat
  last : Nat
  sparse : Bool

def Stretch.Has (r : Stretch) (n : Nat) : Prop :=
  r.first ≤ n ∧ n ≤ r.last ∧ (r.sparse = true → n % 2 = r.first % 2)

/-- Where a shift leads to. -/
def CaseShift.destination (s : CaseShift) : Stretch :=
  ⟨((s.range.first : Int) + s.shift).toNat, ((s.range.last : Int) + s.shift).toNat,
    s.stride == 2 || s.range.first == s.range.last⟩

/-- Whether a shift moves nothing of a stretch, by the ends or by every second code point. -/
def CaseShift.misses (s : CaseShift) (r : Stretch) : Bool :=
  r.last.blt s.range.first || s.range.last.blt r.first ||
    (s.stride == 2 && r.sparse && (r.first + s.range.first) % 2 == 1)

theorem CaseShift.not_moves_of_misses {s : CaseShift} {r : Stretch} (h : s.misses r = true)
    {n : Nat} (hn : r.Has n) : ¬ s.Moves n := by
  intro hmoves
  unfold CaseShift.Moves at hmoves
  unfold Stretch.Has at hn
  simp only [CaseShift.misses, Bool.or_eq_true, Bool.and_eq_true, Nat.blt_eq, beq_iff_eq] at h
  rcases h with (h | h) | ⟨⟨hstride, hsparse⟩, hodd⟩
  · omega
  · omega
  · have hparity := hn.2.2 hsparse
    rw [hstride] at hmoves
    omega

theorem CaseShift.destination_has {s : CaseShift} (hfirst : 0 ≤ (s.range.first : Int) + s.shift)
    {n : Nat} (h : s.Moves n) : s.destination.Has ((n : Int) + s.shift).toNat := by
  unfold CaseShift.Moves at h
  unfold Stretch.Has CaseShift.destination
  dsimp only
  refine ⟨by omega, by omega, fun hsparse => ?_⟩
  rw [Bool.or_eq_true, beq_iff_eq, beq_iff_eq] at hsparse
  rcases hsparse with hstride | hsingle
  · rw [hstride] at h
    omega
  · omega

/-- The capital letters that lower case treats apart, and the blanks. -/
def apart : List CaseShift :=
  [(0x130, 0x130), (0x3a3, 0x3a3), (9, 13), (28, 32), (0x85, 0x85), (0xa0, 0xa0),
    (0x1680, 0x1680), (0x2000, 0x200a), (0x2028, 0x2029), (0x202f, 0x202f), (0x205f, 0x205f),
    (0x3000, 0x3000)].map fun r => ⟨⟨r.1, r.2⟩, 1, 0⟩

/-- The letters that those treated apart become, besides ASCII letters. -/
def substitutes : List Stretch :=
  [⟨0x307, 0x307, true⟩, ⟨0x3c2, 0x3c2, true⟩, ⟨0x3c3, 0x3c3, true⟩]

/-- No shift leads to a code point that is moved or treated apart, nor is any substitute one. -/
theorem lowerShifts_final :
    ((lowerShifts.shifts.toList.all fun s => decide (0 ≤ (s.range.first : Int) + s.shift)) &&
      (substitutes ++ lowerShifts.shifts.toList.map CaseShift.destination).all fun r =>
        (apart ++ lowerShifts.shifts.toList).all fun s => s.misses r) = true := by
  unfold lowerShifts CaseShifts.read items
  -- The characters of the lines are written out first, for decoding them is slow.
  repeat rw [List.flatMap_cons, String.toList_ofList]
  decide +kernel

/-! ## Lower case is final -/

/-- Neither the table nor a rule of its own says anything about the code point. -/
def Untouched (n : Nat) : Prop := ∀ s ∈ apart ++ lowerShifts.shifts.toList, ¬ s.Moves n

theorem untouched_of_has {r : Stretch}
    (hr : r ∈ substitutes ++ lowerShifts.shifts.toList.map CaseShift.destination) {n : Nat}
    (hn : r.Has n) : Untouched n := by
  intro s hs
  have hfinal := List.all_eq_true.mp (Bool.and_eq_true_iff.mp lowerShifts_final).2 r hr
  exact CaseShift.not_moves_of_misses (List.all_eq_true.mp hfinal s hs) hn

theorem untouched_image {c d : Char} (h : lowerShifts.image? c = some d) :
    Untouched d.toNat ∨ d.toNat = 0 := by
  obtain ⟨s, hs, hmoves, rfl⟩ := exists_moves_of_image? h
  have hfirst := List.all_eq_true.mp (Bool.and_eq_true_iff.mp lowerShifts_final).1 s hs
  have hhas := CaseShift.destination_has (of_decide_eq_true hfirst) hmoves
  have huntouched := untouched_of_has (List.mem_append_right _ (List.mem_map_of_mem hs)) hhas
  rcases toNat_ofNat_or ((c.toNat : Int) + s.shift).toNat with hd | hd
  · rw [hd]
    exact Or.inl huntouched
  · exact Or.inr hd

theorem exists_apart_of_isBlank {c : Char} (h : isBlank c = true) :
    ∃ s ∈ apart, s.Moves c.toNat := by
  simp [isBlank] at h
  simp [apart, CaseShift.Moves, Nat.mod_one]
  omega

/-- A character that lower case leaves alone wherever it stands. -/
def IsLow (c : Char) : Prop := c.toNat ≠ 0x3a3 ∧ lowerChar c = [c]

theorem ascii_low : ∀ n < 128, (Char.ofNat n).toLower.toNat < 128 ∧
    (Char.ofNat n).toLower.toLower = (Char.ofNat n).toLower ∧
    isBlank (Char.ofNat n).toLower = isBlank (Char.ofNat n) := by
  decide

theorem isLow_of_ascii {c : Char} (hascii : c.toNat < 128) (hlower : c.toLower = c) : IsLow c := by
  refine ⟨by omega, ?_⟩
  rw [lowerChar, if_pos hascii, hlower]

theorem toLower_of_not_isUpper : ∀ n < 128, (Char.ofNat n).isUpper = false →
    (Char.ofNat n).toLower = Char.ofNat n := by
  decide

theorem isLow_of_untouched {c : Char} (h : Untouched c.toNat) (hupper : c.isUpper = false) :
    IsLow c := by
  have happart : ∀ s ∈ apart, ¬ s.Moves c.toNat := fun s hs => h s (List.mem_append_left _ hs)
  by_cases hascii : c.toNat < 128
  · refine isLow_of_ascii hascii ?_
    simpa using toLower_of_not_isUpper c.toNat hascii (by simpa using hupper)
  · have hdotted : c.toNat ≠ 0x130 := by
      intro heq
      refine happart ⟨⟨0x130, 0x130⟩, 1, 0⟩ (by simp [apart]) ?_
      simp [CaseShift.Moves, heq]
    have hsigma : c.toNat ≠ 0x3a3 := by
      intro heq
      refine happart ⟨⟨0x3a3, 0x3a3⟩, 1, 0⟩ (by simp [apart]) ?_
      simp [CaseShift.Moves, heq]
    have himage : lowerShifts.image? c = none :=
      image?_eq_none_iff.mpr fun s hs => h s (List.mem_append_right _ hs)
    refine ⟨hsigma, ?_⟩
    rw [lowerChar, if_neg hascii, if_neg hdotted, himage, Option.getD_none]

theorem not_isBlank_of_untouched {c : Char} (h : Untouched c.toNat) : isBlank c = false := by
  by_contra hblank
  obtain ⟨s, hs, hmoves⟩ := exists_apart_of_isBlank (by simpa using hblank)
  exact h s (List.mem_append_left _ hs) hmoves

/-- What lower case may make of a character: something final, and no blank unless the character is
one. -/
structure LowOf (c d : Char) : Prop where
  low : IsLow d
  blank : isBlank d = true → isBlank c = true

theorem LowOf.of_not_blank {d : Char} (hlow : IsLow d) (hblank : isBlank d = false) (c : Char) :
    LowOf c d :=
  ⟨hlow, fun hd => absurd hd (by simp [hblank])⟩

theorem LowOf.of_untouched {d : Char} (h : Untouched d.toNat) (hupper : d.isUpper = false)
    (c : Char) : LowOf c d :=
  .of_not_blank (isLow_of_untouched h hupper) (not_isBlank_of_untouched h) c

theorem LowOf.of_substitute {n : Nat} (h : ⟨n, n, true⟩ ∈ substitutes) (c : Char) :
    LowOf c (Char.ofNat n) := by
  have huntouched : Untouched n :=
    untouched_of_has (List.mem_append_left _ h) ⟨Nat.le_refl n, Nat.le_refl n, fun _ => rfl⟩
  have hchar : (Char.ofNat n).toNat = n ∧ (Char.ofNat n).isUpper = false := by
    simp only [substitutes, List.mem_cons, Stretch.mk.injEq, List.not_mem_nil, and_true, and_self,
      or_false] at h
    rcases h with rfl | rfl | rfl <;> decide
  exact .of_untouched (hchar.1.symm ▸ huntouched) hchar.2 c

theorem lowOf_of_mem_lowerChar {c d : Char} (hsigma : c.toNat ≠ 0x3a3) (h : d ∈ lowerChar c) :
    LowOf c d := by
  unfold lowerChar at h
  split_ifs at h with hascii hdotted
  · rw [List.mem_singleton.mp h]
    obtain ⟨hsmall, hagain, hblank⟩ := ascii_low c.toNat hascii
    rw [Char.ofNat_toNat] at hsmall hagain hblank
    exact ⟨isLow_of_ascii hsmall hagain, fun hd => hblank ▸ hd⟩
  · rcases List.mem_pair.mp h with rfl | rfl
    · exact .of_not_blank (isLow_of_ascii (by decide) (by decide)) (by decide) c
    · exact .of_substitute (by simp [substitutes]) c
  · rw [List.mem_singleton.mp h]
    cases himage : lowerShifts.image? c with
    | none =>
      refine ⟨⟨hsigma, ?_⟩, id⟩
      rw [Option.getD_none, lowerChar, if_neg hascii, if_neg hdotted, himage, Option.getD_none]
    | some e =>
      rcases untouched_image himage with huntouched | hzero
      · exact .of_untouched huntouched (not_isUpper_image himage) c
      · obtain rfl : e = '\x00' := by rw [← Char.ofNat_toNat e, hzero]
        rw [Option.getD_some]
        exact .of_not_blank (isLow_of_ascii (by decide) (by decide)) (by decide) c

theorem lowOf_of_mem_lowerInContext {before after : List Char} {c d : Char}
    (h : d ∈ lowerInContext before c after) : LowOf c d := by
  unfold lowerInContext at h
  split_ifs at h with hsigma hfinal
  · rw [List.mem_singleton.mp h]
    exact .of_substitute (by simp [substitutes]) c
  · rw [List.mem_singleton.mp h]
    exact .of_substitute (by simp [substitutes]) c
  · exact lowOf_of_mem_lowerChar hsigma h

theorem isLow_of_mem_lowerChars {before cs : List Char} {d : Char} (h : d ∈ lowerChars before cs) :
    IsLow d := by
  induction cs generalizing before with
  | nil => exact absurd h List.not_mem_nil
  | cons c rest ih =>
    rw [lowerChars, List.mem_append] at h
    rcases h with h | h
    · exact (lowOf_of_mem_lowerInContext h).low
    · exact ih h

theorem lowerChars_eq_self {before cs : List Char} (h : ∀ c ∈ cs, IsLow c) :
    lowerChars before cs = cs := by
  induction cs generalizing before with
  | nil => rfl
  | cons c rest ih =>
    obtain ⟨hsigma, hlower⟩ := h c List.mem_cons_self
    rw [lowerChars, lowerInContext, if_neg hsigma, hlower,
      ih fun d hd => h d (List.mem_cons_of_mem c hd)]
    rfl

/-- What is in lower case stays as it is. -/
theorem lower_lower (text : String) : lower (lower text) = lower text := by
  unfold lower
  rw [String.toList_ofList, lowerChars_eq_self fun _ => isLow_of_mem_lowerChars]

/-! ## Trimming a text in lower case -/

theorem lowerInContext_ne_nil (before : List Char) (c : Char) (after : List Char) :
    lowerInContext before c after ≠ [] := by
  unfold lowerInContext lowerChar
  split_ifs <;> exact List.cons_ne_nil _ _

theorem exists_head?_of_lowerChars {before cs : List Char} {d : Char}
    (h : (lowerChars before cs).head? = some d) :
    ∃ c, cs.head? = some c ∧ (isBlank d = true → isBlank c = true) := by
  cases cs with
  | nil => exact nomatch h
  | cons c rest =>
    rw [lowerChars, List.head?_append_of_ne_nil _ (lowerInContext_ne_nil before c rest)] at h
    exact ⟨c, rfl, (lowOf_of_mem_lowerInContext (List.mem_of_mem_head? h)).blank⟩

theorem exists_getLast?_of_lowerChars {before cs : List Char} {d : Char}
    (h : (lowerChars before cs).getLast? = some d) :
    ∃ c, cs.getLast? = some c ∧ (isBlank d = true → isBlank c = true) := by
  induction cs generalizing before with
  | nil => exact nomatch h
  | cons c rest ih =>
    rw [lowerChars, List.getLast?_append] at h
    cases rest with
    | nil =>
      have hlast : (lowerInContext before c []).getLast? = some d := h
      exact ⟨c, rfl, (lowOf_of_mem_lowerInContext (List.mem_of_mem_getLast? hlast)).blank⟩
    | cons e rest =>
      cases hlast : (lowerChars (c :: before) (e :: rest)).getLast? with
      | none =>
        rw [List.getLast?_eq_none_iff, lowerChars, List.append_eq_nil_iff] at hlast
        exact absurd hlast.1 (lowerInContext_ne_nil _ _ _)
      | some d' =>
        rw [hlast, Option.some_or] at h
        obtain ⟨c', hc', hblank⟩ := ih (hlast.trans h)
        exact ⟨c', by rw [List.getLast?_cons_cons, hc'], hblank⟩

theorem trim_lower_trim (text : String) : trim (lower (trim text)) = lower (trim text) := by
  refine String.toList_inj.mp ?_
  rw [trim, String.toList_ofList]
  refine trimChars_eq_self ?_ ?_
  · intro d hd
    rw [lower, String.toList_ofList] at hd
    obtain ⟨c, hc, hblank⟩ := exists_head?_of_lowerChars hd
    by_contra hnot
    exact absurd (hblank (by simpa using hnot)) (by simp [isBlank_head?_trim hc])
  · intro d hd
    rw [lower, String.toList_ofList] at hd
    obtain ⟨c, hc, hblank⟩ := exists_getLast?_of_lowerChars hd
    by_contra hnot
    exact absurd (hblank (by simpa using hnot)) (by simp [isBlank_getLast?_trim hc])

end DesignLens.Text

namespace DesignLens.Naming

open Text

/-! ## Normal forms and canonical names are final -/

theorem normal_normal (name : String) : normal (normal name) = normal name := by
  unfold normal
  rw [trim_lower_trim, lower_lower]

theorem canonical_of_spelt {names : List String} {css spellings known : List (List Char)}
    (hnames : Scaffold.Spelt names css) (hspellings : Scaffold.Spelt (Table.keys aliases) spellings)
    (hknown : Scaffold.Spelt (Table.values aliases) known)
    (h : (css.all fun cs => canonicalChars spellings known cs == cs) = true) :
    ∀ name ∈ names, canonical name = name := by
  intro name hname
  have hcheck := hnames.forall_toList h name hname
  refine String.toList_inj.mp ?_
  rw [toList_canonical hspellings.map_toList hknown.map_toList]
  exact beq_iff_eq.mp hcheck

theorem aliases_final : ∀ name ∈ Table.values aliases, canonical name = name :=
  canonical_of_spelt (by repeat constructor) (by repeat constructor) (by repeat constructor)
    (by decide +kernel)

theorem normal_of_spelt {names : List String} {css : List (List Char)}
    (hnames : Scaffold.Spelt names css) (h : (css.all fun cs => normalChars cs == cs) = true) :
    ∀ name ∈ names, normal name = name := by
  intro name hname
  have hcheck := hnames.forall_toList h name hname
  refine String.toList_inj.mp ?_
  rw [toList_normal]
  exact beq_iff_eq.mp hcheck

theorem aliases_normal : ∀ name ∈ Table.values aliases, normal name = name :=
  normal_of_spelt (by repeat constructor) (by decide +kernel)

theorem canonical_of_unknown {name : String} (h : Table.find? (normal name) aliases = none) :
    canonical name = normal name := by
  rw [canonical, resolve, h, Option.getD_none]

theorem canonical_of_known {name known : String}
    (h : Table.find? (normal name) aliases = some known) : canonical name = known := by
  rw [canonical, resolve, h, Option.getD_some]

/-- A canonical name is its own canonical name. -/
theorem canonical_canonical (name : String) : canonical (canonical name) = canonical name := by
  cases hfind : Table.find? (normal name) aliases with
  | some known =>
    rw [canonical_of_known hfind]
    exact aliases_final known (List.mem_map_of_mem (Table.mem_of_find? hfind))
  | none =>
    have hagain : Table.find? (normal (normal name)) aliases = none := by rwa [normal_normal]
    rw [canonical_of_unknown hfind, canonical_of_unknown hagain, normal_normal]

/-- A canonical name is in normal form. -/
theorem normal_canonical (name : String) : normal (canonical name) = canonical name := by
  cases hfind : Table.find? (normal name) aliases with
  | some known =>
    rw [canonical_of_known hfind]
    exact aliases_normal known (List.mem_map_of_mem (Table.mem_of_find? hfind))
  | none => rw [canonical_of_unknown hfind, normal_normal]

end DesignLens.Naming
