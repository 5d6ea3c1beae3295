import DesignLens.Proofs.IntroductionDiffs

/-!
# Differences of equal texts

A difference is empty exactly if the two texts are the same. That different texts have a difference
follows from what differences say. That equal texts have none is a fact about the search for the
longest block: blocks grow only out of lines that are not frequent, and such a block may be found in
many places. But in a list that is compared with itself a block away from the diagonal is never
longer than one on it that was met before, so the search stays on the diagonal, and from there the
block is extended over all lines, frequent ones included.
-/

namespace DesignLens.Diff

variable {a : List String} {i j : Nat}

/-! ## The search in a list compared with itself -/

/-- The number of lines right before a line, without a gap, that are not frequent. -/
def stretch (a : List String) : Nat → Nat
  | 0 => 0
  | i + 1 => if (a[i]?.map (isFrequent a)).getD true then 0 else stretch a i + 1

/-- The whole of a list on both sides. -/
def whole (a : List String) : Window := ⟨0, a.length, 0, a.length⟩

/-- The places in its own list where a line may start a block. -/
def ownPlaces (a : List String) (line : String) : List Nat :=
  placesOf a.zipIdx (isFrequent a line) line

theorem places_whole {line : String} (hline : a[i]? = some line) :
    (((Texts.ofLines a a).places[i]?).getD []).filter
      (fun j => (whole a).blo ≤ j && j < (whole a).bhi) = ownPlaces a line := by
  have hplaces : ((Texts.ofLines a a).places[i]?).getD [] = ownPlaces a line := by
    simp [Texts.ofLines, hline, ownPlaces]
  rw [hplaces, List.filter_eq_self]
  intro j hj
  have hsame : a[i]? = a[j]? := getElem?_of_mem_places (hplaces ▸ hj)
  have hlt : j < a.length := by
    by_contra hge
    rw [hline, List.getElem?_eq_none (by omega)] at hsame
    cases hsame
  simp [whole, hlt]

theorem ownPlaces_of_frequent {line : String} (h : isFrequent a line = true) :
    ownPlaces a line = [] := by
  rw [ownPlaces, placesOf, if_pos h]

theorem mem_ownPlaces {line : String} (h : isFrequent a line = false) :
    j ∈ ownPlaces a line ↔ a[j]? = some line := by
  rw [ownPlaces, placesOf, if_neg (by simp [h])]
  simp only [List.mem_map, List.mem_filter, beq_iff_eq]
  constructor
  · rintro ⟨entry, ⟨hmem, rfl⟩, rfl⟩
    exact List.mem_zipIdx_iff_getElem?.mp hmem
  · intro hline
    exact ⟨(line, j), ⟨List.mem_zipIdx_iff_getElem?.mpr hline, rfl⟩, rfl⟩

theorem ownPlaces_pairwise (a : List String) (line : String) :
    (ownPlaces a line).Pairwise (· < ·) := by
  rw [ownPlaces, placesOf]
  split_ifs
  · exact List.Pairwise.nil
  · have hindices : (a.zipIdx.map Prod.snd).Pairwise (· < ·) := by
      rw [List.zipIdx_map_snd]
      exact List.pairwise_lt_range'
    exact hindices.sublist (List.filter_sublist.map _)

/-- The places of a line that come before the diagonal are met before it. -/
theorem exists_split_ownPlaces {line : String} (h : isFrequent a line = false)
    (hline : a[i]? = some line) :
    ∃ before after, ownPlaces a line = before ++ i :: after ∧ ∀ j ∈ before, j < i := by
  obtain ⟨before, after, hsplit⟩ := List.append_of_mem ((mem_ownPlaces h).mpr hline)
  have hsorted := ownPlaces_pairwise a line
  rw [hsplit, List.pairwise_append] at hsorted
  exact ⟨before, after, hsplit, fun j hj => hsorted.2.2 j hj i List.mem_cons_self⟩

theorem stretch_succ_of_frequent {line : String} (hline : a[i]? = some line)
    (h : isFrequent a line = true) : stretch a (i + 1) = 0 := by
  simp [stretch, hline, h]

theorem stretch_succ {line : String} (hline : a[i]? = some line)
    (h : isFrequent a line = false) : stretch a (i + 1) = stretch a i + 1 := by
  simp [stretch, hline, h]

/-- What is known before a line is taken into account: the best block is on the diagonal and no
stretch so far is longer, the block on the diagonal is as long as the stretch before the line, and
no other block is longer than the stretches in which it ends on either side. -/
structure Progress.Diagonal (a : List String) (i : Nat) (p : Progress) : Prop where
  best : p.best.i = p.best.j
  longest : ∀ k ≤ i, stretch a k ≤ p.best.size
  before : runBefore p.runs i = stretch a i
  row : ∀ r ∈ p.runs, r.2 ≤ stretch a i
  column : ∀ r ∈ p.runs, r.2 ≤ stretch a (r.1 + 1)

/-- Blocks that are not longer do not replace the best one. -/
theorem foldl_best_of_le {best : Block} {f : Nat → Nat} {places : List Nat}
    (h : ∀ j ∈ places, f j ≤ best.size) :
    (places.map fun j => (j, f j)).foldl
      (fun best r => if best.size < r.2 then ⟨i + 1 - r.2, r.1 + 1 - r.2, r.2⟩ else best) best =
        best := by
  induction places with
  | nil => rfl
  | cons j places ih =>
    rw [List.forall_mem_cons] at h
    rw [List.map_cons, List.foldl_cons, if_neg (Nat.not_lt.mpr h.1)]
    exact ih h.2

/-- If the blocks before the diagonal are not longer than the best one, and those after it not
longer than the one on the diagonal, then only that one can be better. -/
theorem foldl_best_of_diagonal {best : Block} {f : Nat → Nat} {before after : List Nat}
    (hbefore : ∀ j ∈ before, f j ≤ best.size) (hafter : ∀ j ∈ after, f j ≤ f i) :
    ((before ++ i :: after).map fun j => (j, f j)).foldl
      (fun best r => if best.size < r.2 then ⟨i + 1 - r.2, r.1 + 1 - r.2, r.2⟩ else best) best =
        if best.size < f i then ⟨i + 1 - f i, i + 1 - f i, f i⟩ else best := by
  rw [List.map_append, List.map_cons, List.foldl_append, List.foldl_cons, foldl_best_of_le hbefore]
  apply foldl_best_of_le
  intro j hj
  have hle := hafter j hj
  split_ifs with hlonger
  · exact hle
  · exact Nat.le_trans hle (Nat.not_lt.mp hlonger)

theorem runBefore_row {places : List Nat} (f : Nat → Nat) (h : i ∈ places) :
    runBefore (places.map fun j => (j, f j)) (i + 1) = f i := by
  rcases hfind : (places.map fun j => (j, f j)).find? (fun r => r.1 == i) with - | r
  · have hnone := List.find?_eq_none.mp hfind (i, f i) (List.mem_map_of_mem h)
    exact absurd (beq_self_eq_true i) hnone
  · obtain ⟨j, -, rfl⟩ := List.mem_map.mp (List.mem_of_find?_eq_some hfind)
    have hplace := List.find?_some hfind
    obtain rfl : j = i := beq_iff_eq.mp hplace
    rw [runBefore, hfind, Option.map_some, Option.getD_some]

/-- A block that ends in a line is no longer than the stretch up to that line, on either side. -/
theorem Progress.Diagonal.run_le {p : Progress} (h : p.Diagonal a i) {line : String}
    (hi : a[i]? = some line) (hj : a[j]? = some line) (hrare : isFrequent a line = false) :
    runBefore p.runs j + 1 ≤ stretch a (i + 1) ∧ runBefore p.runs j + 1 ≤ stretch a (j + 1) := by
  rw [stretch_succ hi hrare, stretch_succ hj hrare]
  rcases runBefore_cases p.runs j with hnone | ⟨r, hr, rfl, hrun⟩
  · omega
  · have hrow := h.row r hr
    have hcolumn := h.column r hr
    omega

theorem Progress.Diagonal.advance {p : Progress} (h : p.Diagonal a i) (hi : i < a.length) :
    (p.advance (Texts.ofLines a a) (whole a) i).Diagonal a (i + 1) := by
  have hline : a[i]? = some a[i] := List.getElem?_eq_getElem hi
  unfold Progress.advance
  rw [places_whole hline]
  generalize a[i] = line at hline
  cases hrare : isFrequent a line with
  | true =>
    have hzero := stretch_succ_of_frequent hline hrare
    rw [ownPlaces_of_frequent hrare]
    refine ⟨h.best, fun k hk => ?_, hzero.symm, ?_, ?_⟩
    · rcases Nat.le_succ_iff.mp hk with hk | rfl
      · exact h.longest k hk
      · rw [hzero]
        exact Nat.zero_le _
    all_goals exact fun r hr => absurd hr List.not_mem_nil
  | false =>
    have hlengths : ∀ j ∈ ownPlaces a line, runBefore p.runs j + 1 ≤ stretch a (i + 1) ∧
        runBefore p.runs j + 1 ≤ stretch a (j + 1) := fun j hj =>
      h.run_le hline ((mem_ownPlaces hrare).mp hj) hrare
    have hdiagonal : runBefore p.runs i + 1 = stretch a (i + 1) := by
      rw [h.before, stretch_succ hline hrare]
    have hfold : ((ownPlaces a line).map fun j => (j, runBefore p.runs j + 1)).foldl
        (fun best r => if best.size < r.2 then ⟨i + 1 - r.2, r.1 + 1 - r.2, r.2⟩ else best)
        p.best = if p.best.size < stretch a (i + 1) then
          ⟨i + 1 - stretch a (i + 1), i + 1 - stretch a (i + 1), stretch a (i + 1)⟩
        else p.best := by
      obtain ⟨before, after, hsplit, hbefore⟩ := exists_split_ownPlaces hrare hline
      rw [hsplit] at hlengths ⊢
      rw [← hdiagonal]
      apply foldl_best_of_diagonal
      · -- the lines of a block before the diagonal were met before, on the diagonal
        intro j hj
        exact Nat.le_trans (hlengths j (List.mem_append_left _ hj)).2
          (h.longest (j + 1) (hbefore j hj))
      · intro j hj
        rw [hdiagonal]
        exact (hlengths j (List.mem_append_right _ (List.mem_cons_of_mem _ hj))).1
    dsimp only
    rw [hfold]
    refine ⟨?_, fun k hk => ?_, ?_, ?_, ?_⟩
    · dsimp only
      split_ifs
      · rfl
      · exact h.best
    · have hlongest : k ≤ i → stretch a k ≤ p.best.size := h.longest k
      rcases Nat.le_succ_iff.mp hk with hk | rfl
      · split_ifs with hlonger
        · exact Nat.le_trans (hlongest hk) (Nat.le_of_lt hlonger)
        · exact hlongest hk
      · split_ifs with hlonger
        · exact Nat.le_refl _
        · exact Nat.not_lt.mp hlonger
    · rw [runBefore_row (fun j => runBefore p.runs j + 1) ((mem_ownPlaces hrare).mpr hline),
        hdiagonal]
    · intro r hr
      obtain ⟨j, hj, rfl⟩ := List.mem_map.mp hr
      exact (hlengths j hj).1
    · intro r hr
      obtain ⟨j, hj, rfl⟩ := List.mem_map.mp hr
      exact (hlengths j hj).2

theorem diagonal_rows (a : List String) {n : Nat} (hn : n ≤ a.length) :
    (((List.range n).map (· + (whole a).alo)).foldl
      (Progress.advance (Texts.ofLines a a) (whole a)) ⟨⟨0, 0, 0⟩, []⟩).Diagonal a n := by
  induction n with
  | zero =>
    refine ⟨rfl, fun k hk => ?_, rfl, ?_, ?_⟩
    · obtain rfl := Nat.le_zero.mp hk
      exact Nat.le_refl 0
    all_goals exact fun r hr => absurd hr List.not_mem_nil
  | succ n ih =>
    rw [List.range_succ, List.map_append, List.foldl_append]
    exact (ih (Nat.le_of_succ_le hn)).advance hn

/-! ## One block -/

theorem extendBack_self (a : List String) (i size : Nat) :
    extendBack (Texts.ofLines a a) i ⟨i, i, size⟩ = ⟨0, 0, size + i⟩ := by
  induction i generalizing size with
  | zero => rfl
  | succ i ih =>
    rw [extendBack, if_pos (by simp [Texts.ofLines]), ih, Nat.add_assoc, Nat.add_comm 1 i]

theorem extendForward_self (a : List String) (n i size : Nat) :
    extendForward (Texts.ofLines a a) n ⟨i, i, size⟩ = ⟨i, i, size + n⟩ := by
  induction n generalizing size with
  | zero => rfl
  | succ n ih =>
    rw [extendForward, if_pos (by simp [Texts.ofLines]), ih, Nat.add_assoc, Nat.add_comm 1 n]

/-- The longest block of a list compared with itself is the whole list. -/
theorem longest_self (a : List String) :
    longest (Texts.ofLines a a) (whole a) = ⟨0, 0, a.length⟩ := by
  have hdiagonal := (diagonal_rows a (Nat.le_refl _)).best
  have hstop := (sound_rows (Progress.sound_start (w := whole a) a a (Nat.zero_le _)
    (Nat.zero_le _)) (n := a.length) (by simp [whole])).best.a_stop
  unfold longest
  dsimp only [whole] at hdiagonal hstop ⊢
  rw [Nat.sub_zero]
  generalize (List.foldl (Progress.advance (Texts.ofLines a a) ⟨0, a.length, 0, a.length⟩)
    ⟨⟨0, 0, 0⟩, []⟩ ((List.range a.length).map (· + 0))).best = best at hdiagonal hstop ⊢
  obtain ⟨i, j, size⟩ := best
  dsimp only at hdiagonal hstop ⊢
  subst hdiagonal
  rw [Nat.sub_zero, Nat.min_self, extendBack_self]
  dsimp only
  rw [Nat.min_self, extendForward_self]
  have hlength : size + i + (a.length - (0 + (size + i))) = a.length := by omega
  rw [hlength]

theorem blocks_self (h : a ≠ []) : blocks a a = [⟨0, 0, a.length⟩] := by
  have hempty : ∀ levels k, blocksIn (Texts.ofLines a a) levels ⟨k, k, k, k⟩ = [] := by
    intro levels k
    cases levels <;> simp [blocksIn]
  have hall : blocksIn (Texts.ofLines a a) a.length (whole a) = [⟨0, 0, a.length⟩] := by
    obtain ⟨n, hn⟩ := Nat.exists_eq_add_one.mpr (List.length_pos_iff.mpr h)
    rw [hn, blocksIn, longest_self, ← hn]
    simp [whole, hempty, hn]
  calc blocks a a = joinBlocks (blocksIn (Texts.ofLines a a) a.length (whole a)) := rfl
    _ = [⟨0, 0, a.length⟩] := by simp [hall, joinBlocks]

/-- A list of lines has no hunks against itself: what is left of the one block is its last lines,
which are too few for a hunk to end in them. -/
theorem hunks_self (a : List String) : hunks a a = [] := by
  by_cases h : a = []
  · subst h
    simp [hunks, edits, blocks, blocksIn, joinBlocks, editsFrom, gap, trimFirst, trimLast,
      hunksFrom]
  · have hedits : edits a a = [⟨.equal, 0, a.length, 0, a.length⟩] := by
      simp [edits, blocks_self h, editsFrom, gap]
    have hshort : ¬ 6 < min a.length (a.length - 3 + 3) - (a.length - 3) := by omega
    simp [hunks, hedits, trimFirst, trimLast, Edit.keepEnd, Edit.keepStart, hunksFrom, context,
      hshort]

theorem unified_self (text name : String) : unified text text name = "" := by
  rw [unified, hunks_self]

theorem eq_of_unified_eq_empty {old new name : String} (h : unified old new name = "") :
    old = new := by
  by_contra hne
  obtain ⟨hunks, hdescribes⟩ := exists_describes name old new
  obtain ⟨rest, hstart⟩ := hdescribes.start (hdescribes.ne_nil (Ne.symm hne))
  rw [h] at hstart
  exact absurd (congrArg String.toList hstart) (by simp)

end DesignLens.Diff

namespace DesignLens.Scaffold

/-- A difference is empty exactly if the two texts are the same, and so is the one that goes with a
change to a file. -/
theorem diff_empty_iff_same (old new name : String) (w : Workshop) (r : Request) (d : Draft)
    (text : Option String) (scaffold : String) :
    (Diff.unified old new name = "" ↔ old = new) ∧
      ((w.change r d text scaffold).diff = "" ↔ text.getD "" = merged text scaffold) := by
  have hempty : ∀ old new name, Diff.unified old new name = "" ↔ old = new := by
    intro old new name
    constructor
    · exact Diff.eq_of_unified_eq_empty
    · rintro rfl
      exact Diff.unified_self old name
  exact ⟨hempty old new name, hempty (text.getD "") (merged text scaffold) r.target.toString⟩

end DesignLens.Scaffold
