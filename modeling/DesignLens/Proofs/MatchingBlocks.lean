import DesignLens.Diff.Matching
import Mathlib.Data.List.Basic

/-!
# Matching blocks match

The blocks found in two lists of lines follow each other in both lists without overlap, and the
lines of a block are the same in both. This does not depend on how the search for the longest block
goes about frequent lines, nor on how deep it may go.
-/

namespace DesignLens.Diff

variable {a b : List String} {w : Window} {m : Block}

/-- A block of equal lines that lies in a window. -/
structure Within (a b : List String) (w : Window) (m : Block) : Prop where
  a_start : w.alo ≤ m.i
  a_stop : m.i + m.size ≤ w.ahi
  b_start : w.blo ≤ m.j
  b_stop : m.j + m.size ≤ w.bhi
  same : ∀ k < m.size, a[m.i + k]? = b[m.j + k]?

/-! ## The search through a window -/

/-- A line is looked for where it is. -/
theorem getElem?_of_mem_places {i j : Nat}
    (h : j ∈ ((Texts.ofLines a b).places[i]?).getD []) : a[i]? = b[j]? := by
  have hplaces : (Texts.ofLines a b).places[i]? =
      a[i]?.map fun line => placesOf b.zipIdx (isFrequent b line) line := by
    simp [Texts.ofLines]
  rw [hplaces] at h
  cases hline : a[i]? with
  | none =>
    rw [hline] at h
    exact absurd h List.not_mem_nil
  | some line =>
    rw [hline, Option.map_some, Option.getD_some] at h
    unfold placesOf at h
    split_ifs at h
    · exact absurd h List.not_mem_nil
    · obtain ⟨entry, hentry, rfl⟩ := List.mem_map.mp h
      obtain ⟨hmem, hequal⟩ := List.mem_filter.mp hentry
      rw [← beq_iff_eq.mp hequal]
      exact (List.mem_zipIdx_iff_getElem?.mp hmem).symm

/-- What is known before a line of the first list is taken into account: the best block is one, and
each run ends right before that line. -/
structure Progress.Sound (a b : List String) (w : Window) (i : Nat) (p : Progress) : Prop where
  best : Within a b w p.best
  a_start : ∀ r ∈ p.runs, w.alo + r.2 ≤ i
  b_start : ∀ r ∈ p.runs, w.blo + r.2 ≤ r.1 + 1
  b_stop : ∀ r ∈ p.runs, r.1 < w.bhi
  same : ∀ r ∈ p.runs, ∀ k < r.2, a[i - r.2 + k]? = b[r.1 + 1 - r.2 + k]?

theorem runBefore_cases (runs : List (Nat × Nat)) (j : Nat) :
    runBefore runs j = 0 ∨ ∃ r ∈ runs, r.1 + 1 = j ∧ runBefore runs j = r.2 := by
  cases j with
  | zero => exact Or.inl rfl
  | succ k =>
    cases hfind : runs.find? (fun r => r.1 == k) with
    | none => exact Or.inl (by simp [runBefore, hfind])
    | some r =>
      refine Or.inr ⟨r, List.mem_of_find?_eq_some hfind, ?_, by simp [runBefore, hfind]⟩
      have hr := List.find?_some hfind
      rw [beq_iff_eq.mp hr]

/-- The best of some blocks is one of them. -/
theorem within_foldl_best {i : Nat} {best : Block} (hbest : Within a b w best)
    {runs : List (Nat × Nat)}
    (h : ∀ r ∈ runs, Within a b w ⟨i + 1 - r.2, r.1 + 1 - r.2, r.2⟩) :
    Within a b w (runs.foldl
      (fun best r => if best.size < r.2 then ⟨i + 1 - r.2, r.1 + 1 - r.2, r.2⟩ else best)
      best) := by
  induction runs generalizing best with
  | nil => exact hbest
  | cons r runs ih =>
    rw [List.forall_mem_cons] at h
    rw [List.foldl_cons]
    apply ih _ h.2
    split_ifs
    · exact h.1
    · exact hbest

theorem Progress.Sound.advance {i : Nat} {p : Progress} (h : p.Sound a b w i) (hlo : w.alo ≤ i)
    (hhi : i < w.ahi) : (p.advance (Texts.ofLines a b) w i).Sound a b w (i + 1) := by
  set places := (((Texts.ofLines a b).places[i]?).getD []).filter fun j => w.blo ≤ j && j < w.bhi
    with hplaces
  set runs := places.map fun j => (j, runBefore p.runs j + 1) with hruns
  have hstep : ∀ r ∈ runs, (w.alo + r.2 ≤ i + 1 ∧ w.blo + r.2 ≤ r.1 + 1 ∧ r.1 < w.bhi) ∧
      ∀ k < r.2, a[i + 1 - r.2 + k]? = b[r.1 + 1 - r.2 + k]? := by
    intro r hr
    obtain ⟨j, hj, rfl⟩ := List.mem_map.mp hr
    obtain ⟨hmem, hbounds⟩ := List.mem_filter.mp hj
    simp only [Bool.and_eq_true, decide_eq_true_eq] at hbounds
    have hline := getElem?_of_mem_places hmem
    -- a block that ends in this line is one that ended in the line before, and this line
    rcases runBefore_cases p.runs j with hnone | ⟨s, hs, hend, hbefore⟩
    · rw [hnone]
      refine ⟨⟨by omega, by omega, hbounds.2⟩, fun k hk => ?_⟩
      obtain rfl : k = 0 := by omega
      exact hline
    · have hstart := h.a_start s hs
      have hstart' := h.b_start s hs
      rw [hbefore]
      refine ⟨⟨by omega, by omega, hbounds.2⟩, fun k hk => ?_⟩
      dsimp only at hk ⊢
      have ha : i + 1 - (s.2 + 1) = i - s.2 := by omega
      have hb : j + 1 - (s.2 + 1) = s.1 + 1 - s.2 := by omega
      rw [ha, hb]
      by_cases hlast : k < s.2
      · exact h.same s hs k hlast
      · have hi : i - s.2 + k = i := by omega
        have hj : s.1 + 1 - s.2 + k = j := by omega
        rw [hi, hj]
        exact hline
  refine ⟨within_foldl_best h.best fun r hr => ?_, fun r hr => (hstep r hr).1.1,
    fun r hr => (hstep r hr).1.2.1, fun r hr => (hstep r hr).1.2.2, fun r hr => (hstep r hr).2⟩
  obtain ⟨⟨hstart, hstart', hstop⟩, hsame⟩ := hstep r hr
  exact ⟨by dsimp only; omega, by dsimp only; omega, by dsimp only; omega, by dsimp only; omega,
    hsame⟩

theorem sound_rows {p : Progress} (h : p.Sound a b w w.alo) {n : Nat} (hn : w.alo + n ≤ w.ahi) :
    (((List.range n).map (· + w.alo)).foldl (Progress.advance (Texts.ofLines a b) w) p).Sound a b w
      (w.alo + n) := by
  induction n with
  | zero => exact h
  | succ n ih =>
    rw [List.range_succ, List.map_append, List.foldl_append, ← Nat.add_assoc]
    have hrow := (ih (by omega)).advance (by omega) (by omega)
    rw [Nat.add_comm w.alo n] at hrow ⊢
    exact hrow

theorem within_extendBack {n : Nat} (h : Within a b w m) (ha : w.alo + n ≤ m.i)
    (hb : w.blo + n ≤ m.j) : Within a b w (extendBack (Texts.ofLines a b) n m) := by
  induction n generalizing m with
  | zero =>
    rw [extendBack]
    · exact h
    · simp
  | succ n ih =>
    obtain ⟨i, j, size⟩ := m
    cases i with
    | zero => exact absurd ha (by dsimp only; omega)
    | succ i =>
      cases j with
      | zero => exact absurd hb (by dsimp only; omega)
      | succ j =>
        rw [extendBack]
        split_ifs with hequal
        · have hline : a[i]? = b[j]? := by simpa [Texts.ofLines] using hequal
          obtain ⟨hai, hahi, hbj, hbhi, hsame⟩ := h
          dsimp only at hai hahi hbj hbhi hsame ha hb
          apply ih
          · refine ⟨by dsimp only; omega, by dsimp only; omega, by dsimp only; omega,
              by dsimp only; omega, fun k hk => ?_⟩
            cases k with
            | zero => exact hline
            | succ k =>
              have hnext := hsame k (by dsimp only at hk; omega)
              rw [Nat.add_right_comm i, Nat.add_right_comm j] at hnext
              exact hnext
          · dsimp only
            omega
          · dsimp only
            omega
        · exact h

theorem within_extendForward {n : Nat} (h : Within a b w m) (ha : m.i + m.size + n ≤ w.ahi)
    (hb : m.j + m.size + n ≤ w.bhi) : Within a b w (extendForward (Texts.ofLines a b) n m) := by
  induction n generalizing m with
  | zero => exact h
  | succ n ih =>
    rw [extendForward]
    split_ifs with hequal
    · have hline : a[m.i + m.size]? = b[m.j + m.size]? := by simpa [Texts.ofLines] using hequal
      apply ih
      · refine ⟨h.a_start, by dsimp only; omega, h.b_start, by dsimp only; omega, fun k hk => ?_⟩
        rcases Nat.lt_succ_iff_lt_or_eq.mp hk with hk | rfl
        · exact h.same k hk
        · exact hline
      · dsimp only
        omega
      · dsimp only
        omega
    · exact h

theorem Progress.sound_start (a b : List String) (ha : w.alo ≤ w.ahi) (hb : w.blo ≤ w.bhi) :
    Progress.Sound a b w w.alo ⟨⟨w.alo, w.blo, 0⟩, []⟩ := by
  refine ⟨⟨Nat.le_refl _, ha, Nat.le_refl _, hb, ?_⟩, ?_, ?_, ?_, ?_⟩
  · exact fun k hk => absurd hk (Nat.not_lt_zero k)
  all_goals exact fun r hr => absurd hr List.not_mem_nil

/-- The longest block is one. -/
theorem within_longest (ha : w.alo ≤ w.ahi) (hb : w.blo ≤ w.bhi) :
    Within a b w (longest (Texts.ofLines a b) w) := by
  have hbest := (sound_rows (Progress.sound_start a b ha hb) (n := w.ahi - w.alo) (by omega)).best
  unfold longest
  dsimp only
  generalize (List.foldl (Progress.advance (Texts.ofLines a b) w) ⟨⟨w.alo, w.blo, 0⟩, []⟩
    ((List.range (w.ahi - w.alo)).map (· + w.alo))).best = best at hbest ⊢
  have hback : Within a b w (extendBack (Texts.ofLines a b)
      (min (best.i - w.alo) (best.j - w.blo)) best) := by
    have hi := hbest.a_start
    have hj := hbest.b_start
    exact within_extendBack hbest (by omega) (by omega)
  generalize extendBack (Texts.ofLines a b) (min (best.i - w.alo) (best.j - w.blo)) best = best
    at hback ⊢
  have hi := hback.a_stop
  have hj := hback.b_stop
  exact within_extendForward hback (by omega) (by omega)

/-! ## Blocks one after another -/

/-- Blocks that follow each other in a window. -/
def Chain (a b : List String) : Window → List Block → Prop
  | w, [] => w.alo ≤ w.ahi ∧ w.blo ≤ w.bhi
  | w, m :: rest => Within a b w m ∧ Chain a b ⟨m.i + m.size, w.ahi, m.j + m.size, w.bhi⟩ rest

theorem Within.widen {w' : Window} (h : Within a b w' m) (halo : w.alo ≤ w'.alo)
    (hahi : w'.ahi ≤ w.ahi) (hblo : w.blo ≤ w'.blo) (hbhi : w'.bhi ≤ w.bhi) : Within a b w m :=
  ⟨Nat.le_trans halo h.a_start, Nat.le_trans h.a_stop hahi, Nat.le_trans hblo h.b_start,
    Nat.le_trans h.b_stop hbhi, h.same⟩

/-- Blocks before a block, the block and blocks after it. -/
theorem chain_around {xs ys : List Block} (hm : Within a b w m)
    (hxs : Chain a b ⟨w.alo, m.i, w.blo, m.j⟩ xs)
    (hys : Chain a b ⟨m.i + m.size, w.ahi, m.j + m.size, w.bhi⟩ ys) :
    Chain a b w (xs ++ m :: ys) := by
  -- each block before the middle one moves the start of the window, and never past that one
  induction xs generalizing w with
  | nil => exact ⟨hm, hys⟩
  | cons x xs ih =>
    obtain ⟨hx, hxs⟩ := hxs
    have hai := hm.a_stop
    have hbj := hm.b_stop
    refine ⟨hx.widen (Nat.le_refl _) (by dsimp only; omega) (Nat.le_refl _)
      (by dsimp only; omega), ?_⟩
    have hxa := hx.a_stop
    have hxb := hx.b_stop
    apply ih
    · exact ⟨hxa, hm.a_stop, hxb, hm.b_stop, hm.same⟩
    · exact hxs
    · exact hys

theorem chain_blocksIn {levels : Nat} (ha : w.alo ≤ w.ahi) (hb : w.blo ≤ w.bhi) :
    Chain a b w (blocksIn (Texts.ofLines a b) levels w) := by
  induction levels generalizing w with
  | zero => exact ⟨ha, hb⟩
  | succ levels ih =>
    rw [blocksIn]
    dsimp only
    split_ifs
    · exact ⟨ha, hb⟩
    · have hm := within_longest (a := a) (b := b) ha hb
      exact chain_around hm (ih hm.a_start hm.b_start) (ih hm.a_stop hm.b_stop)
    · exact ⟨ha, hb⟩

/-- Two blocks without a gap are one block. -/
theorem Within.join {x y : Block} (hx : Within a b w x)
    (hy : Within a b ⟨x.i + x.size, w.ahi, x.j + x.size, w.bhi⟩ y) (hi : x.i + x.size = y.i)
    (hj : x.j + x.size = y.j) : Within a b w ⟨x.i, x.j, x.size + y.size⟩ := by
  have ha := hy.a_stop
  have hb := hy.b_stop
  refine ⟨hx.a_start, by dsimp only at ha ⊢; omega, hx.b_start, by dsimp only at hb ⊢; omega,
    fun k hk => ?_⟩
  dsimp only at hk ⊢
  by_cases hfirst : k < x.size
  · exact hx.same k hfirst
  · have hsecond := hy.same (k - x.size) (by omega)
    have hai : y.i + (k - x.size) = x.i + k := by omega
    have hbj : y.j + (k - x.size) = x.j + k := by omega
    rwa [hai, hbj] at hsecond

theorem chain_joinBlocks {blocks : List Block} (h : Chain a b w blocks) :
    Chain a b w (joinBlocks blocks) := by
  fun_induction joinBlocks blocks generalizing w with
  | case1 x y rest hgap ih =>
    obtain ⟨hx, hy, hrest⟩ := h
    simp only [Bool.and_eq_true, decide_eq_true_eq] at hgap
    apply ih
    refine ⟨hx.join hy hgap.1 hgap.2, ?_⟩
    rw [← Nat.add_assoc, ← Nat.add_assoc, hgap.1, hgap.2]
    exact hrest
  | case2 x y rest hgap ih => exact ⟨h.1, ih h.2⟩
  | case3 blocks => exact h

/-- The matching blocks of two lists match and follow each other. -/
theorem chain_blocks (a b : List String) :
    Chain a b ⟨0, a.length, 0, b.length⟩ (blocks a b) :=
  chain_joinBlocks (chain_blocksIn (Nat.zero_le _) (Nat.zero_le _))

end DesignLens.Diff
