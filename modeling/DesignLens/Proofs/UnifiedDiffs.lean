import DesignLens.Diff.Unified
import DesignLens.Proofs.MatchingBlocks
import DesignLens.Proofs.Texts

/-!
# What a difference says

A difference is read as hunks: marked lines with the places where they start in both texts. Hunks
are applied to a text by checking the lines that they keep or remove and putting in those that they
keep or add. The hunks of a difference applied to the first text give the second one, and turned
around they give the first one back, line ends and a missing last one included.
-/

namespace DesignLens.Diff

/-! ## Hunks and how they are applied -/

inductive Mark where
  | kept
  | removed
  | added
  deriving DecidableEq, Repr

def Mark.sign : Mark → String
  | .kept => " "
  | .removed => "-"
  | .added => "+"

def Mark.flip : Mark → Mark
  | .kept => .kept
  | .removed => .added
  | .added => .removed

/-- The lines that are there before. -/
def oldSide (body : List (Mark × String)) : List String :=
  (body.filter fun line => line.1 ≠ .added).map Prod.snd

/-- The lines that are there afterwards. -/
def newSide (body : List (Mark × String)) : List String :=
  (body.filter fun line => line.1 ≠ .removed).map Prod.snd

/-- Marked lines, and the numbers of lines before them in both texts. -/
structure Hunk where
  oldStart : Nat
  newStart : Nat
  body : List (Mark × String)
  deriving DecidableEq, Repr

namespace Hunk

def oldStop (h : Hunk) : Nat := h.oldStart + (oldSide h.body).length

def newStop (h : Hunk) : Nat := h.newStart + (newSide h.body).length

def head (h : Hunk) : String :=
  "@@ -" ++ rangeText h.oldStart h.oldStop ++ " +" ++ rangeText h.newStart h.newStop ++ " @@"

/-- How a hunk is written: a line that heads it, and its lines after their signs. -/
def lines (h : Hunk) : List String := h.head :: h.body.map fun line => line.1.sign ++ line.2

/-- The hunk that leads back. -/
def flip (h : Hunk) : Hunk :=
  ⟨h.newStart, h.oldStart, h.body.map fun line => (line.1.flip, line.2)⟩

end Hunk

/-- Applies hunks to the lines of a text from some line on. A hunk only applies where its old lines
are. -/
def patchFrom (start : Nat) : List Hunk → List String → Option (List String)
  | [], rest => some rest
  | h :: hunks, rest =>
    let skipped := h.oldStart - start
    if start ≤ h.oldStart ∧ skipped ≤ rest.length ∧ oldSide h.body <+: rest.drop skipped then
      (patchFrom h.oldStop hunks (rest.drop (skipped + (oldSide h.body).length))).map
        (rest.take skipped ++ newSide h.body ++ ·)
    else none

def patch (hunks : List Hunk) (text : String) : Option String :=
  (patchFrom 0 hunks (Text.linesWithEnds text)).map String.join

variable {a b : List String} {i j i₁ j₁ i₂ j₂ i₃ j₃ : Nat} {e : Edit}

/-! ## Stretches of lines -/

theorem linesBetween_append (lines : List String) (h : i ≤ j) {k : Nat} (h' : j ≤ k) :
    linesBetween lines i j ++ linesBetween lines j k = linesBetween lines i k := by
  obtain ⟨n, rfl⟩ := Nat.exists_eq_add_of_le h
  obtain ⟨m, rfl⟩ := Nat.exists_eq_add_of_le h'
  unfold linesBetween
  have hn : i + n - i = n := by omega
  have hm : i + n + m - (i + n) = m := by omega
  have hnm : i + n + m - i = n + m := by omega
  rw [hn, hm, hnm, List.take_add, List.drop_drop]

theorem linesBetween_length (lines : List String) (i : Nat) :
    linesBetween lines i lines.length = lines.drop i := by
  unfold linesBetween
  rw [← List.length_drop, List.take_length]

theorem linesBetween_self (lines : List String) (i : Nat) : linesBetween lines i i = [] := by
  rw [linesBetween, Nat.sub_self, List.take_zero]

theorem length_linesBetween {lines : List String} (h : j ≤ lines.length) :
    (linesBetween lines i j).length = j - i := by
  rw [linesBetween, List.length_take, List.length_drop]
  omega

theorem linesBetween_drop {lines : List String} (h : i ≤ j) (h' : j ≤ lines.length) :
    linesBetween lines i j ++ lines.drop j = lines.drop i := by
  rw [← linesBetween_length lines j, linesBetween_append lines h h', linesBetween_length]

/-- A stretch of lines that are the same in both lists. -/
def Same (a b : List String) (i j i' j' : Nat) : Prop :=
  ∃ n, i' = i + n ∧ j' = j + n ∧ ∀ k < n, a[i + k]? = b[j + k]?

theorem Same.refl (a b : List String) (i j : Nat) : Same a b i j i j :=
  ⟨0, rfl, rfl, fun k hk => absurd hk (Nat.not_lt_zero k)⟩

theorem Same.trans (h : Same a b i j i₁ j₁) (h' : Same a b i₁ j₁ i₂ j₂) : Same a b i j i₂ j₂ := by
  obtain ⟨n, rfl, rfl, hn⟩ := h
  obtain ⟨m, rfl, rfl, hm⟩ := h'
  refine ⟨n + m, Nat.add_assoc _ _ _, Nat.add_assoc _ _ _, fun k hk => ?_⟩
  by_cases hfirst : k < n
  · exact hn k hfirst
  · have hsecond := hm (k - n) (by omega)
    have hi : i + n + (k - n) = i + k := by omega
    have hj : j + n + (k - n) = j + k := by omega
    rwa [hi, hj] at hsecond

/-- A part of a stretch of equal lines. -/
theorem Same.part (h : Same a b i j i₂ j₂) {s t : Nat} (hst : s ≤ t) (ht : i + t ≤ i₂) :
    Same a b (i + s) (j + s) (i + t) (j + t) := by
  obtain ⟨n, rfl, rfl, hn⟩ := h
  refine ⟨t - s, by omega, by omega, fun k hk => ?_⟩
  have hline := hn (s + k) (by omega)
  rwa [← Nat.add_assoc, ← Nat.add_assoc] at hline

theorem Same.lines (h : Same a b i j i₁ j₁) : linesBetween a i i₁ = linesBetween b j j₁ := by
  obtain ⟨n, rfl, rfl, hn⟩ := h
  unfold linesBetween
  rw [Nat.add_sub_cancel_left, Nat.add_sub_cancel_left]
  apply List.ext_getElem?
  intro k
  rw [List.getElem?_take, List.getElem?_take, List.getElem?_drop, List.getElem?_drop]
  split_ifs with hk
  · exact hn k hk
  · rfl

/-! ## Edits -/

/-- An edit is what it says it is. -/
structure Edit.Sound (a b : List String) (e : Edit) : Prop where
  a_le : e.i₁ ≤ e.i₂
  b_le : e.j₁ ≤ e.j₂
  a_stop : e.i₂ ≤ a.length
  b_stop : e.j₂ ≤ b.length
  equal : e.change = .equal → Same a b e.i₁ e.j₁ e.i₂ e.j₂
  delete : e.change = .delete → e.j₁ = e.j₂
  insert : e.change = .insert → e.i₁ = e.i₂

/-- Edits that follow each other without a gap, from two places up to two others. -/
def Tiles (a b : List String) : Nat → Nat → List Edit → Nat → Nat → Prop
  | i, j, [], i', j' => i = i' ∧ j = j'
  | i, j, e :: rest, i', j' =>
    (e.i₁ = i ∧ e.j₁ = j) ∧ e.Sound a b ∧ Tiles a b e.i₂ e.j₂ rest i' j'

theorem Tiles.append {xs ys : List Edit} (h : Tiles a b i j xs i₁ j₁)
    (h' : Tiles a b i₁ j₁ ys i₂ j₂) : Tiles a b i j (xs ++ ys) i₂ j₂ := by
  induction xs generalizing i j with
  | nil =>
    obtain ⟨rfl, rfl⟩ := h
    exact h'
  | cons x xs ih => exact ⟨h.1, h.2.1, ih h.2.2⟩

theorem Tiles.le {edits : List Edit} (h : Tiles a b i j edits i₁ j₁) : i ≤ i₁ ∧ j ≤ j₁ := by
  induction edits generalizing i j with
  | nil => exact ⟨Nat.le_of_eq h.1, Nat.le_of_eq h.2⟩
  | cons e rest ih =>
    obtain ⟨⟨rfl, rfl⟩, hsound, hrest⟩ := h
    have hle := ih hrest
    exact ⟨Nat.le_trans hsound.a_le hle.1, Nat.le_trans hsound.b_le hle.2⟩

theorem tiles_gap (hi : i ≤ i₁) (hj : j ≤ j₁) (ha : i₁ ≤ a.length) (hb : j₁ ≤ b.length) :
    Tiles a b i j (gap i j i₁ j₁) i₁ j₁ := by
  unfold gap
  split_ifs with hboth hold hnew
  · exact ⟨⟨rfl, rfl⟩, ⟨hi, hj, ha, hb, nofun, nofun, nofun⟩, rfl, rfl⟩
  · simp only [Bool.and_eq_true, decide_eq_true_eq, not_and] at hboth
    have hnone := hboth hold
    exact ⟨⟨rfl, rfl⟩, ⟨hi, hj, ha, hb, nofun, fun _ => by dsimp only; omega, nofun⟩, rfl, rfl⟩
  · exact ⟨⟨rfl, rfl⟩, ⟨hi, hj, ha, hb, nofun, nofun, fun _ => by dsimp only; omega⟩, rfl, rfl⟩
  · exact ⟨by omega, by omega⟩

theorem tiles_editsFrom {aEnd bEnd : Nat} (ha : aEnd ≤ a.length) (hb : bEnd ≤ b.length)
    {found : List Block} (h : Chain a b ⟨i, aEnd, j, bEnd⟩ found) :
    Tiles a b i j (editsFrom i j aEnd bEnd found) aEnd bEnd := by
  induction found generalizing i j with
  | nil => exact tiles_gap h.1 h.2 ha hb
  | cons m rest ih =>
    obtain ⟨⟨hi, hi', hj, hj', hsame⟩, hrest⟩ := h
    dsimp only at hi hi' hj hj' hrest
    apply Tiles.append (tiles_gap hi hj (by omega) (by omega))
    refine ⟨⟨rfl, rfl⟩, ⟨?_, ?_, ?_, ?_, fun _ => ⟨m.size, rfl, rfl, hsame⟩, nofun, nofun⟩,
      ih hrest⟩
    all_goals dsimp only; omega

/-- The edits lead from the first list to the second. -/
theorem tiles_edits (a b : List String) : Tiles a b 0 0 (edits a b) a.length b.length :=
  tiles_editsFrom (Nat.le_refl _) (Nat.le_refl _) (chain_blocks a b)

/-! ## Unchanged stretches cut short -/

/-- A part of an unchanged stretch. -/
def Edit.part (e : Edit) (s t : Nat) : Edit :=
  { e with i₁ := e.i₁ + s, i₂ := e.i₁ + t, j₁ := e.j₁ + s, j₂ := e.j₁ + t }

theorem Edit.Sound.part (h : e.Sound a b) (hequal : e.change = .equal) {s t : Nat} (hst : s ≤ t)
    (ht : e.i₁ + t ≤ e.i₂) : (e.part s t).Sound a b := by
  have hsame := h.equal hequal
  have hlengths : e.j₁ + t ≤ e.j₂ := by
    obtain ⟨n, hi, hj, -⟩ := hsame
    omega
  refine ⟨?_, ?_, Nat.le_trans ht h.a_stop, Nat.le_trans hlengths h.b_stop,
    fun _ => hsame.part hst ht, fun hd => absurd (hequal.symm.trans hd) (by decide),
    fun hi => absurd (hequal.symm.trans hi) (by decide)⟩
  · exact Nat.add_le_add_left hst e.i₁
  · exact Nat.add_le_add_left hst e.j₁

/-- An unchanged stretch is as long in both lists. -/
theorem Edit.Sound.stop (h : e.Sound a b) (hequal : e.change = .equal) :
    e.i₁ + (e.i₂ - e.i₁) = e.i₂ ∧ e.j₁ + (e.i₂ - e.i₁) = e.j₂ := by
  obtain ⟨n, hi, hj, -⟩ := h.equal hequal
  omega

theorem Edit.Sound.keepStart_eq (h : e.Sound a b) (hequal : e.change = .equal) :
    e.keepStart = e.part 0 (min (e.i₂ - e.i₁) context) := by
  obtain ⟨n, hi, hj, -⟩ := h.equal hequal
  rw [Edit.keepStart, Edit.part, Edit.mk.injEq]
  exact ⟨rfl, rfl, by omega, rfl, by omega⟩

theorem Edit.Sound.keepEnd_eq (h : e.Sound a b) (hequal : e.change = .equal) :
    e.keepEnd = e.part (e.i₂ - e.i₁ - context) (e.i₂ - e.i₁) := by
  obtain ⟨n, hi, hj, -⟩ := h.equal hequal
  rw [Edit.keepEnd, Edit.part, Edit.mk.injEq]
  exact ⟨rfl, by omega, by omega, by omega, by omega⟩

theorem exists_tiles_trimFirst {edits : List Edit} (h : Tiles a b i j edits i₂ j₂) :
    ∃ i₁ j₁, Same a b i j i₁ j₁ ∧ Tiles a b i₁ j₁ (trimFirst edits) i₂ j₂ := by
  cases edits with
  | nil => exact ⟨i, j, .refl a b i j, h⟩
  | cons e rest =>
    obtain ⟨⟨rfl, rfl⟩, hsound, hrest⟩ := h
    rw [trimFirst]
    split_ifs with hequal
    · have hsame := hsound.equal hequal
      rw [hsound.keepEnd_eq hequal]
      have hstop := hsound.stop hequal
      refine ⟨_, _, hsame.part (s := 0) (Nat.zero_le _) (by omega), ⟨rfl, rfl⟩,
        hsound.part hequal (Nat.sub_le _ _) (by omega), ?_⟩
      rw [Edit.part, hstop.1, hstop.2]
      exact hrest
    · exact ⟨_, _, .refl a b _ _, ⟨rfl, rfl⟩, hsound, hrest⟩

theorem exists_tiles_trimLast {edits : List Edit} (h : Tiles a b i j edits i₂ j₂) :
    ∃ i₁ j₁, Tiles a b i j (trimLast edits) i₁ j₁ ∧ Same a b i₁ j₁ i₂ j₂ := by
  fun_induction trimLast edits generalizing i j with
  | case1 e =>
    obtain ⟨⟨rfl, rfl⟩, hsound, rfl, rfl⟩ := h
    split_ifs with hequal
    · have hsame := hsound.equal hequal
      rw [hsound.keepStart_eq hequal]
      have hstop := hsound.stop hequal
      have hrest := hsame.part (Nat.min_le_left (e.i₂ - e.i₁) context) (by omega)
      rw [hstop.1, hstop.2] at hrest
      exact ⟨_, _, ⟨⟨rfl, rfl⟩, hsound.part hequal (Nat.zero_le _) (by omega), rfl, rfl⟩, hrest⟩
    · exact ⟨_, _, ⟨⟨rfl, rfl⟩, hsound, rfl, rfl⟩, .refl a b _ _⟩
  | case2 e rest _ ih =>
    obtain ⟨i₁, j₁, htiles, hsame⟩ := ih h.2.2
    exact ⟨i₁, j₁, ⟨h.1, h.2.1, htiles⟩, hsame⟩
  | case3 => exact ⟨i, j, ⟨rfl, rfl⟩, h.1 ▸ h.2 ▸ .refl a b _ _⟩

/-! ## Hunks of edits -/

/-- Hunks with unchanged lines around them, from two places up to the ends of the lists. -/
def Stitched (a b : List String) : Nat → Nat → List (List Edit) → Prop
  | i, j, [] => Same a b i j a.length b.length
  | i, j, hunk :: rest => ∃ i₁ j₁ i₂ j₂, Same a b i j i₁ j₁ ∧ Tiles a b i₁ j₁ hunk i₂ j₂ ∧
      hunk ≠ [] ∧ Stitched a b i₂ j₂ rest

/-- Edits that change nothing stand for unchanged lines. -/
theorem Tiles.same {edits : List Edit} (h : Tiles a b i j edits i₁ j₁)
    (hequal : ∀ e ∈ edits, e.change = .equal) : Same a b i j i₁ j₁ := by
  induction edits generalizing i j with
  | nil =>
    obtain ⟨rfl, rfl⟩ := h
    exact .refl a b i j
  | cons e rest ih =>
    rw [List.forall_mem_cons] at hequal
    obtain ⟨⟨rfl, rfl⟩, hsound, hrest⟩ := h
    exact (hsound.equal hequal.1).trans (ih hrest hequal.2)

theorem stitched_hunksFrom {hunk edits : List Edit} (hskip : Same a b i j i₁ j₁)
    (hhunk : Tiles a b i₁ j₁ hunk.reverse i₂ j₂) (hedits : Tiles a b i₂ j₂ edits i₃ j₃)
    (hend : Same a b i₃ j₃ a.length b.length) : Stitched a b i j (hunksFrom hunk edits) := by
  -- the current hunk goes from `i₁` and `j₁` up to `i₂` and `j₂`, where the edits to come start
  induction edits generalizing hunk i j i₁ j₁ i₂ j₂ with
  | nil =>
    obtain ⟨rfl, rfl⟩ := hedits
    rw [hunksFrom]
    split_ifs with hchange
    · have hne : hunk ≠ [] := by
        rintro rfl
        exact nomatch hchange
      exact ⟨i₁, j₁, i₂, j₂, hskip, hhunk, by simpa using hne, hend⟩
    · refine hskip.trans (Same.trans (hhunk.same ?_) hend)
      simpa using hchange
  | cons e rest ih =>
    obtain ⟨⟨rfl, rfl⟩, hsound, hrest⟩ := hedits
    have hone : Tiles a b e.i₁ e.j₁ [e] e.i₂ e.j₂ := ⟨⟨rfl, rfl⟩, hsound, rfl, rfl⟩
    rw [hunksFrom]
    split_ifs with hlong
    · -- the hunk ends with the first lines of the stretch, and the next one starts with its last
      simp only [Bool.and_eq_true, decide_eq_true_eq] at hlong
      obtain ⟨hequal, hlong⟩ := hlong
      have hsame := hsound.equal hequal
      have hstop := hsound.stop hequal
      have hmiddle := hsame.part (s := min (e.i₂ - e.i₁) context)
        (t := e.i₂ - e.i₁ - context) (by omega) (by omega)
      have hlast : Tiles a b (e.i₁ + (e.i₂ - e.i₁ - context)) (e.j₁ + (e.i₂ - e.i₁ - context))
          [e.keepEnd] e.i₂ e.j₂ := by
        rw [hsound.keepEnd_eq hequal]
        exact ⟨⟨rfl, rfl⟩, hsound.part hequal (by omega) (by omega), hstop⟩
      refine ⟨i₁, j₁, e.keepStart.i₂, e.keepStart.j₂, hskip, ?_, by simp, ?_⟩
      · rw [List.reverse_cons]
        apply hhunk.append
        rw [hsound.keepStart_eq hequal]
        exact ⟨⟨rfl, rfl⟩, hsound.part hequal (Nat.zero_le _) (by omega), rfl, rfl⟩
      · rw [hsound.keepStart_eq hequal]
        exact ih hmiddle hlast hrest
    · apply ih hskip _ hrest
      rw [List.reverse_cons]
      exact hhunk.append hone

/-- The hunks of two lists lead from the first to the second. -/
theorem stitched_hunks (a b : List String) : Stitched a b 0 0 (hunks a b) := by
  obtain ⟨i₁, j₁, hfirst, htiles⟩ := exists_tiles_trimFirst (tiles_edits a b)
  obtain ⟨i₂, j₂, htiles, hlast⟩ := exists_tiles_trimLast htiles
  have hstart : Tiles a b i₁ j₁ ([] : List Edit).reverse i₁ j₁ := ⟨rfl, rfl⟩
  exact stitched_hunksFrom hfirst hstart htiles hlast

/-! ## Marked lines -/

section
variable {body more : List (Mark × String)} {h : Hunk} {hunks : List Hunk}

@[simp] theorem oldSide_append : oldSide (body ++ more) = oldSide body ++ oldSide more := by
  simp [oldSide]

@[simp] theorem newSide_append : newSide (body ++ more) = newSide body ++ newSide more := by
  simp [newSide]

theorem sides_marked (mark : Mark) (lines : List String) :
    oldSide (lines.map (mark, ·)) = (if mark = .added then [] else lines) ∧
      newSide (lines.map (mark, ·)) = if mark = .removed then [] else lines := by
  induction lines with
  | nil => cases mark <;> exact ⟨rfl, rfl⟩
  | cons line lines ih => cases mark <;> simp_all [oldSide, newSide]

theorem sides_flip (body : List (Mark × String)) :
    oldSide (body.map fun line => (line.1.flip, line.2)) = newSide body ∧
      newSide (body.map fun line => (line.1.flip, line.2)) = oldSide body := by
  induction body with
  | nil => exact ⟨rfl, rfl⟩
  | cons line body ih =>
    obtain ⟨mark, text⟩ := line
    cases mark <;> simp_all [oldSide, newSide, Mark.flip]

/-- Hunks whose sides are the lines at their places, with the same lines between them, from two
places up to the ends of the lists. -/
def Fits (a b : List String) : Nat → Nat → List Hunk → Prop
  | i, j, [] => a.drop i = b.drop j
  | i, j, h :: hunks =>
    (i ≤ h.oldStart ∧ j ≤ h.newStart ∧ linesBetween a i h.oldStart = linesBetween b j h.newStart) ∧
    (h.oldStop ≤ a.length ∧ oldSide h.body = linesBetween a h.oldStart h.oldStop) ∧
    (h.newStop ≤ b.length ∧ newSide h.body = linesBetween b h.newStart h.newStop) ∧
    Fits a b h.oldStop h.newStop hunks

theorem Fits.flip (h : Fits a b i j hunks) : Fits b a j i (hunks.map Hunk.flip) := by
  induction hunks generalizing i j with
  | nil => exact h.symm
  | cons first hunks ih =>
    obtain ⟨⟨hi, hj, hlines⟩, hold, hnew, hrest⟩ := h
    have hsides := sides_flip first.body
    have holdStop : first.flip.oldStop = first.newStop := by
      rw [Hunk.oldStop, Hunk.flip, hsides.1, Hunk.newStop]
    have hnewStop : first.flip.newStop = first.oldStop := by
      rw [Hunk.newStop, Hunk.flip, hsides.2, Hunk.oldStop]
    rw [List.map_cons, Fits, holdStop, hnewStop]
    refine ⟨⟨hj, hi, hlines.symm⟩, ⟨hnew.1, ?_⟩, ⟨hold.1, ?_⟩, ih hrest⟩
    · exact hsides.1.trans hnew.2
    · exact hsides.2.trans hold.2

/-- Hunks that fit turn the first list into the second. -/
theorem patchFrom_of_fits (h : Fits a b i j hunks) :
    patchFrom i hunks (a.drop i) = some (b.drop j) := by
  induction hunks generalizing i j with
  | nil =>
    rw [patchFrom, show a.drop i = b.drop j from h]
  | cons first hunks ih =>
    obtain ⟨⟨hi, hj, hlines⟩, ⟨hastop, hold⟩, ⟨hbstop, hnew⟩, hrest⟩ := h
    have hastart : first.oldStart ≤ first.oldStop := Nat.le_add_right _ _
    have hbstart : first.newStart ≤ first.newStop := Nat.le_add_right _ _
    have hskip : (a.drop i).drop (first.oldStart - i) = a.drop first.oldStart := by
      rw [List.drop_drop, Nat.add_sub_cancel' hi]
    have hafter : (a.drop i).drop (first.oldStart - i + (oldSide first.body).length) =
        a.drop first.oldStop := by
      rw [← List.drop_drop, hskip, List.drop_drop, Hunk.oldStop]
    have hthere : oldSide first.body <+: a.drop first.oldStart := by
      rw [hold, ← linesBetween_drop hastart hastop]
      exact List.prefix_append _ _
    have hroom : first.oldStart - i ≤ (a.drop i).length := by
      rw [List.length_drop]
      omega
    rw [patchFrom, hskip, hafter, if_pos ⟨hi, hroom, hthere⟩, ih hrest, Option.map_some]
    have hcopied : (a.drop i).take (first.oldStart - i) = linesBetween b j first.newStart := hlines
    rw [hcopied, hnew, List.append_assoc, linesBetween_drop hbstart hbstop,
      linesBetween_drop hj (Nat.le_trans hbstart hbstop)]

/-! ## Hunks as they are written -/

def Edit.marked (a b : List String) (e : Edit) : List (Mark × String) :=
  let removed := (linesBetween a e.i₁ e.i₂).map (Mark.removed, ·)
  let added := (linesBetween b e.j₁ e.j₂).map (Mark.added, ·)
  match e.change with
  | .equal => (linesBetween a e.i₁ e.i₂).map (Mark.kept, ·)
  | .delete => removed
  | .insert => added
  | .replace => removed ++ added

theorem Edit.lines_eq (a b : List String) (e : Edit) :
    e.lines a b = (e.marked a b).map fun line => line.1.sign ++ line.2 := by
  unfold Edit.lines Edit.marked
  cases e.change <;> simp [Mark.sign, Function.comp_def]

theorem Edit.Sound.sides (h : e.Sound a b) :
    oldSide (e.marked a b) = linesBetween a e.i₁ e.i₂ ∧
      newSide (e.marked a b) = linesBetween b e.j₁ e.j₂ := by
  have hremoved := sides_marked .removed (linesBetween a e.i₁ e.i₂)
  have hadded := sides_marked .added (linesBetween b e.j₁ e.j₂)
  unfold Edit.marked
  cases hchange : e.change with
  | equal =>
    have hkept := sides_marked .kept (linesBetween a e.i₁ e.i₂)
    exact ⟨hkept.1, hkept.2.trans (h.equal hchange).lines⟩
  | delete =>
    refine ⟨hremoved.1, hremoved.2.trans ?_⟩
    rw [h.delete hchange, linesBetween_self]
    rfl
  | insert =>
    refine ⟨hadded.1.trans ?_, hadded.2⟩
    rw [h.insert hchange, linesBetween_self]
    rfl
  | replace =>
    dsimp only
    rw [oldSide_append, newSide_append, hremoved.1, hremoved.2, hadded.1, hadded.2]
    simp

/-- Edits as a hunk of marked lines. -/
def hunkOf (a b : List String) (edits : List Edit) : Hunk :=
  ⟨(edits.head?.map Edit.i₁).getD 0, (edits.head?.map Edit.j₁).getD 0,
    edits.flatMap (Edit.marked a b)⟩

theorem Tiles.sides {edits : List Edit} (h : Tiles a b i j edits i₁ j₁) :
    oldSide (edits.flatMap (Edit.marked a b)) = linesBetween a i i₁ ∧
      newSide (edits.flatMap (Edit.marked a b)) = linesBetween b j j₁ := by
  induction edits generalizing i j with
  | nil =>
    obtain ⟨rfl, rfl⟩ := h
    rw [linesBetween_self, linesBetween_self]
    exact ⟨rfl, rfl⟩
  | cons e rest ih =>
    obtain ⟨⟨rfl, rfl⟩, hsound, hrest⟩ := h
    have hle := hrest.le
    rw [List.flatMap_cons, oldSide_append, newSide_append, (ih hrest).1, (ih hrest).2,
      hsound.sides.1, hsound.sides.2, linesBetween_append a hsound.a_le hle.1,
      linesBetween_append b hsound.b_le hle.2]
    exact ⟨rfl, rfl⟩

theorem Tiles.last {edits : List Edit} (h : Tiles a b i j edits i₁ j₁) {last : Edit}
    (hlast : edits.getLast? = some last) : last.i₂ = i₁ ∧ last.j₂ = j₁ ∧ last.Sound a b := by
  induction edits generalizing i j with
  | nil => exact nomatch hlast
  | cons e rest ih =>
    obtain ⟨-, hsound, hrest⟩ := h
    cases rest with
    | nil =>
      obtain rfl := Option.some.inj hlast
      exact ⟨hrest.1, hrest.2, hsound⟩
    | cons next rest => exact ih hrest (by rwa [List.getLast?_cons_cons] at hlast)

/-- Where a hunk of edits starts and ends. -/
theorem Tiles.hunkOf {edits : List Edit} (h : Tiles a b i j edits i₁ j₁) (hne : edits ≠ []) :
    ((Diff.hunkOf a b edits).oldStart = i ∧ (Diff.hunkOf a b edits).newStart = j) ∧
      ((Diff.hunkOf a b edits).oldStop = i₁ ∧ (Diff.hunkOf a b edits).newStop = j₁) ∧
      i₁ ≤ a.length ∧ j₁ ≤ b.length := by
  obtain ⟨hi, hj⟩ := h.le
  have hsides := h.sides
  obtain ⟨rfl, rfl, hsound⟩ := h.last (List.getLast?_eq_some_getLast hne)
  have hstart : (Diff.hunkOf a b edits).oldStart = i ∧ (Diff.hunkOf a b edits).newStart = j := by
    cases edits with
    | nil => exact absurd rfl hne
    | cons e rest => exact h.1
  have ha := length_linesBetween hsound.a_stop (i := i)
  have hb := length_linesBetween hsound.b_stop (i := j)
  rw [← hsides.1] at ha
  rw [← hsides.2] at hb
  refine ⟨hstart, ⟨?_, ?_⟩, hsound.a_stop, hsound.b_stop⟩
  · rw [Hunk.oldStop, hstart.1]
    exact (congrArg (i + ·) ha).trans (by omega)
  · rw [Hunk.newStop, hstart.2]
    exact (congrArg (j + ·) hb).trans (by omega)

theorem fits_of_stitched {found : List (List Edit)} (h : Stitched a b i j found) :
    Fits a b i j (found.map (Diff.hunkOf a b)) := by
  induction found generalizing i j with
  | nil =>
    have hlines := Same.lines h
    rwa [linesBetween_length, linesBetween_length] at hlines
  | cons edits found ih =>
    obtain ⟨i₁, j₁, i₂, j₂, hskip, htiles, hne, hrest⟩ := h
    obtain ⟨hstart, hstop, ha, hb⟩ := htiles.hunkOf hne
    rw [List.map_cons, Fits, hstart.1, hstart.2, hstop.1, hstop.2]
    have hsides := htiles.sides
    have hskipped := hskip.lines
    obtain ⟨n, rfl, rfl, -⟩ := hskip
    exact ⟨⟨Nat.le_add_right _ _, Nat.le_add_right _ _, hskipped⟩, ⟨ha, hsides.1⟩, ⟨hb, hsides.2⟩,
      ih hrest⟩

theorem hunkLines_eq {edits : List Edit} (h : Tiles a b i j edits i₁ j₁) (hne : edits ≠ []) :
    hunkLines a b edits = (Diff.hunkOf a b edits).lines := by
  obtain ⟨hstart, hstop, -⟩ := h.hunkOf hne
  have hlast := List.getLast?_eq_some_getLast hne
  obtain ⟨hi₁, hj₁, -⟩ := h.last hlast
  have hbody : edits.flatMap (Edit.lines a b) =
      (edits.flatMap (Edit.marked a b)).map fun line => line.1.sign ++ line.2 := by
    rw [List.map_flatMap]
    exact List.flatMap_congr fun e _ => Edit.lines_eq a b e
  rw [Hunk.lines, Hunk.head, hstart.1, hstart.2, hstop.1, hstop.2, Diff.hunkOf, ← hbody]
  cases edits with
  | nil => exact absurd rfl hne
  | cons e rest =>
    obtain ⟨⟨rfl, rfl⟩, -⟩ := h
    unfold hunkLines
    rw [hlast]
    dsimp only
    rw [hi₁, hj₁]
    rfl

theorem flatMap_hunkLines {found : List (List Edit)} (h : Stitched a b i j found) :
    found.flatMap (hunkLines a b) = (found.map (Diff.hunkOf a b)).flatMap Hunk.lines := by
  induction found generalizing i j with
  | nil => rfl
  | cons edits found ih =>
    obtain ⟨i₁, j₁, i₂, j₂, -, htiles, hne, hrest⟩ := h
    rw [List.flatMap_cons, List.map_cons, List.flatMap_cons, hunkLines_eq htiles hne, ih hrest]

end

/-! ## Texts -/

theorem flatten_linesFrom (line cs : List Char) :
    (Text.linesFrom line cs).flatten = line.reverse ++ cs := by
  fun_induction Text.linesFrom line cs with
  | case1 line hempty => simp_all
  | case2 line hempty => simp
  | case3 line rest ih => simp [ih]
  | case4 line c rest _ hend ih => simp [ih]
  | case5 line c rest _ hend ih => simp [ih]

/-- The lines of a text with their ends are the text. -/
theorem join_linesWithEnds (text : String) : String.join (Text.linesWithEnds text) = text := by
  apply String.toList_inj.mp
  rw [String.toList_join, Text.linesWithEnds, List.flatMap_map]
  simpa [List.flatMap_def] using flatten_linesFrom [] text.toList

/-- What a difference says: hunks that turn the old text into the new one, and back. -/
structure Describes (name old new diff : String) (hunks : List Hunk) : Prop where
  text : diff = if hunks = [] then ""
    else String.join (("--- " ++ name) :: ("+++ " ++ name) :: hunks.flatMap Hunk.lines)
  forward : patch hunks old = some new
  backward : patch (hunks.map Hunk.flip) new = some old

theorem patch_of_fits {old new : String} {hunks : List Hunk}
    (h : Fits (Text.linesWithEnds old) (Text.linesWithEnds new) 0 0 hunks) :
    patch hunks old = some new := by
  have hlines := patchFrom_of_fits h
  rw [List.drop_zero, List.drop_zero] at hlines
  rw [patch, hlines, Option.map_some, join_linesWithEnds]

/-- Every difference of two texts describes the change from one to the other. -/
theorem exists_describes (name old new : String) :
    ∃ hunks, Describes name old new (unified old new name) hunks := by
  have hstitched := stitched_hunks (Text.linesWithEnds old) (Text.linesWithEnds new)
  have hfits := fits_of_stitched hstitched
  refine ⟨_, ?_, patch_of_fits hfits, patch_of_fits hfits.flip⟩
  rw [← flatMap_hunkLines hstitched]
  unfold unified
  dsimp only
  split
  · rename_i hnone
    rw [hnone]
    rfl
  · rename_i found hsome
    rw [if_neg (by simpa using hsome)]
    rfl

end DesignLens.Diff
