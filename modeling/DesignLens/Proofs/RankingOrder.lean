import DesignLens.Proofs.Texts
import DesignLens.Ranking.Targets
import Mathlib.Data.List.Infix
import Mathlib.Data.List.Nodup
import Mathlib.Data.List.Perm.Subperm

/-!
# The order of rankings

A ranking goes by weight, heaviest first, and by name where weights are equal. Between different
names this is a strict total order, so a sorted ranking is determined by the names and weights in
it.
-/

namespace DesignLens.Ranking

/-- A name with its weight: what a ranking goes by. -/
abbrev Standing : Type := String × Nat

def Target.standing (t : Target) : Standing := (t.name, t.weight)

/-- The sorting order on standings. -/
def Standing.precedes (a b : Standing) : Bool :=
  b.2 < a.2 || (a.2 == b.2 && decide (a.1 ≤ b.1))

/-- Strictly before in a ranking. -/
def Outranks (a b : Standing) : Prop := b.2 < a.2 ∨ a.2 = b.2 ∧ a.1 < b.1

theorem Standing.precedes_iff {a b : Standing} :
    a.precedes b = true ↔ b.2 < a.2 ∨ a.2 = b.2 ∧ a.1 ≤ b.1 := by
  simp [precedes]

theorem Standing.precedes_trans (a b c : Standing) (hab : a.precedes b = true)
    (hbc : b.precedes c = true) : a.precedes c = true := by
  rw [precedes_iff] at hab hbc ⊢
  rcases hab with hab | ⟨hab, hn⟩ <;> rcases hbc with hbc | ⟨hbc, hm⟩
  · exact Or.inl (hbc.trans hab)
  · exact Or.inl (hbc ▸ hab)
  · exact Or.inl (hab ▸ hbc)
  · exact Or.inr ⟨hab.trans hbc, String.le_trans hn hm⟩

theorem Standing.precedes_total (a b : Standing) : (a.precedes b || b.precedes a) = true := by
  rw [Bool.or_eq_true, precedes_iff, precedes_iff]
  rcases Nat.lt_trichotomy a.2 b.2 with h | h | h
  · exact Or.inr (Or.inl h)
  · rcases String.le_total a.1 b.1 with hn | hn
    · exact Or.inl (Or.inr ⟨h, hn⟩)
    · exact Or.inr (Or.inr ⟨h.symm, hn⟩)
  · exact Or.inl (Or.inl h)

theorem outranks_of_precedes {a b : Standing} (h : a.precedes b = true) (hne : a.1 ≠ b.1) :
    Outranks a b := by
  rcases Standing.precedes_iff.mp h with h | ⟨h, hn⟩
  · exact Or.inl h
  · exact Or.inr ⟨h, Text.lt_of_le_of_ne hn hne⟩

theorem outranks_irrefl (a : Standing) : ¬ Outranks a a := by
  rintro (h | ⟨-, h⟩)
  · exact Nat.lt_irrefl _ h
  · exact String.lt_irrefl _ h

theorem outranks_trans {a b c : Standing} (hab : Outranks a b) (hbc : Outranks b c) :
    Outranks a c := by
  rcases hab with hab | ⟨hab, hn⟩ <;> rcases hbc with hbc | ⟨hbc, hm⟩
  · exact Or.inl (hbc.trans hab)
  · exact Or.inl (hbc ▸ hab)
  · exact Or.inl (hab ▸ hbc)
  · exact Or.inr ⟨hab.trans hbc, String.lt_trans hn hm⟩

/-- A greater weight keeps a name ahead of whatever it was ahead of. -/
theorem outranks_of_le {name : String} {v w : Nat} {b : Standing} (hle : v ≤ w)
    (h : Outranks (name, v) b) : Outranks (name, w) b := by
  rcases h with h | ⟨h, hn⟩
  · exact Or.inl (h.trans_le hle)
  · rcases hle.lt_or_eq with hlt | rfl
    · exact Or.inl (h ▸ hlt)
    · exact Or.inr ⟨h, hn⟩

/-- Sorting things with different names by their standings puts them in strict order. -/
theorem pairwise_outranks_mergeSort {β : Type} (f : β → Standing) (l : List β)
    (hn : (l.map fun b => (f b).1).Nodup) :
    (l.mergeSort fun a b => (f a).precedes (f b)).Pairwise fun a b => Outranks (f a) (f b) := by
  have hsorted := List.pairwise_mergeSort
    (fun a b c => Standing.precedes_trans (f a) (f b) (f c))
    (fun a b => Standing.precedes_total (f a) (f b)) l
  have hdiffer : (l.mergeSort fun a b => (f a).precedes (f b)).Pairwise
      fun a b => (f a).1 ≠ (f b).1 := by
    rw [← List.pairwise_map (f := fun b => (f b).1) (R := (· ≠ ·))]
    exact ((List.mergeSort_perm l _).map _).nodup_iff.mpr hn
  exact (hsorted.and hdiffer).imp fun h => outranks_of_precedes h.1 h.2

/-! ## First places -/

theorem nodup_of_pairwise_outranks {l : List Standing} (hl : l.Pairwise Outranks) : l.Nodup :=
  hl.imp fun h => by
    rintro rfl
    exact outranks_irrefl _ h

/-- What is ahead of one of the first is one of the first. -/
theorem mem_take_of_outranks {l : List Standing} (hl : l.Pairwise Outranks) {k : Nat}
    {x y : Standing} (hx : x ∈ l.take k) (hy : y ∈ l) (h : Outranks y x) : y ∈ l.take k := by
  rw [← List.take_append_drop k l, List.mem_append] at hy
  rcases hy with hy | hy
  · exact hy
  · rw [← List.take_append_drop k l, List.pairwise_append] at hl
    exact absurd (outranks_trans h (hl.2.2 x hx y hy)) (outranks_irrefl y)

instance (a b : Standing) : Decidable (Outranks a b) := inferInstanceAs (Decidable (_ ∨ _))

/-- What is ahead of a standing in a ranking. -/
def ahead (l : List Standing) (x : Standing) : List Standing := l.filter fun y => Outranks y x

theorem mem_ahead {l : List Standing} {x y : Standing} :
    y ∈ ahead l x ↔ y ∈ l ∧ Outranks y x := by
  rw [ahead, List.mem_filter, decide_eq_true_eq]

theorem length_ahead_lt {l : List Standing} (hl : l.Pairwise Outranks) {k : Nat} {x : Standing}
    (hx : x ∈ l.take k) : (ahead l x).length < k := by
  have hnodup : (x :: ahead l x).Nodup := by
    refine List.nodup_cons.mpr ⟨fun h => ?_, (nodup_of_pairwise_outranks hl).filter _⟩
    exact outranks_irrefl x (mem_ahead.mp h).2
  have hsubset : x :: ahead l x ⊆ l.take k := by
    intro y hy
    rcases List.mem_cons.mp hy with rfl | hy
    · exact hx
    · exact mem_take_of_outranks hl hx (mem_ahead.mp hy).1 (mem_ahead.mp hy).2
  calc (ahead l x).length < (x :: ahead l x).length := Nat.lt_succ_self _
    _ ≤ (l.take k).length := (hnodup.subperm hsubset).length_le
    _ ≤ k := List.length_take_le k l

/-- With fewer than so many ahead of it, a standing is one of the first so many. -/
theorem mem_take_of_length_ahead {l : List Standing} (hl : l.Pairwise Outranks) {k : Nat}
    {x : Standing} (hx : x ∈ l) (hk : (ahead l x).length < k) : x ∈ l.take k := by
  have hsplit := hx
  rw [← List.take_append_drop k l, List.mem_append] at hsplit
  rcases hsplit with h | h
  · exact h
  · exfalso
    have hlong : k < l.length := by
      by_contra hle
      rw [List.drop_eq_nil_of_le (Nat.le_of_not_lt hle)] at h
      exact List.not_mem_nil h
    have hsubset : l.take k ⊆ ahead l x := by
      intro y hy
      rw [← List.take_append_drop k l, List.pairwise_append] at hl
      exact mem_ahead.mpr ⟨List.mem_of_mem_take hy, hl.2.2 y hy x h⟩
    have hnodup : (l.take k).Nodup :=
      (nodup_of_pairwise_outranks hl).sublist (List.take_sublist k l)
    have hle : (l.take k).length ≤ (ahead l x).length := (hnodup.subperm hsubset).length_le
    rw [List.length_take_of_le hlong.le] at hle
    exact absurd hk (Nat.not_lt.mpr hle)

/-- A ranking whose members are in another one with all that is ahead of them there is an initial
segment of it. -/
theorem prefix_of_ahead_mem {f m : List Standing} (hf : f.Pairwise Outranks)
    (hm : m.Pairwise Outranks) (hsub : f ⊆ m)
    (hahead : ∀ x ∈ f, ∀ y ∈ m, Outranks y x → y ∈ f) : f <+: m := by
  induction f generalizing m with
  | nil => exact List.nil_prefix
  | cons x f ih =>
    cases m with
    | nil => exact absurd (hsub List.mem_cons_self) List.not_mem_nil
    | cons y m =>
      rw [List.pairwise_cons] at hf hm
      -- The head of the longer ranking is not behind that of the shorter one.
      have hxy : x = y := by
        rcases List.mem_cons.mp (hsub List.mem_cons_self) with h | h
        · exact h
        · have hyx := hm.1 x h
          rcases List.mem_cons.mp (hahead x List.mem_cons_self y List.mem_cons_self hyx) with h | h
          · exact h.symm
          · exact absurd (outranks_trans hyx (hf.1 y h)) (outranks_irrefl y)
      subst hxy
      have htail : f ⊆ m := by
        intro z hz
        rcases List.mem_cons.mp (hsub (List.mem_cons_of_mem x hz)) with h | h
        · exact absurd (hf.1 z hz) (h ▸ outranks_irrefl z)
        · exact h
      refine (List.prefix_cons_inj x).mpr (ih hf.2 hm.2 htail fun z hz y hy h => ?_)
      rcases List.mem_cons.mp
        (hahead z (List.mem_cons_of_mem x hz) y (List.mem_cons_of_mem x hy) h) with h | h
      · exact absurd (hm.1 y hy) (h ▸ outranks_irrefl y)
      · exact h

end DesignLens.Ranking
