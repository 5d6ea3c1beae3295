import DesignLens.Proofs.Texts
import DesignLens.Table
import Mathlib.Data.List.Nodup

/-!
# Entries of tables

How the entries of a table are seen through look-ups and through its names. A table in which names
do not repeat is determined by its look-ups, and putting an entry in keeps it so. Sorted by name, it
is determined by its entries in whatever order.
-/

namespace DesignLens.Table

variable {α : Type}

theorem mem_keys {name : String} {t : Table α} : name ∈ keys t ↔ ∃ v, (name, v) ∈ t := by
  simp [keys]

theorem contains_iff_mem_keys {name : String} {t : Table α} :
    contains name t = true ↔ name ∈ keys t := by
  simp [contains, keys]

theorem find?_cons (name k : String) (v : α) (t : Table α) :
    find? name ((k, v) :: t) = if k = name then some v else find? name t := by
  by_cases h : k = name <;> simp [find?, h]

theorem find?_eq_none_iff {name : String} {t : Table α} : find? name t = none ↔ name ∉ keys t := by
  induction t with
  | nil => simp [find?, keys]
  | cons entry rest ih =>
    rw [find?_cons]
    by_cases h : entry.1 = name
    · simp [keys, h]
    · simpa [keys, h, Ne.symm h] using ih

theorem mem_of_find? {name : String} {t : Table α} {v : α} (h : find? name t = some v) :
    (name, v) ∈ t := by
  induction t with
  | nil => simp [find?] at h
  | cons entry rest ih =>
    rw [find?_cons] at h
    split at h
    · rename_i hk
      simp only [Option.some.injEq] at h
      rw [← hk, ← h]
      exact List.mem_cons_self
    · exact List.mem_cons_of_mem _ (ih h)

theorem mem_keys_of_find? {name : String} {t : Table α} {v : α} (h : find? name t = some v) :
    name ∈ keys t :=
  mem_keys.mpr ⟨v, mem_of_find? h⟩

/-- Names that do not repeat make every entry the one that is found. -/
theorem find?_of_mem {name : String} {t : Table α} {v : α} (hn : (keys t).Nodup)
    (h : (name, v) ∈ t) : find? name t = some v := by
  induction t with
  | nil => simp at h
  | cons entry rest ih =>
    simp only [keys, List.map_cons, List.nodup_cons] at hn
    rw [find?_cons]
    rcases List.mem_cons.mp h with h | h
    · simp [← h]
    · have hne : entry.1 ≠ name := by
        intro he
        exact hn.1 (he ▸ List.mem_map_of_mem h)
      rw [if_neg hne]
      exact ih hn.2 h

theorem find?_insert (name other : String) (v : α) (t : Table α) :
    find? other (insert name v t) = if name = other then some v else find? other t := by
  by_cases h : name = other
  · rw [if_pos h, ← h, find?_insert_self]
  · rw [if_neg h, find?_insert_of_ne (Ne.symm h)]

theorem insert_insert (name : String) (v w : α) (t : Table α) :
    insert name v (insert name w t) = insert name v t := by
  induction t with
  | nil => simp [insert]
  | cons entry rest ih =>
    by_cases h : entry.1 = name
    · simp [insert, h]
    · simp [insert, h, ih]

theorem mem_of_mem_insert {name : String} {v : α} {t : Table α} {entry : String × α}
    (h : entry ∈ insert name v t) : entry = (name, v) ∨ entry ∈ t := by
  induction t with
  | nil => exact Or.inl (List.mem_singleton.mp h)
  | cons first rest ih =>
    rw [insert] at h
    split_ifs at h with hname
    · rcases List.mem_cons.mp h with rfl | h
      · exact Or.inl (by rw [hname])
      · exact Or.inr (List.mem_cons_of_mem _ h)
    · rcases List.mem_cons.mp h with rfl | h
      · exact Or.inr List.mem_cons_self
      · exact (ih h).imp_right (List.mem_cons_of_mem _)

theorem keys_insert_of_mem {name : String} {t : Table α} (v : α) (h : name ∈ keys t) :
    keys (insert name v t) = keys t := by
  induction t with
  | nil => simp [keys] at h
  | cons entry rest ih =>
    by_cases hk : entry.1 = name
    · simp [insert, keys, hk]
    · have hr : name ∈ keys rest := by simpa [keys, Ne.symm hk] using h
      have hi := ih hr
      simp only [keys] at hi
      simp [insert, keys, hk, hi]

theorem insert_of_not_mem {name : String} {t : Table α} (v : α) (h : name ∉ keys t) :
    insert name v t = t ++ [(name, v)] := by
  induction t with
  | nil => rfl
  | cons entry rest ih =>
    obtain ⟨k, w⟩ := entry
    simp only [keys, List.map_cons, List.mem_cons, not_or] at h
    rw [insert, if_neg (Ne.symm h.1), ih h.2]
    rfl

theorem keys_insert_of_not_mem {name : String} {t : Table α} (v : α) (h : name ∉ keys t) :
    keys (insert name v t) = keys t ++ [name] := by
  induction t with
  | nil => simp [insert, keys]
  | cons entry rest ih =>
    have hk : entry.1 ≠ name := by
      intro he
      exact h (by simp [keys, he])
    have hr : name ∉ keys rest := by
      intro hm
      exact h (by simpa [keys] using Or.inr (by simpa [keys] using hm))
    have hi := ih hr
    simp only [keys] at hi
    simp [insert, keys, hk, hi]

theorem mem_keys_insert {name other : String} {v : α} {t : Table α} :
    other ∈ keys (insert name v t) ↔ other = name ∨ other ∈ keys t := by
  by_cases h : name ∈ keys t
  · rw [keys_insert_of_mem v h]
    constructor
    · exact Or.inr
    · rintro (rfl | ho)
      · exact h
      · exact ho
  · rw [keys_insert_of_not_mem v h, List.mem_append, List.mem_singleton, or_comm]

theorem nodup_keys_insert {name : String} {t : Table α} (v : α) (hn : (keys t).Nodup) :
    (keys (insert name v t)).Nodup := by
  by_cases h : name ∈ keys t
  · rwa [keys_insert_of_mem v h]
  · rw [keys_insert_of_not_mem v h, List.nodup_append]
    refine ⟨hn, List.nodup_singleton _, ?_⟩
    intro a ha b hb
    rw [List.mem_singleton] at hb
    rintro rfl
    exact h (hb ▸ ha)

theorem keys_erase (name : String) (t : Table α) :
    keys (erase name t) = (keys t).filter fun other => other != name := by
  rw [keys, erase, keys, List.filter_map]
  rfl

theorem overlay_cons (t : Table α) (entry : String × α) (new : Table α) :
    overlay t (entry :: new) = overlay (insert entry.1 entry.2 t) new := rfl

/-- What is put into a table hides what was there under the same names. -/
theorem find?_overlay {new : Table α} (hn : (keys new).Nodup) (t : Table α) (name : String) :
    find? name (overlay t new) = (find? name new).or (find? name t) := by
  induction new generalizing t with
  | nil => rfl
  | cons entry new ih =>
    obtain ⟨k, v⟩ := entry
    simp only [keys, List.map_cons, List.nodup_cons] at hn
    rw [overlay_cons, ih hn.2, find?_insert, find?_cons]
    by_cases h : k = name
    · have hnone : find? name new = none := find?_eq_none_iff.mpr (h ▸ hn.1)
      rw [if_pos h, if_pos h, hnone]
      rfl
    · rw [if_neg h, if_neg h]

/-! ## Sorting by name -/

/-- Names that do not repeat are in strict order after sorting. -/
theorem pairwise_lt_mergeSort {t : Table α} (hn : (keys t).Nodup) :
    (t.mergeSort fun a b => decide (a.1 ≤ b.1)).Pairwise fun a b => a.1 < b.1 := by
  have htrans : ∀ a b c : String × α, decide (a.1 ≤ b.1) = true → decide (b.1 ≤ c.1) = true →
      decide (a.1 ≤ c.1) = true := by
    intro a b c hab hbc
    exact decide_eq_true (String.le_trans (of_decide_eq_true hab) (of_decide_eq_true hbc))
  have htotal : ∀ a b : String × α, (decide (a.1 ≤ b.1) || decide (b.1 ≤ a.1)) = true := by
    intro a b
    rcases String.le_total a.1 b.1 with h | h <;> simp [h]
  have hsorted := List.pairwise_mergeSort htrans htotal t
  have hdistinct : (t.mergeSort fun a b => decide (a.1 ≤ b.1)).Pairwise fun a b => a.1 ≠ b.1 :=
    List.pairwise_map.mp (((List.mergeSort_perm t _).map Prod.fst).nodup_iff.mpr hn)
  exact (hsorted.and hdistinct).imp fun hab => Text.lt_of_le_of_ne (of_decide_eq_true hab.1) hab.2

/-- Sorting forgets the order in which the entries were. -/
theorem mergeSort_eq_of_perm {t t' : Table α} (hn : (keys t).Nodup) (h : t.Perm t') :
    (t.mergeSort fun a b => decide (a.1 ≤ b.1)) = t'.mergeSort fun a b => decide (a.1 ≤ b.1) := by
  have hperm := (List.mergeSort_perm t fun a b => decide (a.1 ≤ b.1)).trans
    (h.trans (List.mergeSort_perm t' fun a b => decide (a.1 ≤ b.1)).symm)
  have hn' : (keys t').Nodup := (h.map Prod.fst).nodup_iff.mp hn
  refine hperm.eq_of_pairwise ?_ (pairwise_lt_mergeSort hn) (pairwise_lt_mergeSort hn')
  intro a b _ _ hab hba
  exact absurd hab (String.lt_asymm hba)

end DesignLens.Table
