import Mathlib.Data.List.Forall2
import Mathlib.Data.List.Perm.Basic

/-!
# Attempts

Something that may fail is attempted, alone or for the items of a list one after another. The first
failure ends it.
-/

namespace DesignLens

variable {ε α β : Type}

/-- A chain of two attempts succeeds if both do. -/
theorem bind_eq_ok {x : Except ε α} {f : α → Except ε β} {b : β} :
    x >>= f = .ok b ↔ ∃ a, x = .ok a ∧ f a = .ok b := by
  cases x <;> simp [bind, Except.bind]

theorem map_eq_ok {x : Except ε α} {f : α → β} {b : β} :
    x.map f = .ok b ↔ ∃ a, x = .ok a ∧ f a = b := by
  cases x <;> simp [Except.map]

theorem pure_eq_ok {a b : α} : (pure a : Except ε α) = .ok b ↔ a = b := by
  simp [pure, Except.pure]

theorem bind_eq_error {x : Except ε α} {f : α → Except ε β} {e : ε} :
    x >>= f = .error e ↔ x = .error e ∨ ∃ a, x = .ok a ∧ f a = .error e := by
  cases x <;> simp [bind, Except.bind]

theorem map_eq_error {x : Except ε α} {f : α → β} {e : ε} :
    x.map f = .error e ↔ x = .error e := by
  cases x <;> simp [Except.map]

/-- The attempts for a list succeed if each of them does. -/
theorem mapM_eq_ok {f : α → Except ε β} {items : List α} {results : List β} :
    items.mapM f = .ok results ↔ List.Forall₂ (fun a b => f a = .ok b) items results := by
  induction items generalizing results with
  | nil => rw [List.mapM_nil, pure_eq_ok, List.forall₂_nil_left_iff, eq_comm]
  | cons a items ih =>
    rw [List.mapM_cons, bind_eq_ok, List.forall₂_cons_left_iff]
    simp only [bind_eq_ok, pure_eq_ok, ih]
    constructor
    · rintro ⟨b, hb, bs, hbs, rfl⟩
      exact ⟨b, bs, hb, hbs, rfl⟩
    · rintro ⟨b, bs, hb, hbs, rfl⟩
      exact ⟨b, hb, bs, hbs, rfl⟩

theorem exists_of_forall₂ {R : α → β → Prop} {items : List α} {results : List β}
    (h : List.Forall₂ R items results) {a : α} (ha : a ∈ items) : ∃ b ∈ results, R a b := by
  induction h with
  | nil => exact absurd ha List.not_mem_nil
  | @cons first b items results hfirst _ ih =>
    rcases List.mem_cons.mp ha with rfl | ha
    · exact ⟨b, List.mem_cons_self, hfirst⟩
    · obtain ⟨b, hb, hab⟩ := ih ha
      exact ⟨b, List.mem_cons_of_mem _ hb, hab⟩

/-- Every result comes from an item. -/
theorem exists_of_mem_mapM {f : α → Except ε β} {items : List α} {results : List β}
    (h : items.mapM f = .ok results) {b : β} (hb : b ∈ results) : ∃ a ∈ items, f a = .ok b :=
  exists_of_forall₂ (mapM_eq_ok.mp h).flip hb

theorem exists_mapM_eq_ok {f : α → Except ε β} {items : List α}
    (h : ∀ a ∈ items, ∃ b, f a = .ok b) : ∃ results, items.mapM f = .ok results := by
  induction items with
  | nil => exact ⟨[], rfl⟩
  | cons a items ih =>
    obtain ⟨⟨b, hb⟩, hrest⟩ := List.forall_mem_cons.mp h
    obtain ⟨results, hresults⟩ := ih hrest
    exact ⟨b :: results, mapM_eq_ok.mpr (.cons hb (mapM_eq_ok.mp hresults))⟩

/-- What is attempted in two rounds for a list is attempted for each item in turn. -/
theorem exists_mapM_mapM {γ : Type} {f : α → Except ε β} {g : β → Except ε γ}
    {items : List α} {results : List γ} :
    (∃ middle, items.mapM f = .ok middle ∧ middle.mapM g = .ok results) ↔
      List.Forall₂ (fun a c => f a >>= g = .ok c) items results := by
  simp only [mapM_eq_ok]
  induction items generalizing results with
  | nil => simp only [List.forall₂_nil_left_iff, exists_eq_left]
  | cons a items ih =>
    constructor
    · rintro ⟨middle, hmiddle, hresults⟩
      obtain ⟨b, bs, hb, hbs, rfl⟩ := List.forall₂_cons_left_iff.mp hmiddle
      obtain ⟨c, cs, hc, hcs, rfl⟩ := List.forall₂_cons_left_iff.mp hresults
      exact .cons (bind_eq_ok.mpr ⟨b, hb, hc⟩) (ih.mp ⟨bs, hbs, hcs⟩)
    · intro h
      obtain ⟨c, cs, hc, hcs, rfl⟩ := List.forall₂_cons_left_iff.mp h
      obtain ⟨b, hb, hc⟩ := bind_eq_ok.mp hc
      obtain ⟨bs, hbs, hcs⟩ := ih.mpr hcs
      exact ⟨b :: bs, .cons hb hbs, .cons hc hcs⟩

/-- The first attempt that fails decides how the attempts for a list fail. -/
theorem mapM_eq_error {f : α → Except ε β} {items : List α} {e : ε} :
    items.mapM f = .error e ↔
      ∃ before a after, items = before ++ a :: after ∧ (∀ b ∈ before, ∃ c, f b = .ok c) ∧
        f a = .error e := by
  induction items with
  | nil => simp [pure, Except.pure]
  | cons first rest ih =>
    rw [List.mapM_cons]
    cases hfirst : f first with
    | error e' =>
      constructor
      · intro h
        have he : e' = e := Except.error.inj h
        exact ⟨[], first, rest, rfl, fun b hb => absurd hb List.not_mem_nil, he ▸ hfirst⟩
      · rintro ⟨before, a, after, hitems, hbefore, ha⟩
        cases before with
        | nil =>
          obtain ⟨rfl, -⟩ := List.cons.inj hitems
          have he : e' = e := Except.error.inj (hfirst.symm.trans ha)
          exact congrArg Except.error he
        | cons b before =>
          obtain ⟨rfl, -⟩ := List.cons.inj hitems
          obtain ⟨c, hc⟩ := hbefore first List.mem_cons_self
          exact absurd (hfirst.symm.trans hc) (by simp)
    | ok b =>
      have hstep : ((.ok b : Except ε β) >>= fun b => rest.mapM f >>= fun bs => pure (b :: bs)) =
          .error e ↔ rest.mapM f = .error e := by
        cases rest.mapM f <;> simp [bind, Except.bind, pure, Except.pure]
      rw [hstep, ih]
      constructor
      · rintro ⟨before, a, after, rfl, hbefore, ha⟩
        exact ⟨first :: before, a, after, rfl, List.forall_mem_cons.mpr ⟨⟨b, hfirst⟩, hbefore⟩, ha⟩
      · rintro ⟨before, a, after, hitems, hbefore, ha⟩
        cases before with
        | nil =>
          obtain ⟨rfl, -⟩ := List.cons.inj hitems
          exact absurd (hfirst.symm.trans ha) (by simp)
        | cons first' before =>
          obtain ⟨rfl, rfl⟩ := List.cons.inj hitems
          exact ⟨before, a, after, rfl, (List.forall_mem_cons.mp hbefore).2, ha⟩

/-- Attempts that succeed in one order succeed in every order. -/
theorem mapM_perm {f : α → Except ε β} {items items' : List α} {results : List β}
    (h : items.Perm items') (hresults : items.mapM f = .ok results) :
    ∃ results', items'.mapM f = .ok results' ∧ results.Perm results' := by
  obtain ⟨results', hall, hperm⟩ := List.perm_comp_forall₂ h.symm (mapM_eq_ok.mp hresults)
  exact ⟨results', mapM_eq_ok.mpr hall, hperm.symm⟩

/-- What is done to every result can be done to all of them at the end. -/
theorem mapM_map {γ : Type} (f : α → Except ε β) (g : β → γ) (items : List α) :
    items.mapM (fun a => (f a).map g) = (items.mapM f).map (List.map g) := by
  induction items with
  | nil => rfl
  | cons a items ih =>
    rw [List.mapM_cons, List.mapM_cons, ih]
    cases f a with
    | error e => rfl
    | ok b => cases items.mapM f <;> rfl

theorem mem_of_filterAuxM {p : α → Except ε Bool} {items acc chosen : List α}
    (h : items.filterAuxM p acc = .ok chosen) :
    ∀ a ∈ chosen, a ∈ acc ∨ a ∈ items ∧ p a = .ok true := by
  induction items generalizing acc with
  | nil =>
    obtain rfl := pure_eq_ok.mp h
    exact fun a ha => Or.inl ha
  | cons b items ih =>
    obtain ⟨keep, hkeep, h⟩ := bind_eq_ok.mp h
    intro a ha
    rcases ih h a ha with hacc | ⟨hitems, ha⟩
    · cases keep with
      | false => exact Or.inl hacc
      | true =>
        rcases List.mem_cons.mp hacc with rfl | hacc
        · exact Or.inr ⟨List.mem_cons_self, hkeep⟩
        · exact Or.inl hacc
    · exact Or.inr ⟨List.mem_cons_of_mem b hitems, ha⟩

/-- What is selected keeps its order. -/
theorem sublist_of_filterM {p : α → Except ε Bool} {items chosen : List α}
    (h : items.filterM p = .ok chosen) : chosen.Sublist items := by
  have haux : ∀ {items acc backwards : List α}, items.filterAuxM p acc = .ok backwards →
      ∃ selected : List α, selected.Sublist items ∧ backwards = selected.reverse ++ acc := by
    intro items
    induction items with
    | nil =>
      intro acc backwards h
      obtain rfl := pure_eq_ok.mp h
      exact ⟨[], List.Sublist.refl _, rfl⟩
    | cons a items ih =>
      intro acc backwards h
      obtain ⟨keep, -, h⟩ := bind_eq_ok.mp h
      obtain ⟨selected, hselected, rfl⟩ := ih h
      cases keep with
      | false => exact ⟨selected, hselected.cons a, rfl⟩
      | true => exact ⟨a :: selected, hselected.cons_cons a, by simp⟩
  obtain ⟨backwards, hbackwards, hchosen⟩ := bind_eq_ok.mp h
  obtain rfl := pure_eq_ok.mp hchosen
  obtain ⟨selected, hselected, rfl⟩ := haux hbackwards
  simpa using hselected

/-- What is selected are items of the list that pass the test. -/
theorem mem_of_filterM {p : α → Except ε Bool} {items chosen : List α}
    (h : items.filterM p = .ok chosen) {a : α} (ha : a ∈ chosen) : a ∈ items ∧ p a = .ok true := by
  obtain ⟨backwards, haux, hchosen⟩ := bind_eq_ok.mp h
  obtain rfl := pure_eq_ok.mp hchosen
  simpa using mem_of_filterAuxM haux a (List.mem_reverse.mp ha)

/-- A selection fails at an item that cannot be tested. -/
theorem exists_of_filterM_eq_error {p : α → Except ε Bool} {items : List α} {e : ε}
    (h : items.filterM p = .error e) : ∃ a ∈ items, p a = .error e := by
  have haux : ∀ {items acc : List α}, items.filterAuxM p acc = .error e →
      ∃ a ∈ items, p a = .error e := by
    intro items
    induction items with
    | nil => exact fun h => nomatch h
    | cons a items ih =>
      intro acc h
      rcases bind_eq_error.mp h with ha | ⟨keep, -, h⟩
      · exact ⟨a, List.mem_cons_self, ha⟩
      · obtain ⟨b, hb, he⟩ := ih h
        exact ⟨b, List.mem_cons_of_mem a hb, he⟩
  rcases bind_eq_error.mp h with h | ⟨backwards, -, h⟩
  · exact haux h
  · exact nomatch h

/-- Attempts to test the items of a list that all succeed select like the tests. -/
theorem filterM_eq_ok {p : α → Except ε Bool} {q : α → Bool} {items : List α}
    (h : ∀ a ∈ items, p a = .ok (q a)) : items.filterM p = .ok (items.filter q) := by
  have haux : ∀ {items acc : List α}, (∀ a ∈ items, p a = .ok (q a)) →
      items.filterAuxM p acc = .ok ((items.filter q).reverse ++ acc) := by
    intro items
    induction items with
    | nil =>
      intro acc _
      rfl
    | cons a items ih =>
      intro acc h
      obtain ⟨ha, hrest⟩ := List.forall_mem_cons.mp h
      rw [List.filterAuxM, ha]
      cases hq : q a with
      | false => simpa [bind, Except.bind, hq] using ih hrest
      | true => simpa [bind, Except.bind, hq] using ih hrest
  rw [List.filterM, haux h]
  simp [bind, Except.bind, pure, Except.pure]

/-- A selection item by item. -/
theorem filterM_cons (p : α → Except ε Bool) (a : α) (items : List α) :
    (a :: items).filterM p = p a >>= fun keep =>
      (items.filterM p).map fun chosen => if keep then a :: chosen else chosen := by
  have haux : ∀ items acc : List α, items.filterAuxM p acc =
      (items.filterM p).map fun chosen => chosen.reverse ++ acc := by
    intro items
    induction items with
    | nil => exact fun acc => rfl
    | cons b items ih =>
      intro acc
      rw [List.filterM, List.filterAuxM, List.filterAuxM]
      cases p b with
      | error e => rfl
      | ok keep =>
        simp only [bind, Except.bind]
        rw [ih, ih]
        cases items.filterM p <;> cases keep <;> simp [Except.map, pure, Except.pure]
  rw [List.filterM, List.filterAuxM]
  cases p a with
  | error e => rfl
  | ok keep =>
    simp only [bind, Except.bind]
    rw [haux]
    cases items.filterM p <;> cases keep <;> simp [Except.map, pure, Except.pure]

/-- An item is selected unless the test for it says no. -/
theorem mem_filterM_of_ne {p : α → Except ε Bool} {items chosen : List α}
    (h : items.filterM p = .ok chosen) {a : α} (ha : a ∈ items) (hp : p a ≠ .ok false) :
    a ∈ chosen := by
  have haux : ∀ {items acc backwards : List α}, items.filterAuxM p acc = .ok backwards →
      a ∈ items ∨ a ∈ acc → a ∈ backwards := by
    intro items
    induction items with
    | nil =>
      intro acc backwards h hmem
      obtain rfl := pure_eq_ok.mp h
      exact hmem.resolve_left List.not_mem_nil
    | cons b items ih =>
      intro acc backwards h hmem
      obtain ⟨keep, hkeep, h⟩ := bind_eq_ok.mp h
      refine ih h ?_
      rcases hmem with hmem | hmem
      · rcases List.mem_cons.mp hmem with rfl | hmem
        · cases keep with
          | false => exact absurd hkeep hp
          | true => exact Or.inr List.mem_cons_self
        · exact Or.inl hmem
      · cases keep with
        | false => exact Or.inr hmem
        | true => exact Or.inr (List.mem_cons_of_mem b hmem)
  obtain ⟨backwards, hbackwards, hchosen⟩ := bind_eq_ok.mp h
  obtain rfl := pure_eq_ok.mp hchosen
  exact List.mem_reverse.mpr (haux hbackwards (Or.inl ha))

theorem anyM_eq_ok {p : α → Except ε Bool} {q : α → Bool} {items : List α}
    (h : ∀ a ∈ items, p a = .ok (q a)) : items.anyM p = .ok (items.any q) := by
  induction items with
  | nil => rfl
  | cons a items ih =>
    obtain ⟨ha, hrest⟩ := List.forall_mem_cons.mp h
    rw [List.anyM, ha, List.any_cons]
    cases hq : q a with
    | false => simpa [bind, Except.bind] using ih hrest
    | true => rfl

end DesignLens
