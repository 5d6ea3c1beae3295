import DesignLens.Proofs.ReportedCategory

/-!
# Introductions of one category

A request for a pattern, or for an architecture, is passed on under the canonical name. A canonical
name stays what it is when it is made canonical again, so the generator chosen then is the one that
was chosen before, and the request comes to what the plain request comes to.
-/

namespace DesignLens.Scaffold

open Workspace Naming
open Advice (Category)

/-- The generator for a name is one of the category; a name that stands for both is a pattern. -/
def Workshop.Makes (w : Workshop) : Category → String → Prop
  | .pattern, name => canonical name ∈ Table.keys w.patterns
  | .architecture, name =>
    canonical name ∉ Table.keys w.patterns ∧ canonical name ∈ Table.keys w.architectures

theorem makes_iff_select {w : Workshop} {category : Category} {name : String} :
    w.Makes category name ↔ ∃ g, w.select name = some (category, canonical name, g) := by
  unfold Workshop.select
  dsimp only
  cases hpattern : Table.find? (canonical name) w.patterns with
  | some g =>
    have hmem := Table.mem_keys_of_find? hpattern
    cases category <;> simp [Workshop.Makes, hmem]
  | none =>
    have hmem := Table.find?_eq_none_iff.mp hpattern
    cases harchitecture : Table.find? (canonical name) w.architectures with
    | some g =>
      have hmem' := Table.mem_keys_of_find? harchitecture
      cases category <;> simp [Workshop.Makes, hmem, hmem']
    | none =>
      have hmem' := Table.find?_eq_none_iff.mp harchitecture
      cases category <;> simp [Workshop.Makes, hmem, hmem']

/-- Beyond the choice of the generator, the name of a request does not matter. -/
theorem draft_rename {w : Workshop} {r : Request} {name : String}
    (hselect : w.select name = w.select (r.name.getD "")) (hsome : w.select name ≠ none) :
    w.draft { r with name := some name } = w.draft r := by
  obtain ⟨chosen, hchosen⟩ := Option.ne_none_iff_exists'.mp hsome
  unfold Workshop.draft
  rw [← hselect, Option.getD_some, hchosen]

theorem place_rename (w : Workshop) (t : Tree) (r : Request) (name : Option String) (d : Draft) :
    w.place t { r with name := name } d = w.place t r d := by
  have htarget : Request.target { r with name := name } = r.target := rfl
  unfold Workshop.place Workshop.change Request.nothingToDo
  rw [htarget]

theorem introduce_rename {w : Workshop} {t : Tree} {r : Request} {name : String}
    (hselect : w.select name = w.select (r.name.getD "")) (hsome : w.select name ≠ none) :
    w.introduce t { r with name := some name } = w.introduce t r := by
  unfold Workshop.introduce
  rw [draft_rename hselect hsome]
  cases w.draft r with
  | error answer => rfl
  | ok d => exact place_rename w t r (some name) d

theorem introduceOnly_of_makes {w : Workshop} {wanted : Category} {t : Tree} {r : Request}
    (h : w.Makes wanted (r.name.getD "")) : w.introduceOnly wanted t r = w.introduce t r := by
  obtain ⟨g, hg⟩ := makes_iff_select.mp h
  have hcanonical := select_canonical w (r.name.getD "")
  have hsome : w.select (canonical (r.name.getD "")) ≠ none := by
    rw [hcanonical, hg]
    exact Option.some_ne_none _
  -- The request that is passed on has another name, but the same generator is chosen for it.
  unfold Workshop.introduceOnly
  dsimp only
  rw [hg]
  exact (if_pos rfl).trans (introduce_rename hcanonical hsome)

theorem introduceOnly_of_not_makes {w : Workshop} {wanted : Category} {t : Tree} {r : Request}
    (h : ¬ w.Makes wanted (r.name.getD "")) :
    ∃ error, w.introduceOnly wanted t r = (t, .ok (.refused error r.name)) := by
  unfold Workshop.introduceOnly
  dsimp only
  split
  · exact ⟨_, rfl⟩
  · rename_i category name g hselect
    refine ⟨_, if_neg ?_⟩
    rintro rfl
    exact h (makes_iff_select.mpr ⟨g, (select_eq_some hselect).1 ▸ hselect⟩)

/-- Canonical names are final, so a request for one category comes to what the plain request comes
to, answer and files alike, if the name stands for something of this category, and is refused
without a change to any file if not. -/
theorem introduceOnly_is_introduce (w : Workshop) (wanted : Category) (t : Tree) (r : Request) :
    (∀ name, canonical (canonical name) = canonical name) ∧
      (w.Makes wanted (r.name.getD "") → w.introduceOnly wanted t r = w.introduce t r) ∧
      (¬ w.Makes wanted (r.name.getD "") →
        ∃ error, w.introduceOnly wanted t r = (t, .ok (.refused error r.name))) :=
  ⟨canonical_canonical, introduceOnly_of_makes, introduceOnly_of_not_makes⟩

/-- A request under a spelling of its own for a new file. -/
def spelledRequest : Request := ⟨some " 3-Tier\t", "m.py", false, none⟩

theorem introduceOnly_is_introduce_spelled :
    Workshop.stocked.Makes .architecture " 3-Tier\t" ∧
      Workshop.stocked.introduceOnly .architecture ⟨[], []⟩ spelledRequest =
        Workshop.stocked.introduce ⟨[], []⟩ spelledRequest ∧
      ¬ Workshop.stocked.Makes .pattern " 3-Tier\t" ∧
      ∃ error, Workshop.stocked.introduceOnly .pattern ⟨[], []⟩ spelledRequest =
        (⟨[], []⟩, .ok (.refused error (some " 3-Tier\t"))) := by
  have hcanonical : canonical " 3-Tier\t" = "three_tier" := by decide
  have hpattern : ¬ Workshop.stocked.Makes .pattern " 3-Tier\t" := by
    rw [Workshop.Makes, hcanonical]
    decide
  have harchitecture : Workshop.stocked.Makes .architecture " 3-Tier\t" := by
    refine ⟨hpattern, ?_⟩
    rw [hcanonical]
    decide
  exact ⟨harchitecture,
    (introduceOnly_is_introduce _ .architecture _ spelledRequest).2.1 harchitecture, hpattern,
    (introduceOnly_is_introduce _ .pattern _ spelledRequest).2.2 hpattern⟩

end DesignLens.Scaffold
