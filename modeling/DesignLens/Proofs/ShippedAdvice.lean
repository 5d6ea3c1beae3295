import DesignLens.Proofs.AdviceLookup
import DesignLens.Proofs.RankingWeights
import DesignLens.Proofs.ShippedScaffolds

/-!
# The names that the library gives advice on

The advice of this library is on the names of the standing advice and on four more names, which only
detectors have. An indicator of a known kind speaks for all of them, and a ranking has no other
names except for one that is spoken for without any advice on it.
-/

namespace DesignLens.Advice

/-! ## Names with advice -/

/-- The names of the detectors that there is no standing advice on. -/
def detectorNames : List String :=
  ["Iterator (Alt)", "Template", "Hierarchical State Machine", "3-Tier Architecture"]

/-- The names that there may be advice on. -/
def advisedNames : List String :=
  Table.keys patternDefaults ++ (Table.keys architectureDefaults ++ detectorNames)

theorem summaries_advised : Table.keys Detection.summaries ⊆ advisedNames :=
  Scaffold.Spelt.subset (by repeat constructor) (by repeat constructor) (by decide)

/-- Advice on known names, each of them once in its category. -/
structure Maps.Named (m : Maps) : Prop where
  distinct : ∀ category, (Table.keys (m.of category)).Nodup
  advised : ∀ category, ∀ name ∈ Table.keys (m.of category), name ∈ advisedNames

theorem Maps.Named.insert {m : Maps} (h : m.Named) {name : String} (hname : name ∈ advisedNames)
    (text : String) : (m.insert name text).Named where
  distinct category := by
    rw [Maps.of_insert]
    split_ifs
    · exact Table.nodup_keys_insert text (h.distinct category)
    · exact h.distinct category
  advised category other hother := by
    rw [Maps.of_insert] at hother
    split_ifs at hother
    · rcases Table.mem_keys_insert.mp hother with rfl | hother
      · exact hname
      · exact h.advised category other hother
    · exact h.advised category other hother

theorem Maps.defaults_named : Maps.defaults.Named where
  distinct category := by
    cases category <;> decide
  advised category name hname := by
    cases category with
    | pattern => exact List.mem_append_left _ hname
    | architecture => exact List.mem_append_right _ (List.mem_append_left _ hname)

theorem Maps.shipped_named : Maps.shipped.Named := by
  refine Maps.build_induction Maps.defaults_named fun m hm entry hentry text _ => ?_
  refine hm.insert ?_ text
  obtain ⟨summary, hsummary, rfl⟩ := List.mem_map.mp hentry
  exact summaries_advised (Table.mem_keys.mpr ⟨summary.2, hsummary⟩)

/-- A description with any text gives a sentence. -/
theorem exists_firstSentence {description : String} {c : Char} (h : c ∈ description.toList)
    (hc : Text.isBlank c = false) : ∃ sentence, firstSentence description = some sentence := by
  obtain ⟨_, _, sentence, -, hsentence, -⟩ := exists_opens (Text.trim_ne_empty h hc)
  exact ⟨sentence, hsentence⟩

theorem summaries_described : ∀ text ∈ Table.values Detection.summaries,
    (text.toList.any fun c => !Text.isBlank c) = true :=
  Scaffold.Spelt.forall_toList (p := fun cs => cs.any fun c => !Text.isBlank c)
    (by repeat constructor) (by decide)

theorem adviceFrom_described (name text : String) :
    adviceFrom name ⟨some text, some ⟨none, .null⟩⟩ = firstSentence text := by
  simp [adviceFrom, adviceFrom.described, handbookOf]

/-- Every detector of this library gives advice on its name. -/
theorem exists_adviceFrom {entry : String × Adviser} (h : entry ∈ advisers) :
    ∃ text, adviceFrom entry.1 entry.2 = some text := by
  obtain ⟨summary, hsummary, rfl⟩ := List.mem_map.mp h
  have hdescribed := summaries_described summary.2 (List.mem_map.mpr ⟨summary, hsummary, rfl⟩)
  obtain ⟨c, hc, hblank⟩ := List.any_eq_true.mp hdescribed
  rw [adviceFrom_described]
  exact exists_firstSentence hc (by simpa using hblank)

theorem Maps.keys_subset_insert (m : Maps) (name text : String) (category : Category) :
    Table.keys (m.of category) ⊆ Table.keys ((m.insert name text).of category) := by
  rw [Maps.of_insert]
  split_ifs
  · exact fun other hother => Table.mem_keys_insert.mpr (Or.inr hother)
  · exact List.Subset.refl _

/-- Advice that is put in stays, if only under another text. -/
theorem Maps.keys_subset_foldl (advisers : Table Adviser) (m : Maps) (category : Category) :
    Table.keys (m.of category) ⊆ Table.keys
      ((advisers.foldl (fun m entry =>
        ((adviceFrom entry.1 entry.2).map (m.insert entry.1)).getD m) m).of category) := by
  induction advisers generalizing m with
  | nil => exact List.Subset.refl _
  | cons entry rest ih =>
    rw [List.foldl_cons]
    refine List.Subset.trans ?_ (ih _)
    cases adviceFrom entry.1 entry.2 with
    | none => exact List.Subset.refl _
    | some text => exact m.keys_subset_insert entry.1 text category

theorem Maps.mem_keys_build {advisers : Table Adviser} {entry : String × Adviser}
    (h : entry ∈ advisers) {text : String} (hadvice : adviceFrom entry.1 entry.2 = some text) :
    entry.1 ∈ Table.keys ((Maps.build advisers).of (categoryOf entry.1)) := by
  obtain ⟨before, after, rfl⟩ := List.append_of_mem h
  unfold Maps.build
  rw [List.foldl_append, List.foldl_cons, hadvice, Option.map_some, Option.getD_some]
  refine Maps.keys_subset_foldl after _ _ ?_
  rw [Maps.of_insert, if_pos rfl]
  exact Table.mem_keys_insert.mpr (Or.inl rfl)

theorem detectorNames_summarised : detectorNames ⊆ Table.keys Detection.summaries :=
  Scaffold.Spelt.subset (by repeat constructor) (by repeat constructor) (by decide)

/-- There is advice on all known names. -/
def Maps.Complete (m : Maps) : Prop :=
  ∀ name ∈ advisedNames, ∃ category, name ∈ Table.keys (m.of category)

theorem Maps.shipped_complete : Maps.shipped.Complete := by
  intro name hname
  rcases List.mem_append.mp hname with hname | hname
  · exact ⟨.pattern, (Maps.shipped_proper.grown .pattern).subset hname⟩
  rcases List.mem_append.mp hname with hname | hname
  · exact ⟨.architecture, (Maps.shipped_proper.grown .architecture).subset hname⟩
  · obtain ⟨text, hentry⟩ := Table.mem_keys.mp (detectorNames_summarised hname)
    have hadviser : (name, (⟨some text, some ⟨none, .null⟩⟩ : Adviser)) ∈ advisers :=
      List.mem_map.mpr ⟨(name, text), hentry, rfl⟩
    obtain ⟨sentence, hsentence⟩ := exists_adviceFrom hadviser
    exact ⟨categoryOf name, Maps.mem_keys_build hadviser hsentence⟩

end DesignLens.Advice

namespace DesignLens.Ranking

open Advice

/-- The names that a ranking may have. -/
def rankableNames : List String := advisedNames ++ ["Model-View-Controller (MVC)"]

theorem favourites_rankable :
    (favourites.flatMap fun entry => Table.keys entry.2) ⊆ rankableNames :=
  Scaffold.Spelt.subset (by repeat constructor) (by repeat constructor) (by decide)

section

-- The advice is a variable here, for the kernel would compute that of this library.
variable {m : Maps}

theorem rankable_of_advised (hm : m.Named) (category : Category) {name : String}
    (h : name ∈ Table.keys (m.of category)) : name ∈ rankableNames :=
  List.mem_append_left _ (hm.advised category name h)

theorem rankable_of_spokenFor (hm : m.Named) {kind : String} {vote : String × Nat}
    (h : vote ∈ spokenFor m kind) : vote.1 ∈ rankableNames := by
  unfold spokenFor at h
  cases hkind : Table.find? kind favourites with
  | none =>
    rw [hkind] at h
    exact absurd h List.not_mem_nil
  | some chosen =>
    rw [hkind] at h
    rcases List.mem_append.mp h with h | h
    · refine favourites_rankable (List.mem_flatMap.mpr ⟨_, Table.mem_of_find? hkind, ?_⟩)
      exact Table.mem_keys.mpr ⟨vote.2, h⟩
    · obtain ⟨name, hname, rfl⟩ := List.mem_map.mp h
      rcases List.mem_append.mp (List.mem_filter.mp hname).1 with hname | hname
      · exact rankable_of_advised hm .pattern hname
      · exact rankable_of_advised hm .architecture hname

/-- A ranking by such advice has no other names. -/
theorem rankable_of_mem_rank (hm : m.Named) {aliases : Table String} {kinds : List String}
    {words : String} {t : Target} (ht : t ∈ rank m aliases kinds words) :
    t.name ∈ rankableNames := by
  obtain ⟨⟨b, hb, hname⟩, -⟩ := mem_rank ht
  rw [← hname]
  rcases mem_ballots.mp hb with ⟨kind, -, hb⟩ | ⟨-, -, hit | hit⟩
  · obtain ⟨vote, hvote, rfl⟩ := List.mem_map.mp hb
    exact rankable_of_spokenFor hm hvote
  · exact rankable_of_advised hm .pattern hit.1
  · exact rankable_of_advised hm .architecture hit.1

/-- A known kind of indicator speaks for every name that there is advice on. -/
theorem exists_spokenFor {category : Category} {name kind : String}
    (hname : name ∈ Table.keys (m.of category)) (hkind : kind ∈ Table.keys favourites) :
    ∃ weight, (name, weight) ∈ spokenFor m kind := by
  obtain ⟨chosen, hchosen⟩ : ∃ chosen, Table.find? kind favourites = some chosen :=
    Option.ne_none_iff_exists'.mp fun hnone => Table.find?_eq_none_iff.mp hnone hkind
  unfold spokenFor
  rw [hchosen]
  by_cases hfavourite : name ∈ Table.keys chosen
  · obtain ⟨weight, hweight⟩ := Table.mem_keys.mp hfavourite
    exact ⟨weight, List.mem_append_left _ hweight⟩
  · refine ⟨1, List.mem_append_right _ (List.mem_map.mpr ⟨name, List.mem_filter.mpr ⟨?_, ?_⟩, rfl⟩)⟩
    · cases category with
      | pattern => exact List.mem_append_left _ hname
      | architecture => exact List.mem_append_right _ hname
    · rw [← Table.contains_iff_mem_keys] at hfavourite
      simpa using hfavourite

theorem exists_mem_rank (hall : m.Complete) {aliases : Table String} {kinds : List String}
    {words kind name : String} (hkind : kind ∈ kinds) (hknown : kind ∈ Table.keys favourites)
    (hname : name ∈ advisedNames) : ∃ t ∈ rank m aliases kinds words, t.name = name := by
  obtain ⟨category, hkey⟩ := hall name hname
  obtain ⟨weight, hvote⟩ := exists_spokenFor hkey hknown
  have hballot : ∃ b ∈ ballots m aliases kinds words, b.name = name :=
    ⟨⟨kind, name, weight⟩, mem_ballots.mpr (Or.inl ⟨kind, hkind, List.mem_map.mpr ⟨_, hvote, rfl⟩⟩),
      rfl⟩
  rw [← mem_keys_countBallots, ← (names_rank_perm m aliases kinds words).mem_iff] at hballot
  exact List.mem_map.mp hballot

end

end DesignLens.Ranking
