import DesignLens.Proofs.RankingWeights
import DesignLens.Proposal.Unified
import Mathlib.Data.List.Dedup

/-!
# What a proposal suggests

A proposal cuts the ranking of every source, drops what there is no advice on, keeps the heaviest
suggestion for each target and cuts once more. Compared with one ranking over all sources, in which
each name has the largest weight that any source gives it, nothing is lost: the names with advice
among the first of that ranking come first in the proposal, with their weights there.

The reason is that whatever is ahead of a name in the source of its largest weight is also ahead of
it over all sources, so that such a name survives the cut in that source.
-/

namespace DesignLens.Proposal

open Analysis Ranking

/-! ## The ranking over all sources -/

/-- The largest weight that one of the rankings gives a name. -/
def heaviest (rankings : List (List Target)) (name : String) : Nat :=
  ((rankings.flatten.filter fun t => t.name = name).map Target.weight).max?.getD 0

/-- The ranking that gives each name its largest weight. -/
def overall (rankings : List (List Target)) : List Standing :=
  ((rankings.flatten.map Target.name).dedup.map fun name =>
    (name, heaviest rankings name)).mergeSort Standing.precedes

theorem heaviest_isMax {rankings : List (List Target)} {t : Target} (ht : t ∈ rankings.flatten) :
    t.weight ≤ heaviest rankings t.name ∧
      ∃ u ∈ rankings.flatten, u.name = t.name ∧ u.weight = heaviest rankings t.name := by
  have hmem : t.weight ∈
      (rankings.flatten.filter fun u => u.name = t.name).map Target.weight :=
    List.mem_map_of_mem (List.mem_filter.mpr ⟨ht, decide_eq_true rfl⟩)
  unfold heaviest
  cases hmax : ((rankings.flatten.filter fun u => u.name = t.name).map Target.weight).max? with
  | none =>
    rw [List.max?_eq_none_iff.mp hmax] at hmem
    exact absurd hmem List.not_mem_nil
  | some w =>
    obtain ⟨hw, hle⟩ := List.max?_eq_some_iff.mp hmax
    obtain ⟨u, hu, hweight⟩ := List.mem_map.mp hw
    rw [List.mem_filter, decide_eq_true_eq] at hu
    exact ⟨hle _ hmem, u, hu.1, hu.2, hweight⟩

theorem mem_overall {rankings : List (List Target)} {x : Standing} :
    x ∈ overall rankings ↔
      x.1 ∈ rankings.flatten.map Target.name ∧ x.2 = heaviest rankings x.1 := by
  rw [overall, List.mem_mergeSort, List.mem_map]
  constructor
  · rintro ⟨name, hname, rfl⟩
    exact ⟨List.mem_dedup.mp hname, rfl⟩
  · rintro ⟨hname, hweight⟩
    exact ⟨x.1, List.mem_dedup.mpr hname, by rw [← hweight]⟩

theorem mem_overall_of_mem {rankings : List (List Target)} {t : Target}
    (ht : t ∈ rankings.flatten) : (t.name, heaviest rankings t.name) ∈ overall rankings :=
  mem_overall.mpr ⟨List.mem_map_of_mem ht, rfl⟩

theorem overall_pairwise (rankings : List (List Target)) :
    (overall rankings).Pairwise Outranks := by
  apply pairwise_outranks_mergeSort id
  rw [List.map_map]
  exact (List.map_id _).symm ▸ List.nodup_dedup _

/-- Whatever is ahead of a name in the source of its largest weight is ahead of it over all. -/
theorem length_ahead_le {rankings : List (List Target)} {ranking : List Target}
    (hr : ranking ∈ rankings) (hn : (ranking.map Target.name).Nodup) (x : Standing) :
    (ahead (ranking.map Target.standing) x).length ≤ (ahead (overall rankings) x).length := by
  have hnames : ((ahead (ranking.map Target.standing) x).map Prod.fst).Nodup := by
    refine List.Nodup.sublist ((List.filter_sublist).map _) ?_
    rw [List.map_map]
    exact hn
  have hsubset : (ahead (ranking.map Target.standing) x).map Prod.fst ⊆
      (ahead (overall rankings) x).map Prod.fst := by
    intro name hname
    obtain ⟨y, hy, rfl⟩ := List.mem_map.mp hname
    obtain ⟨hy, hout⟩ := mem_ahead.mp hy
    obtain ⟨t, ht, rfl⟩ := List.mem_map.mp hy
    have hflat : t ∈ rankings.flatten := List.mem_flatten_of_mem hr ht
    exact List.mem_map.mpr ⟨(t.name, heaviest rankings t.name), mem_ahead.mpr
      ⟨mem_overall_of_mem hflat, outranks_of_le (heaviest_isMax hflat).1 hout⟩, rfl⟩
  simpa using (hnames.subperm hsubset).length_le

/-- One of the first over all is one of the first in some source, with the same weight. -/
theorem exists_mem_take_of_overall {rankings : List (List Target)}
    (hsorted : ∀ r ∈ rankings, r.Pairwise fun a b => Outranks a.standing b.standing)
    (hnodup : ∀ r ∈ rankings, (r.map Target.name).Nodup) {k : Nat} {x : Standing}
    (hx : x ∈ (overall rankings).take k) :
    ∃ r ∈ rankings, ∃ t ∈ r.take k, t.standing = x := by
  obtain ⟨hname, hweight⟩ := mem_overall.mp (List.mem_of_mem_take hx)
  obtain ⟨u, hu, hux⟩ := List.mem_map.mp hname
  obtain ⟨-, t, ht, htu, htw⟩ := heaviest_isMax hu
  obtain ⟨r, hr, htr⟩ := List.mem_flatten.mp ht
  have hstanding : t.standing = x := by
    refine Prod.ext (htu.trans hux) ?_
    rw [hweight, ← hux]
    exact htw
  have hfew : (ahead (r.map Target.standing) x).length < k :=
    (length_ahead_le hr (hnodup r hr) x).trans_lt (length_ahead_lt (overall_pairwise rankings) hx)
  have hpairwise : (r.map Target.standing).Pairwise Outranks := List.pairwise_map.mpr (hsorted r hr)
  have hfirst := mem_take_of_length_ahead hpairwise
    (hstanding ▸ List.mem_map_of_mem htr) hfew
  rw [← List.map_take] at hfirst
  obtain ⟨v, hv, hvx⟩ := List.mem_map.mp hfirst
  exact ⟨r, hr, v, hv, hvx⟩

/-! ## Keeping the heaviest suggestions -/

/-- The best of the suggestions seen so far: one for each target, and none that is lighter than
another one for the same target. -/
structure Kept (seen : List Suggestion) (best : Table Suggestion) : Prop where
  distinct : (Table.keys best).Nodup
  origin : ∀ name s, Table.find? name best = some s → s ∈ seen ∧ s.target.name = name
  heaviest : ∀ s ∈ seen, ∃ kept, Table.find? s.target.name best = some kept ∧
    s.target.weight ≤ kept.target.weight

theorem kept_nil : Kept [] [] where
  distinct := List.nodup_nil
  origin := by
    intro name s h
    simp [Table.find?] at h
  heaviest := by simp

/-- A suggestion that is no lighter than the kept one takes its place. -/
theorem Kept.insert {seen : List Suggestion} {best : Table Suggestion} (h : Kept seen best)
    (s : Suggestion) (hle : ∀ other, Table.find? s.target.name best = some other →
      other.target.weight ≤ s.target.weight) :
    Kept (seen ++ [s]) (Table.insert s.target.name s best) where
  distinct := Table.nodup_keys_insert _ h.distinct
  origin := by
    intro name u hu
    rw [Table.find?_insert] at hu
    split_ifs at hu with hname
    · cases hu
      exact ⟨List.mem_append_right _ List.mem_cons_self, hname⟩
    · obtain ⟨hseen, hu⟩ := h.origin name u hu
      exact ⟨List.mem_append_left _ hseen, hu⟩
  heaviest := by
    intro u hu
    rw [Table.find?_insert]
    rcases List.mem_append.mp hu with hu | hu
    · obtain ⟨kept, hkept, hweight⟩ := h.heaviest u hu
      split_ifs with hname
      · exact ⟨s, rfl, hweight.trans (hle kept (hname ▸ hkept))⟩
      · exact ⟨kept, hkept, hweight⟩
    · rw [List.mem_singleton.mp hu, if_pos rfl]
      exact ⟨s, rfl, Nat.le_refl _⟩

theorem Kept.keepHeavier {seen : List Suggestion} {best : Table Suggestion} (h : Kept seen best)
    (s : Suggestion) : Kept (seen ++ [s]) (keepHeavier best s) := by
  unfold Proposal.keepHeavier
  cases hfound : Table.find? s.target.name best with
  | none => exact h.insert s fun other hother => by simp [hfound] at hother
  | some other =>
    simp only
    split_ifs with hlt
    · refine h.insert s fun kept hkept => ?_
      rw [hfound, Option.some.injEq] at hkept
      exact hkept ▸ hlt.le
    · exact
        { distinct := h.distinct
          origin := fun name u hu =>
            ⟨List.mem_append_left _ (h.origin name u hu).1, (h.origin name u hu).2⟩
          heaviest := by
            intro u hu
            rcases List.mem_append.mp hu with hu | hu
            · exact h.heaviest u hu
            · rw [List.mem_singleton.mp hu]
              exact ⟨other, hfound, Nat.le_of_not_lt hlt⟩ }

theorem Kept.foldl {seen : List Suggestion} {best : Table Suggestion} (h : Kept seen best)
    (suggestions : List Suggestion) :
    Kept (seen ++ suggestions) (suggestions.foldl Proposal.keepHeavier best) := by
  induction suggestions generalizing seen best with
  | nil => rwa [List.append_nil]
  | cons s suggestions ih =>
    rw [List.foldl_cons, List.append_cons]
    exact ih (h.keepHeavier s)

/-- A list of suggestions in strict order that has the heaviest one for each target. -/
structure Merged (all merged : List Suggestion) : Prop where
  distinct : (merged.map fun s => s.target.name).Nodup
  ordered : merged.Pairwise fun a b => Outranks a.target.standing b.target.standing
  origin : merged ⊆ all
  heaviest : ∀ s ∈ all, ∃ m ∈ merged, m.target.name = s.target.name ∧
    s.target.weight ≤ m.target.weight

theorem Kept.names {seen : List Suggestion} {best : Table Suggestion} (h : Kept seen best) :
    ((Table.values best).map fun s => s.target.name) = Table.keys best := by
  unfold Table.values Table.keys
  rw [List.map_map]
  refine List.map_congr_left fun entry hentry => ?_
  exact (h.origin entry.1 entry.2 (Table.find?_of_mem h.distinct hentry)).2

theorem merge_merged (as : List Assessment) :
    Merged (as.flatMap fun a => a.suggestions) (merge as) := by
  have hkept := kept_nil.foldl (as.flatMap fun a => a.suggestions)
  rw [List.nil_append] at hkept
  have hnames : ((Table.values ((as.flatMap fun a => a.suggestions).foldl keepHeavier [])).map
      fun s => s.target.name).Nodup := hkept.names ▸ hkept.distinct
  unfold merge
  constructor
  · exact ((List.mergeSort_perm _ _).map _).nodup_iff.mpr hnames
  · exact pairwise_outranks_mergeSort (fun s : Suggestion => s.target.standing) _ hnames
  · intro s hs
    rw [List.mem_mergeSort] at hs
    obtain ⟨entry, hentry, rfl⟩ := List.mem_map.mp hs
    exact (hkept.origin _ _ (Table.find?_of_mem hkept.distinct hentry)).1
  · intro s hs
    obtain ⟨m, hfound, hweight⟩ := hkept.heaviest s hs
    refine ⟨m, List.mem_mergeSort.mpr ?_, (hkept.origin _ _ hfound).2, hweight⟩
    exact List.mem_map.mpr ⟨_, Table.mem_of_find? hfound, rfl⟩

/-! ## Proposals against the ranking over all sources -/

/-- The advice on a name, unless it is empty. A name that is a pattern is looked up among the
patterns only. -/
def promptOn (advice : Advice.Maps) (name : String) : Option String :=
  (if Table.contains name advice.patterns then Table.find? name advice.patterns
    else Table.find? name advice.architectures).filter (!·.isEmpty)

/-- What is to be known of the ranking of a source. -/
structure IsSourceRanking (advice : Advice.Maps) (ranking : List Target) : Prop where
  distinct : (ranking.map Target.name).Nodup
  ordered : ranking.Pairwise fun a b => Outranks a.standing b.standing
  prompt : ∀ t ∈ ranking, promptFor advice t = promptOn advice t.name

theorem rankResult_isSourceRanking (s : Setting) (r : Scan.Result) :
    IsSourceRanking s.advice (s.rankResult r) where
  distinct := rank_names_nodup _ _ _ _
  ordered := rank_pairwise_outranks _ _ _ _
  prompt := by
    intro t ht
    unfold promptFor promptOn
    rw [category_of_mem_rank ht]
    split_ifs <;> rfl

/-- At most `k` suggestions for different targets in strict order. They begin with the names that
have advice among the first `k` over all rankings, with the weights that they have there. -/
structure LeadsWithBest (advice : Advice.Maps) (rankings : List (List Target)) (k : Nat)
    (suggestions : List Suggestion) : Prop where
  distinct : (suggestions.map fun s => s.target.name).Nodup
  ordered : suggestions.Pairwise fun a b => Outranks a.target.standing b.target.standing
  bounded : suggestions.length ≤ k
  leading : (((overall rankings).take k).filter fun x => (promptOn advice x.1).isSome) <+:
    suggestions.map fun s => s.target.standing

theorem mem_suggestFirst {advice : Advice.Maps} {k : Nat} {ranking : List Target}
    {s : Suggestion} :
    s ∈ suggestFirst advice k ranking ↔
      s.target ∈ ranking.take k ∧ promptFor advice s.target = some s.prompt := by
  rw [suggestFirst, List.mem_filterMap]
  constructor
  · rintro ⟨t, ht, h⟩
    obtain ⟨prompt, hprompt, rfl⟩ := Option.map_eq_some_iff.mp h
    exact ⟨ht, hprompt⟩
  · rintro ⟨ht, h⟩
    exact ⟨s.target, ht, by rw [h]; rfl⟩

section Cut

variable {advice : Advice.Maps} {rankings : List (List Target)} {k : Nat}
  {merged : List Suggestion}

theorem origin_of_merged (hr : ∀ r ∈ rankings, IsSourceRanking advice r)
    (hm : Merged (rankings.flatMap (suggestFirst advice k)) merged) {s : Suggestion}
    (hs : s ∈ merged) :
    s.target ∈ rankings.flatten ∧ promptOn advice s.target.name = some s.prompt := by
  obtain ⟨r, hmem, hfirst⟩ := List.mem_flatMap.mp (hm.origin hs)
  obtain ⟨htake, hprompt⟩ := mem_suggestFirst.mp hfirst
  have htarget : s.target ∈ r := List.mem_of_mem_take htake
  exact ⟨List.mem_flatten_of_mem hmem htarget, (hr r hmem).prompt _ htarget ▸ hprompt⟩

/-- The advised among the first over all are suggested with their largest weights. -/
theorem mem_merged_of_overall (hr : ∀ r ∈ rankings, IsSourceRanking advice r)
    (hm : Merged (rankings.flatMap (suggestFirst advice k)) merged) {x : Standing}
    (hx : x ∈ (overall rankings).take k) (hadvice : (promptOn advice x.1).isSome) :
    x ∈ merged.map fun s => s.target.standing := by
  obtain ⟨r, hmem, t, ht, rfl⟩ := exists_mem_take_of_overall
    (fun r h => (hr r h).ordered) (fun r h => (hr r h).distinct) hx
  obtain ⟨prompt, hprompt⟩ := Option.isSome_iff_exists.mp hadvice
  have hsuggested : ⟨t, prompt⟩ ∈ rankings.flatMap (suggestFirst advice k) := by
    refine List.mem_flatMap.mpr ⟨r, hmem, mem_suggestFirst.mpr ⟨ht, ?_⟩⟩
    rw [(hr r hmem).prompt t (List.mem_of_mem_take ht)]
    exact hprompt
  obtain ⟨m, hmerged, hname, hle⟩ := hm.heaviest _ hsuggested
  -- No ranking has a larger weight for the name than the one over all.
  have hge : m.target.weight ≤ t.weight := by
    have hmax := (heaviest_isMax (origin_of_merged hr hm hmerged).1).1
    rw [hname] at hmax
    exact hmax.trans_eq (mem_overall.mp (List.mem_of_mem_take hx)).2.symm
  exact List.mem_map.mpr ⟨m, hmerged, Prod.ext hname (Nat.le_antisymm hge hle)⟩

theorem merged_starts_with_best (hr : ∀ r ∈ rankings, IsSourceRanking advice r)
    (hm : Merged (rankings.flatMap (suggestFirst advice k)) merged) :
    (((overall rankings).take k).filter fun x => (promptOn advice x.1).isSome) <+:
      merged.map fun s => s.target.standing := by
  have hoverall := overall_pairwise rankings
  apply prefix_of_ahead_mem
  · exact (hoverall.sublist (List.take_sublist k _)).sublist List.filter_sublist
  · exact List.pairwise_map.mpr hm.ordered
  · intro x hx
    exact mem_merged_of_overall hr hm (List.mem_filter.mp hx).1 (List.mem_filter.mp hx).2
  · intro x hx y hy hyx
    obtain ⟨s, hs, rfl⟩ := List.mem_map.mp hy
    obtain ⟨hflat, hadvice⟩ := origin_of_merged hr hm hs
    have hadvised : (promptOn advice s.target.name).isSome := hadvice ▸ rfl
    -- The name of `s` is ahead of `x` over all as well, so it is merged with its largest weight.
    have htake : (s.target.name, heaviest rankings s.target.name) ∈ (overall rankings).take k :=
      mem_take_of_outranks hoverall (List.mem_filter.mp hx).1 (mem_overall_of_mem hflat)
        (outranks_of_le (heaviest_isMax hflat).1 hyx)
    obtain ⟨m, hmem, hm'⟩ := List.mem_map.mp (mem_merged_of_overall hr hm htake hadvised)
    have hsame : m = s := List.inj_on_of_nodup_map hm.distinct hmem hs (congrArg Prod.fst hm')
    rw [← hsame, hm', List.mem_filter]
    exact ⟨htake, hadvised⟩

theorem leadsWithBest_take (hr : ∀ r ∈ rankings, IsSourceRanking advice r)
    (hm : Merged (rankings.flatMap (suggestFirst advice k)) merged) :
    LeadsWithBest advice rankings k (merged.take k) where
  distinct := hm.distinct.sublist ((List.take_sublist k merged).map _)
  ordered := hm.ordered.sublist (List.take_sublist k merged)
  bounded := List.length_take_le k merged
  leading := by
    rw [List.map_take, List.prefix_take_iff]
    refine ⟨merged_starts_with_best hr hm, ?_⟩
    exact (List.length_filter_le _ _).trans (List.length_take_le k _)

end Cut

/-- A proposal rests on a scan of its subject, whatever the surveys and the metrics say. -/
theorem scan_of_propose {s : Setting} {w : World} {subject : Subject} {count : Int}
    {dossier : Dossier} (h : (propose s w subject count).2 = .ok (.ok dossier)) :
    ∃ results, Scan.scan s.instruments w.tree subject = .ok results ∧
      dossier.suggestions = limit count (merge ((results.toOption.getD []).map fun r =>
        ⟨r, suggestFirst s.advice (countOr defaultPerSource count) (s.rankResult r)⟩)) := by
  unfold propose at h
  by_cases hempty : subject.isEmpty = true
  · simp [hempty] at h
  · rw [if_neg hempty] at h
    split at h
    · simp at h
    · simp at h
    · split at h
      · simp at h
      · unfold conclude assess at h
        cases hscan : Scan.scan s.instruments w.tree subject with
        | error failure =>
          rw [hscan] at h
          simp [Except.map] at h
        | ok results =>
          rw [hscan] at h
          simp only [Except.map, Except.ok.injEq] at h
          refine ⟨results, rfl, ?_⟩
          rw [← h]
          cases results <;> rfl

/-- Cutting the ranking of each source before merging loses none of the best over all. -/
theorem propose_leadsWithBest (s : Setting) (w : World) (subject : Subject) (count : Int)
    (hcount : 0 < count) (dossier : Dossier)
    (h : (propose s w subject count).2 = .ok (.ok dossier)) :
    ∃ results, Scan.scan s.instruments w.tree subject = .ok results ∧
      LeadsWithBest s.advice ((results.toOption.getD []).map s.rankResult) count.toNat
        dossier.suggestions := by
  obtain ⟨results, hscan, hsuggestions⟩ := scan_of_propose h
  refine ⟨results, hscan, ?_⟩
  rw [hsuggestions, limit, countOr, if_pos hcount, if_pos hcount]
  apply leadsWithBest_take
  · intro r hr
    obtain ⟨result, -, rfl⟩ := List.mem_map.mp hr
    exact rankResult_isSourceRanking s result
  · have hmerged := merge_merged ((results.toOption.getD []).map fun r =>
      ⟨r, suggestFirst s.advice count.toNat (s.rankResult r)⟩)
    rw [List.flatMap_map] at hmerged ⊢
    exact hmerged

/-- Advice on three names, one of them empty, and a meter that finds nothing amiss. -/
def smallSetting : Setting where
  registry := []
  advice := ⟨[("Strategy", "Swap it."), ("Facade", "")], [("Hexagonal", "Turn it outside in.")]⟩
  workshop := ⟨⟨none⟩, [], [], fun _ _ => none, fun _ => none, fun _ => .none⟩
  instruments := .ready fun _ => ⟨.ok [], .ok .null, .ok .null, .ok (.obj [])⟩
  linter := false
  outline := fun _ => none
  editor := ⟨fun _ => none, fun _ => "", .ok⟩

def smallWorld : World := ⟨⟨[], [(["log.py"], .text "print(1)")]⟩, ⟨[], []⟩⟩

/-- A text and a file, each with an indicator of its own. -/
theorem propose_leadsWithBest_two_sources :
    (0 : Int) < 2 ∧ ∃ dossier,
      (propose smallSetting smallWorld ⟨some "eval(x)", ["log.py"]⟩ 2).2 = .ok (.ok dossier) ∧
      ∃ results,
        Scan.scan smallSetting.instruments smallWorld.tree ⟨some "eval(x)", ["log.py"]⟩ =
          .ok results ∧
        LeadsWithBest smallSetting.advice
          ((results.toOption.getD []).map smallSetting.rankResult) 2 dossier.suggestions := by
  have hdone : ∃ dossier,
      (propose smallSetting smallWorld ⟨some "eval(x)", ["log.py"]⟩ 2).2 = .ok (.ok dossier) := by
    have hsome : ((propose smallSetting smallWorld ⟨some "eval(x)", ["log.py"]⟩ 2).2.toOption.bind
        fun answer => answer.toOption).isSome = true := by decide +kernel
    revert hsome
    cases (propose smallSetting smallWorld ⟨some "eval(x)", ["log.py"]⟩ 2).2 with
    | error failure => simp [Except.toOption]
    | ok answer =>
      cases answer with
      | error message => simp [Except.toOption]
      | ok dossier => exact fun _ => ⟨dossier, rfl⟩
  obtain ⟨dossier, h⟩ := hdone
  exact ⟨by decide, dossier, h, propose_leadsWithBest smallSetting smallWorld
    ⟨some "eval(x)", ["log.py"]⟩ 2 (by decide) dossier h⟩

end DesignLens.Proposal
