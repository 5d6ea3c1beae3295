import DesignLens.Proofs.ScanOrder
import DesignLens.Proofs.ScanOutcomes
import DesignLens.Proposal.Suggestions
import Mathlib.Algebra.Order.Group.Nat

/-!
# Places among the first targets

Of the first targets of a ranking those with advice are suggested. The ranking is cut before the
advice is looked up, so a target without advice takes a place that no other target gets. The
rankings of this library have one such target: large files speak for it, and three targets with
advice are always ahead of it.
-/

namespace DesignLens.Ranking

section
variable {advice : Advice.Maps} {aliases : Table String} {kinds : List String} {words : String}
  {targets : List Target} (h : IsRanking advice aliases kinds words targets) {name : String}
include h

/-- The names of some weight stand in a ranking with their weights. -/
theorem IsRanking.standing_mem (hpositive : 0 < totalWeight advice aliases kinds words name) :
    (name, totalWeight advice aliases kinds words name) ∈ targets.map Target.standing := by
  obtain ⟨t, ht, rfl⟩ := List.mem_map.mp ((h.occurs name).mpr hpositive)
  exact List.mem_map.mpr ⟨t, ht, Prod.ext rfl (h.weight t ht)⟩

theorem IsRanking.standing_mem_take {k : Nat} :
    (name, totalWeight advice aliases kinds words name) ∈ (targets.map Target.standing).take k ↔
      name ∈ (targets.take k).map Target.name := by
  rw [← List.map_take, List.mem_map, List.mem_map]
  refine exists_congr fun t => and_congr_right fun ht => ⟨congrArg Prod.fst, ?_⟩
  rintro rfl
  exact Prod.ext rfl (h.weight t (List.mem_of_mem_take ht))

end

end DesignLens.Ranking

namespace DesignLens.Proposal

open Ranking Advice Text

/-- All targets with advice, as suggestions. -/
def suggestions (advice : Maps) (targets : List Target) : List Suggestion :=
  targets.filterMap fun t => (promptFor advice t).map fun prompt => ⟨t, prompt⟩

theorem suggestions_cons (advice : Maps) (t : Target) (targets : List Target) :
    suggestions advice (t :: targets) =
      ((promptFor advice t).map fun prompt => ⟨t, prompt⟩).toList ++
        suggestions advice targets := by
  unfold suggestions
  rw [List.filterMap_cons]
  cases promptFor advice t <;> rfl

/-- The suggestions among the first targets come first among all. -/
theorem suggestFirst_leads (advice : Maps) (n : Nat) (targets : List Target) :
    suggestFirst advice n targets <+: suggestions advice targets :=
  (List.take_prefix n targets).filterMap _

/-! ## One target without advice -/

/-- The name that rankings have without advice on it. -/
def unadvised : String := "Model-View-Controller (MVC)"

/-- Targets of different names that have advice, all but one. -/
structure AllButOne (advice : Maps) (targets : List Target) : Prop where
  distinct : (targets.map Target.name).Nodup
  prompt : ∀ t ∈ targets, promptFor advice t = none ↔ t.name = unadvised

section
variable {advice : Maps} {targets : List Target}

theorem AllButOne.tail {t : Target} (h : AllButOne advice (t :: targets)) :
    AllButOne advice targets :=
  ⟨(List.nodup_cons.mp h.distinct).2, fun u hu => h.prompt u (List.mem_cons_of_mem t hu)⟩

theorem AllButOne.take (h : AllButOne advice targets) (k : Nat) :
    AllButOne advice (targets.take k) where
  distinct := h.distinct.sublist ((List.take_sublist k targets).map Target.name)
  prompt t ht := h.prompt t (List.mem_of_mem_take ht)

theorem AllButOne.length_suggestions (h : AllButOne advice targets) :
    (suggestions advice targets).length +
      (if unadvised ∈ targets.map Target.name then 1 else 0) = targets.length := by
  induction targets with
  | nil => rfl
  | cons t targets ih =>
    have hrest := ih h.tail
    have hprompt := h.prompt t List.mem_cons_self
    rw [suggestions_cons, List.length_append, List.map_cons, List.length_cons]
    cases hadvice : promptFor advice t with
    | none =>
      -- The target without advice has the name, and no other has.
      have hname : t.name = unadvised := hprompt.mp hadvice
      have hothers : unadvised ∉ targets.map Target.name :=
        hname ▸ (List.nodup_cons.mp h.distinct).1
      rw [if_neg hothers] at hrest
      rw [if_pos (by rw [hname]; exact List.mem_cons_self)]
      simp only [Option.map_none, Option.toList_none, List.length_nil]
      omega
    | some prompt =>
      have hname : unadvised ≠ t.name := fun heq => by simp [hprompt.mpr heq.symm] at hadvice
      have hmem : unadvised ∈ t.name :: targets.map Target.name ↔
          unadvised ∈ targets.map Target.name := by simp [hname]
      simp only [hmem, Option.map_some, Option.toList_some, List.length_singleton]
      omega

/-- The number of places that are left for targets with advice. -/
def places (k : Nat) (targets : List Target) : Nat :=
  if unadvised ∈ (targets.take k).map Target.name then k - 1 else k

theorem AllButOne.suggestFirst_eq (h : AllButOne advice targets) (k : Nat) :
    suggestFirst advice k targets = (suggestions advice targets).take (places k targets) := by
  have hfirst := (h.take k).length_suggestions
  have hall := h.length_suggestions
  rw [List.prefix_iff_eq_take.mp (suggestFirst_leads advice k targets), List.take_eq_take_iff]
  change min (suggestions advice (targets.take k)).length _ = _
  unfold places
  rw [List.length_take] at hfirst
  by_cases hk : k ≤ targets.length
  · rw [Nat.min_eq_left hk] at hfirst
    split_ifs at hfirst ⊢ <;> omega
  · rw [List.take_of_length_le (by omega)] at hfirst ⊢
    split_ifs at hfirst hall ⊢ <;> omega

/-- The first targets with advice are suggested exactly if no place is taken or all of them are
suggested anyway. -/
theorem AllButOne.suggestFirst_eq_take_iff (h : AllButOne advice targets) (k : Nat) :
    suggestFirst advice k targets = (suggestions advice targets).take k ↔
      unadvised ∉ (targets.take k).map Target.name ∨ (suggestions advice targets).length < k := by
  rw [h.suggestFirst_eq, List.take_eq_take_iff]
  unfold places
  by_cases hmem : unadvised ∈ (targets.take k).map Target.name
  · have hk : 0 < k := by
      by_contra hzero
      simp [Nat.eq_zero_of_not_pos hzero] at hmem
    rw [if_pos hmem]
    simp only [hmem, not_true_eq_false, false_or]
    omega
  · rw [if_neg hmem]
    exact iff_of_true rfl (Or.inl hmem)

end

/-! ## Rankings of this library -/

theorem unadvised_not_mem : unadvised ∉ advisedNames := by decide

/-- The kind of indicator that speaks for the target without advice. -/
def largeKind : String := Scan.IndicatorKind.largeFile.word

theorem favourites_unadvised : ∀ entry ∈ favourites,
    Table.find? unadvised entry.2 = if entry.1 = largeKind then some 2 else none := by
  decide

/-- Names with advice that large files speak for at least as much. -/
def leading : List String :=
  ["Clean Architecture", "Hexagonal Architecture", "Layered Architecture"]

theorem leading_nodup : leading.Nodup := by decide

theorem leading_favoured : ∀ name ∈ leading, name < unadvised ∧
    ∃ bonus, (Table.find? largeKind favourites).bind (Table.find? name) = some bonus ∧
      2 ≤ bonus := by
  simp only [leading, List.forall_mem_cons]
  exact ⟨⟨by decide, 2, by decide, by decide⟩, ⟨by decide, 2, by decide, by decide⟩,
    ⟨by decide, 3, by decide, by decide⟩, nofun⟩

section
variable {m : Maps} (hnamed : m.Named)
include hnamed

theorem unadvised_not_mem_keys (category : Category) : unadvised ∉ Table.keys (m.of category) :=
  fun h => unadvised_not_mem (hnamed.advised category unadvised h)

theorem allButOne_rank (hcomplete : m.Complete) (hproper : m.Proper) (aliases : Table String)
    (kinds : List String) (words : String) : AllButOne m (rank m aliases kinds words) where
  distinct := rank_names_nodup m aliases kinds words
  prompt t ht := by
    have hprompt : promptFor m t = (Table.find? t.name (m.of t.category)).filter (!·.isEmpty) := by
      unfold promptFor
      cases t.category <;> rfl
    constructor
    · intro hnone
      rcases List.mem_append.mp (rankable_of_mem_rank hnamed ht) with hadvised | hother
      · exfalso
        have hkey : t.name ∈ Table.keys (m.of t.category) := by
          obtain ⟨category, hcategory⟩ := hcomplete t.name hadvised
          rw [category_of_mem_rank ht]
          by_cases hpattern : Table.contains t.name m.patterns
          · rw [if_pos hpattern]
            exact Table.contains_iff_mem_keys.mp hpattern
          · rw [if_neg hpattern]
            cases category with
            | pattern => exact absurd (Table.contains_iff_mem_keys.mpr hcategory) hpattern
            | architecture => exact hcategory
        obtain ⟨text, htext⟩ := Option.ne_none_iff_exists'.mp
          fun hfind => Table.find?_eq_none_iff.mp hfind hkey
        have hne := (hproper.entries t.category _ (Table.mem_of_find? htext)).2
        rw [hprompt, htext] at hnone
        simp [Option.filter, hne] at hnone
      · exact List.mem_singleton.mp hother
    · intro hname
      rw [hprompt, hname, Table.find?_eq_none_iff.mpr (unadvised_not_mem_keys hnamed t.category)]
      rfl

theorem indicatorWeight_unadvised (kind : String) :
    indicatorWeight m kind unadvised = if kind = largeKind then 2 else 0 := by
  unfold indicatorWeight
  cases hchosen : Table.find? kind favourites with
  | none =>
    have hother : kind ≠ largeKind := by
      rintro rfl
      exact absurd hchosen (by decide)
    exact (if_neg hother).symm
  | some chosen =>
    have hbonus : Table.find? unadvised chosen = if kind = largeKind then some 2 else none :=
      favourites_unadvised (kind, chosen) (Table.mem_of_find? hchosen)
    have hpattern : unadvised ∉ Table.keys m.patterns := unadvised_not_mem_keys hnamed .pattern
    have harchitecture : unadvised ∉ Table.keys m.architectures :=
      unadvised_not_mem_keys hnamed .architecture
    dsimp only
    rw [hbonus, if_neg hpattern, if_neg harchitecture]
    split_ifs <;> rfl

theorem totalWeight_unadvised (aliases : Table String) (kinds : List String) (words : String) :
    totalWeight m aliases kinds words unadvised = 2 * kinds.count largeKind := by
  unfold totalWeight
  rw [if_neg fun hit => unadvised_not_mem_keys hnamed .pattern hit.1,
    if_neg fun hit => unadvised_not_mem_keys hnamed .architecture hit.1]
  simp only [indicatorWeight_unadvised hnamed]
  induction kinds with
  | nil => rfl
  | cons kind rest ih =>
    rw [List.map_cons, List.sum_cons, List.count_cons]
    by_cases hkind : kind = largeKind
    · simp only [hkind, if_true, beq_self_eq_true]
      omega
    · simp only [hkind, if_false, beq_iff_eq]
      omega

theorem unadvised_mem_rank_iff (aliases : Table String) (kinds : List String) (words : String) :
    unadvised ∈ (rank m aliases kinds words).map Target.name ↔ largeKind ∈ kinds := by
  have hranking :=
    rank_isRanking (hnamed.distinct .pattern) (hnamed.distinct .architecture) aliases kinds words
  rw [hranking.occurs, totalWeight_unadvised hnamed, ← List.count_pos_iff]
  omega

theorem indicatorWeight_leading {name : String} (h : name ∈ leading) (kind : String) :
    indicatorWeight m kind unadvised ≤ indicatorWeight m kind name := by
  rw [indicatorWeight_unadvised hnamed]
  by_cases hkind : kind = largeKind
  · obtain ⟨bonus, hbonus, hle⟩ := (leading_favoured name h).2
    obtain ⟨chosen, hchosen, hfind⟩ := Option.bind_eq_some_iff.mp hbonus
    rw [if_pos hkind, indicatorWeight, hkind, hchosen]
    dsimp only
    rw [hfind]
    exact hle
  · rw [if_neg hkind]
    exact Nat.zero_le _

theorem totalWeight_unadvised_le (aliases : Table String) (kinds : List String) (words : String)
    {name : String} (h : name ∈ leading) :
    totalWeight m aliases kinds words unadvised ≤ totalWeight m aliases kinds words name := by
  have hindicators : (kinds.map fun kind => indicatorWeight m kind unadvised).sum ≤
      (kinds.map fun kind => indicatorWeight m kind name).sum :=
    List.sum_le_sum fun kind _ => indicatorWeight_leading hnamed h kind
  rw [totalWeight, if_neg fun hit => unadvised_not_mem_keys hnamed .pattern hit.1,
    if_neg fun hit => unadvised_not_mem_keys hnamed .architecture hit.1]
  exact hindicators.trans (Nat.le_add_right _ _)

/-- Only large files bring the target without advice among the first, and never among the first
three. -/
theorem of_unadvised_mem_take {aliases : Table String} {kinds : List String} {words : String}
    {k : Nat} (h : unadvised ∈ ((rank m aliases kinds words).take k).map Target.name) :
    largeKind ∈ kinds ∧ leading.length < k := by
  have hranking :=
    rank_isRanking (hnamed.distinct .pattern) (hnamed.distinct .architecture) aliases kinds words
  have hmem : unadvised ∈ (rank m aliases kinds words).map Target.name :=
    ((List.take_sublist k _).map Target.name).subset h
  refine ⟨(unadvised_mem_rank_iff hnamed aliases kinds words).mp hmem, ?_⟩
  have hpositive := (hranking.occurs unadvised).mp hmem
  -- The leading names weigh as much and come first in the alphabet.
  have hahead : leading.map (fun name => (name, totalWeight m aliases kinds words name)) ⊆
      ahead ((rank m aliases kinds words).map Target.standing)
        (unadvised, totalWeight m aliases kinds words unadvised) := by
    intro x hx
    obtain ⟨name, hleading, rfl⟩ := List.mem_map.mp hx
    have hweight := totalWeight_unadvised_le hnamed aliases kinds words hleading
    apply mem_ahead.mpr
    exact ⟨hranking.standing_mem (hpositive.trans_le hweight),
      outranks_of_le hweight (Or.inr ⟨rfl, (leading_favoured name hleading).1⟩)⟩
  have hnodup : (leading.map fun name =>
      (name, totalWeight m aliases kinds words name)).Nodup :=
    leading_nodup.map fun a b heq => (Prod.ext_iff.mp heq).1
  calc leading.length = (leading.map fun name =>
        (name, totalWeight m aliases kinds words name)).length := (List.length_map _).symm
    _ ≤ _ := (hnodup.subperm hahead).length_le
    _ < k := length_ahead_lt (List.pairwise_map.mpr hranking.ordered)
        (hranking.standing_mem_take.mpr h)

end

theorem largeKind_mem_iff {indicators : List Scan.Indicator} :
    largeKind ∈ (indicators.map fun i => i.kind.word) ↔ ∃ i ∈ indicators, i.kind = .largeFile := by
  rw [List.mem_map]
  refine exists_congr fun i => and_congr_right fun _ => ?_
  cases i.kind <;> decide

theorem allButOne_rankResult {s : Setting} (hadvice : s.advice = .shipped) (r : Scan.Result) :
    AllButOne s.advice (s.rankResult r) := by
  have hnamed : s.advice.Named := hadvice ▸ Maps.shipped_named
  have hcomplete : s.advice.Complete := hadvice ▸ Maps.shipped_complete
  have hproper : s.advice.Proper := hadvice ▸ Maps.shipped_proper
  exact allButOne_rank hnamed hcomplete hproper ..

/-- For each result of a scan the first targets with advice are suggested, less one place if the
target without advice is among the first. That makes a difference unless all targets with advice are
suggested anyway. It takes a large file, and more than three places. -/
theorem suggestions_lose_place {s : Setting} (hadvice : s.advice = .shipped) (t : Workspace.Tree)
    (subject : Analysis.Subject) {count : Int} (hcount : 0 < count) :
    assess s t subject count =
      ((Scan.scan s.instruments t subject).map fun results => results.map fun rs =>
        rs.map fun r => ⟨r, (suggestions s.advice (s.rankResult r)).take
          (places count.toNat (s.rankResult r))⟩) ∧
      ∀ r : Scan.Result,
        ((suggestions s.advice (s.rankResult r)).take (places count.toNat (s.rankResult r)) =
            (suggestions s.advice (s.rankResult r)).take count.toNat ↔
          unadvised ∉ ((s.rankResult r).take count.toNat).map Target.name ∨
            (suggestions s.advice (s.rankResult r)).length < count.toNat) ∧
        (unadvised ∈ ((s.rankResult r).take count.toNat).map Target.name →
          (∃ i ∈ r.indicators, i.kind = .largeFile) ∧ 3 < count) := by
  have hplaces (r : Scan.Result) := allButOne_rankResult hadvice r
  refine ⟨?_, fun r => ⟨?_, fun hmem => ?_⟩⟩
  · unfold assess countOr
    simp only [if_pos hcount, (hplaces _).suggestFirst_eq]
  · rw [← (hplaces r).suggestFirst_eq]
    exact (hplaces r).suggestFirst_eq_take_iff count.toNat
  · have hnamed : s.advice.Named := hadvice ▸ Maps.shipped_named
    obtain ⟨hkind, hlength⟩ := of_unadvised_mem_take hnamed hmem
    refine ⟨largeKind_mem_iff.mp hkind, ?_⟩
    change 3 < count.toNat at hlength
    omega

/-- With three places none is lost. -/
theorem suggestions_lose_place_three :
    (shippedSetting Enforcement.plainSetting).advice = .shipped ∧ (0 : Int) < 3 ∧
      ∀ r : Scan.Result,
        (suggestions .shipped ((shippedSetting Enforcement.plainSetting).rankResult r)).take
            (places 3 ((shippedSetting Enforcement.plainSetting).rankResult r)) =
          (suggestions .shipped
            ((shippedSetting Enforcement.plainSetting).rankResult r)).take 3 := by
  have hadvice := shippedSetting_advice Enforcement.plainSetting
  refine ⟨hadvice, by decide, fun r => ?_⟩
  obtain ⟨-, hresults⟩ := suggestions_lose_place hadvice ⟨[], []⟩ ⟨none, []⟩
    (show (0 : Int) < 3 by decide)
  obtain ⟨hiff, hlost⟩ := hresults r
  rw [hadvice] at hiff
  exact hiff.mpr (Or.inl fun hmem => absurd (hlost hmem).2 (by decide))

/-! ## A place that is lost -/

/-- The recommendation for large files. -/
def largeText : String := Scan.IndicatorKind.largeFile.recommendation

/-- The words that are searched if it is all there is. -/
def largeWords : String := words none (" ".intercalate [largeText])

/-- The spellings that are found in it, and the canonical names that they lead to. -/
def largeMeant : List String := ["mvc"]

/-- The names with advice that it mentions. -/
def largeMentioned : List String := ["MVC"]

/-- Whether letters are found in words, or one of some canonical names in the letters. -/
def meets (words : List Char) (meant : List (List Char)) (cs : List Char) : Bool :=
  occursIn (lowered cs) words || meant.any fun known =>
    (lowered cs).filter isAlphanumeric == known || occursIn known (lowered cs)

/-- Which names a text is related to is checked on letters that are written out. -/
theorem mem_of_spelt {p : List Char → List Char → Bool} {text : String} {ts : List Char}
    {names known : List String} {nss kss : List (List Char)} (htext : Scaffold.Spelt [text] [ts])
    (hnames : Scaffold.Spelt names nss) (hknown : Scaffold.Spelt known kss)
    (h : (nss.all fun cs => !p ts cs || kss.contains cs) = true) :
    ∀ name ∈ names, p text.toList name.toList = true → name ∈ known := by
  intro name hname hp
  have hcheck := hnames.forall_toList h name hname
  have htext : text.toList = ts := (List.cons.inj htext.map_toList).1
  rw [htext] at hp
  rw [hknown.mem_iff]
  simpa [hp] using hcheck

theorem spellings_large : ∀ spelling ∈ Table.keys Naming.aliases,
    occursIn spelling.toList (lowered largeText.toList) = true → spelling ∈ largeMeant :=
  mem_of_spelt (p := fun ts cs => occursIn cs (lowered ts)) (by repeat constructor)
    (by repeat constructor) (by repeat constructor) (by decide)

theorem names_large : ∀ name ∈ advisedNames,
    meets (lowered largeText.toList) (largeMeant.map String.toList) name.toList = true →
      name ∈ largeMentioned :=
  mem_of_spelt (p := fun ts cs => meets (lowered ts) (largeMeant.map String.toList) cs)
    (by repeat constructor) (by repeat constructor) (by repeat constructor) (by decide)

theorem aliases_large : ∀ entry ∈ Naming.aliases, entry.1 ∈ largeMeant → entry.2 = entry.1 := by
  decide

theorem simplify_large : ∀ known ∈ largeMeant, Naming.simplify known = known := by
  decide

theorem mentions_large {name : String} (hname : name ∈ advisedNames)
    (h : Mentions Naming.aliases largeWords name) : name ∈ largeMentioned := by
  have hascii : isAscii name.toList = true :=
    (isSafe_iff.mp (advisedNames_safe name hname)).2.1
  have hwords : (lower largeWords).toList = lowered largeText.toList := by
    rw [largeWords, toList_lower_words fun text htext => recommendations_ascii text ?_]
    · simp
    · rw [List.mem_singleton.mp htext]
      exact mem_allRecommendations .largeFile
  refine names_large name hname (Bool.or_eq_true_iff.mpr ?_)
  obtain ⟨-, h⟩ := h
  rw [hwords, toList_lower_ascii hascii] at h
  rcases h with hin | ⟨entry, hentry, hin, hfits⟩
  · exact Or.inl (occursIn_iff.mpr hin)
  · have hmeant : entry.1 ∈ largeMeant :=
      spellings_large _ (Table.mem_keys.mpr ⟨entry.2, hentry⟩) (occursIn_iff.mpr hin)
    have hsame := aliases_large entry hentry hmeant
    refine Or.inr (List.any_eq_true.mpr ⟨entry.2.toList, ?_, Bool.or_eq_true_iff.mpr ?_⟩)
    · exact List.mem_map_of_mem (hsame ▸ hmeant)
    · rcases hfits with hequal | hinside
      · rw [simplify_large entry.2 (hsame ▸ hmeant)] at hequal
        left
        rw [← hequal, Naming.simplify, String.toList_ofList, toList_lower_ascii hascii]
        exact beq_self_eq_true _
      · exact Or.inr (occursIn_iff.mpr hinside)

/-- The targets that are ahead of the one without advice if a large file is all there is. -/
def aheadLarge : List String := leading ++ largeMentioned

theorem favourites_large : ∀ chosen, Table.find? largeKind favourites = some chosen →
    ∀ vote ∈ chosen, vote.1 ∉ leading → vote.1 ≠ unadvised →
      vote.2 ≤ 1 ∨ vote.2 = 2 ∧ unadvised < vote.1 := by
  intro chosen hchosen
  have hfind : Table.find? largeKind favourites =
      some ((Table.find? largeKind favourites).getD []) := by decide
  obtain rfl := Option.some.inj (hfind.symm.trans hchosen)
  decide

section
variable {m : Maps} (hnamed : m.Named)
  (hsorted : ∀ category, ∀ name ∈ Table.keys (m.of category), categoryOf name = category)

include hsorted in
theorem indicatorWeight_large {name : String} (hleading : name ∉ leading)
    (hname : name ≠ unadvised) :
    indicatorWeight m largeKind name ≤ 1 ∨
      indicatorWeight m largeKind name = 2 ∧ unadvised < name := by
  unfold indicatorWeight
  cases hchosen : Table.find? largeKind favourites with
  | none => exact Or.inl (Nat.zero_le 1)
  | some chosen =>
    dsimp only
    cases hbonus : Table.find? name chosen with
    | some bonus =>
      exact favourites_large chosen hchosen (name, bonus) (Table.mem_of_find? hbonus) hleading hname
    | none =>
      left
      dsimp only
      split_ifs with hpattern harchitecture
      · exact nomatch (hsorted .pattern name hpattern).symm.trans
          (hsorted .architecture name harchitecture)
      all_goals decide

include hnamed hsorted

theorem mem_aheadLarge {name : String} (hname : name ∈ rankableNames)
    (h : Outranks (name, totalWeight m Naming.aliases [largeKind] largeWords name) (unadvised, 2)) :
    name ∈ aheadLarge := by
  by_contra hbehind
  obtain ⟨hleading, hmvc⟩ := not_or.mp (mt List.mem_append.mpr hbehind)
  have hne : name ≠ unadvised := by
    rintro rfl
    rw [totalWeight_unadvised hnamed] at h
    exact outranks_irrefl _ h
  have hadvised : name ∈ advisedNames :=
    (List.mem_append.mp hname).resolve_right fun hmem => hne (List.mem_singleton.mp hmem)
  have hquiet : ¬ Mentions Naming.aliases largeWords name := by
    intro hmentions
    exact hmvc (mentions_large hadvised hmentions)
  have hweight : totalWeight m Naming.aliases [largeKind] largeWords name =
      indicatorWeight m largeKind name := by
    rw [totalWeight, if_neg fun hit => hquiet hit.2, if_neg fun hit => hquiet hit.2]
    simp
  rw [hweight] at h
  rcases indicatorWeight_large hsorted hleading hne with hlight | ⟨hequal, hafter⟩
  · rcases h with h | ⟨h, -⟩ <;> dsimp only at h <;> omega
  · rcases h with h | ⟨-, h⟩
    · dsimp only at h
      omega
    · exact String.lt_irrefl _ (String.lt_trans hafter h)

/-- With a large file and nothing else, at most four targets are ahead of the one without advice. -/
theorem unadvised_mem_take_large :
    unadvised ∈ ((rank m Naming.aliases [largeKind] largeWords).take 5).map Target.name := by
  have hranking := rank_isRanking (hnamed.distinct .pattern) (hnamed.distinct .architecture)
    Naming.aliases [largeKind] largeWords
  have hweight : totalWeight m Naming.aliases [largeKind] largeWords unadvised = 2 :=
    totalWeight_unadvised hnamed ..
  have hmem := hranking.standing_mem (hweight ▸ Nat.two_pos)
  rw [← hranking.standing_mem_take]
  rw [hweight] at hmem ⊢
  have hrankable : ∀ t ∈ rank m Naming.aliases [largeKind] largeWords, t.name ∈ rankableNames :=
    fun t ht => rankable_of_mem_rank hnamed ht
  generalize rank m Naming.aliases [largeKind] largeWords = targets at hranking hrankable hmem ⊢
  have hahead : (ahead (targets.map Target.standing) (unadvised, 2)).map Prod.fst ⊆
      aheadLarge := by
    intro name hmem
    obtain ⟨x, hx, rfl⟩ := List.mem_map.mp hmem
    obtain ⟨hranked, houtranks⟩ := mem_ahead.mp hx
    obtain ⟨u, hu, rfl⟩ := List.mem_map.mp hranked
    rw [Target.standing, hranking.weight u hu] at houtranks
    exact mem_aheadLarge hnamed hsorted (hrankable u hu) houtranks
  have hnodup : ((ahead (targets.map Target.standing) (unadvised, 2)).map Prod.fst).Nodup := by
    have hnames : ((targets.map Target.standing).map Prod.fst).Nodup := by
      rw [List.map_map]
      exact hranking.distinct
    exact hnames.sublist (List.filter_sublist.map Prod.fst)
  have hlength := (hnodup.subperm hahead).length_le
  rw [List.length_map] at hlength
  exact mem_take_of_length_ahead (List.pairwise_map.mpr hranking.ordered) hmem
    (Nat.lt_succ_of_le hlength)

end

/-- Readings of a text with more lines than a file may have. -/
def longReadings : Metrics.Readings :=
  ⟨.ok [], .ok .null, .ok .null, .ok (.obj [("loc", .int 1001)])⟩

/-- The advice of this library, and a meter that takes every text for a long one. -/
def longSetting : Setting :=
  { shippedSetting Enforcement.plainSetting with instruments := .ready fun _ => longReadings }

theorem longSetting_advice : longSetting.advice = .shipped :=
  shippedSetting_advice Enforcement.plainSetting

/-- The result for such a text. -/
def longResult (metrics : Json) : Scan.Result :=
  ⟨Analysis.inputLabel, metrics, [⟨.largeFile, [("loc", .int 1001)]⟩]⟩

theorem largeFunction_name : Scan.largeFunction "x" = [] := by
  have hparse : ((Source.Program.parse "x").toOption.bind Scan.longFunction?).isNone = true := by
    decide +kernel
  have hparagraph : Scan.longParagraph? "x" = none := by decide
  unfold Scan.largeFunction
  rw [Option.isNone_iff_eq_none.mp hparse, hparagraph]
  rfl

theorem scan_long : ∃ metrics, Scan.scan longSetting.instruments ⟨[], []⟩ (.ofCode "x") =
    .ok (.ok [longResult metrics]) := by
  have hpart : Analysis.Subject.IsPart ⟨[], []⟩ ⟨Analysis.inputLabel, .ok "x"⟩ (.ofCode "x") :=
    ⟨rfl, rfl⟩
  have hindicators : Scan.indicators longReadings "x" =
      .ok [⟨.largeFile, [("loc", .int 1001)]⟩] := by
    unfold Scan.indicators
    rw [largeFunction_name]
    rfl
  obtain ⟨metrics, hmetrics⟩ : ∃ metrics, longReadings.snapshot = .ok metrics := ⟨_, rfl⟩
  refine ⟨metrics, (Scan.scan_part_eq_ok hpart).mpr ?_⟩
  change Scan.scanText (fun _ => longReadings) Analysis.inputLabel "x" = .ok (longResult metrics)
  exact Scan.scanText_eq_ok.mpr ⟨rfl, hmetrics, hindicators⟩

/-- The targets of a large file, at least six of them. -/
theorem length_rank_large {m : Maps} (hnamed : m.Named) (hcomplete : m.Complete) :
    6 ≤ (rank m Naming.aliases [largeKind] largeWords).length := by
  have hnodup : (unadvised :: "Facade" :: aheadLarge).Nodup := by decide
  have hadvised : "Facade" :: aheadLarge ⊆ advisedNames :=
    Scaffold.Spelt.subset (by repeat constructor) (by repeat constructor) (by decide)
  have hsubset : unadvised :: "Facade" :: aheadLarge ⊆
      (rank m Naming.aliases [largeKind] largeWords).map Target.name := by
    intro name hname
    rcases List.mem_cons.mp hname with rfl | hname
    · exact (unadvised_mem_rank_iff hnamed ..).mpr (List.mem_singleton_self _)
    · obtain ⟨t, ht, rfl⟩ := exists_mem_rank hcomplete (List.mem_singleton_self largeKind)
        (by decide) (hadvised hname)
      exact List.mem_map_of_mem ht
  calc 6 = (unadvised :: "Facade" :: aheadLarge).length := rfl
    _ ≤ _ := (hnodup.subperm hsubset).length_le
    _ = _ := List.length_map _

/-- Five places are asked for and five targets have advice, but only four are suggested. -/
theorem fifth_place_lost : ∃ a, assess longSetting ⟨[], []⟩ (.ofCode "x") 5 = .ok (.ok [a]) ∧
    a.suggestions.length = 4 ∧
      5 ≤ (suggestions longSetting.advice (longSetting.rankResult a.result)).length := by
  obtain ⟨metrics, hscan⟩ := scan_long
  have hnamed : longSetting.advice.Named := longSetting_advice ▸ Maps.shipped_named
  have hcomplete : longSetting.advice.Complete := longSetting_advice ▸ Maps.shipped_complete
  have hsorted : ∀ category, ∀ name ∈ Table.keys (longSetting.advice.of category),
      categoryOf name = category := by
    rw [longSetting_advice]
    exact fun category name => Maps.build_sorted advisers category
  have hplaces := allButOne_rankResult longSetting_advice (longResult metrics)
  have hranked : longSetting.rankResult (longResult metrics) =
      rank longSetting.advice Naming.aliases [largeKind] largeWords := rfl
  have hfirst := unadvised_mem_take_large hnamed hsorted
  have hlength := length_rank_large hnamed hcomplete
  rw [← hranked] at hfirst hlength
  have hadvised := hplaces.length_suggestions
  rw [if_pos (((List.take_sublist 5 _).map Target.name).subset hfirst)] at hadvised
  refine ⟨⟨longResult metrics,
    suggestFirst longSetting.advice 5 (longSetting.rankResult (longResult metrics))⟩, ?_, ?_, ?_⟩
  · unfold assess
    rw [hscan]
    rfl
  · rw [hplaces.suggestFirst_eq, places, if_pos hfirst, List.length_take]
    omega
  · dsimp only
    omega

end DesignLens.Proposal
