import DesignLens.Proofs.EnforcementEffects
import DesignLens.Proofs.ShippedAdvice

/-!
# The order of scanning

The ranking of what to move to does not depend on the order in which files are scanned. The
recommendations of all files are joined into one text that is searched for names, so a name might be
found where one recommendation ends and the next one begins. None of the names and spellings of this
library can be found there: one that reaches over a blank does not start as a recommendation ends
and end as a recommendation begins.
-/

namespace DesignLens.Text

/-! ## Searching joined texts -/

/-- A part of texts that are joined by blanks lies in one of them or reaches over a blank. -/
theorem infix_join {cs : List Char} (hne : cs ≠ []) {texts : List (List Char)}
    (h : cs <:+: [' '].intercalate texts) :
    (∃ text ∈ texts, cs <:+: text) ∨
      ∃ u v, cs = u ++ ' ' :: v ∧ (∃ text ∈ texts, u <:+ text) ∧
        ∃ text ∈ texts, v <+: text ∨ text <+: v := by
  induction texts with
  | nil => exact absurd (List.infix_nil.mp h) hne
  | cons a rest ih =>
    cases rest with
    | nil =>
      rw [List.intercalate_singleton] at h
      exact Or.inl ⟨a, List.mem_singleton_self a, h⟩
    | cons b rest =>
      have hfirst {v : List Char} (hv : v <+: [' '].intercalate (b :: rest)) :
          v <+: b ∨ b <+: v := by
        refine List.prefix_or_prefix_of_prefix hv ?_
        cases rest with
        | nil => exact List.intercalate_singleton ▸ List.prefix_refl b
        | cons c rest =>
          rw [List.intercalate_cons_cons, List.append_assoc]
          exact List.prefix_append b _
      -- The part of the search text after the first text starts with the blank.
      have hover {u v : List Char} (hu : u <:+ a) (hv : v <+: [' '].intercalate (b :: rest)) :
          ∃ u' v', u ++ ' ' :: v = u' ++ ' ' :: v' ∧ (∃ text ∈ a :: b :: rest, u' <:+ text) ∧
            ∃ text ∈ a :: b :: rest, v' <+: text ∨ text <+: v' :=
        ⟨u, v, rfl, ⟨a, List.mem_cons_self, hu⟩,
          b, List.mem_cons_of_mem a List.mem_cons_self, hfirst hv⟩
      rw [List.intercalate_cons_cons, List.append_assoc, List.singleton_append,
        List.infix_append_iff] at h
      rcases h with h | h | ⟨u, v, rfl, hu, hv⟩
      · exact Or.inl ⟨a, List.mem_cons_self, h⟩
      · rcases List.infix_cons_iff.mp h with h | h
        · rcases List.prefix_cons_iff.mp h with rfl | ⟨v, rfl, hv⟩
          · exact absurd rfl hne
          · exact Or.inr (hover (List.nil_suffix) hv)
        · rcases ih h with ⟨text, htext, hin⟩ | ⟨u, v, heq, ⟨first, hu, hsuffix⟩, last, hv, hprefix⟩
          · exact Or.inl ⟨text, List.mem_cons_of_mem a htext, hin⟩
          · exact Or.inr ⟨u, v, heq, ⟨first, List.mem_cons_of_mem a hu, hsuffix⟩, last,
              List.mem_cons_of_mem a hv, hprefix⟩
      · rcases List.prefix_cons_iff.mp hv with rfl | ⟨rest', rfl, hrest⟩
        · rw [List.append_nil]
          exact Or.inl ⟨a, List.mem_cons_self, hu.isInfix⟩
        · exact Or.inr (hover hu hrest)

theorem infix_join_of_mem {text : List Char} {texts : List (List Char)} (h : text ∈ texts) :
    text <:+: [' '].intercalate texts := by
  induction texts with
  | nil => exact absurd h List.not_mem_nil
  | cons a rest ih =>
    cases rest with
    | nil =>
      rw [List.mem_singleton.mp h, List.intercalate_singleton]
    | cons b rest =>
      rw [List.intercalate_cons_cons, List.append_assoc]
      rcases List.mem_cons.mp h with rfl | h
      · exact (List.prefix_append text _).isInfix
      · exact (ih h).trans (List.suffix_append _ _ |>.trans (List.suffix_append _ _)).isInfix

/-- The ways to part a text at a blank. -/
def partings : List Char → List (List Char × List Char)
  | [] => []
  | c :: cs =>
    (if c = ' ' then [([], cs)] else []) ++ (partings cs).map fun p => (c :: p.1, p.2)

theorem mem_partings (u v : List Char) : (u, v) ∈ partings (u ++ ' ' :: v) := by
  induction u with
  | nil => exact List.mem_append_left _ (by simp)
  | cons c u ih => exact List.mem_append_right _ (List.mem_map.mpr ⟨(u, v), ih, rfl⟩)

/-- Whether no parting of a text starts as one of the texts ends and ends as one of them begins. -/
def avoidsSeams (texts : List (List Char)) (cs : List Char) : Bool :=
  (partings cs).all fun p =>
    !(texts.any (p.1.isSuffixOf ·) &&
      texts.any fun text => p.2.isPrefixOf text || text.isPrefixOf p.2)

/-- What avoids the seams of some texts is found in a joined text only within one of them. -/
theorem infix_join_iff {all texts : List (List Char)} {cs : List Char} (hne : cs ≠ [])
    (havoids : avoidsSeams all cs = true) (hsub : texts ⊆ all) :
    cs <:+: [' '].intercalate texts ↔ ∃ text ∈ texts, cs <:+: text := by
  constructor
  · intro h
    rcases infix_join hne h with h | ⟨u, v, rfl, ⟨first, hfirst, hu⟩, last, hlast, hv⟩
    · exact h
    · have hparting := List.all_eq_true.mp havoids (u, v) (mem_partings u v)
      simp only [Bool.not_eq_true', Bool.and_eq_false_iff, List.any_eq_false] at hparting
      rcases hparting with hnone | hnone
      · exact absurd (List.isSuffixOf_iff_suffix.mpr hu) (by simpa using hnone first (hsub hfirst))
      · have hneither := hnone last (hsub hlast)
        simp only [Bool.or_eq_true, List.isPrefixOf_iff_prefix] at hneither
        exact absurd hv hneither
  · rintro ⟨text, htext, h⟩
    exact h.trans (infix_join_of_mem htext)

/-! ## Lower case -/

def lowered (cs : List Char) : List Char := cs.map Char.toLower

def isAscii (cs : List Char) : Bool := cs.all fun c => decide (c.toNat < 128)

theorem toLower_ascii {c : Char} (h : c.toNat < 128) :
    c.toLower.toNat < 128 ∧ c.toLower.toLower = c.toLower := by
  have hall : ∀ n < 128, (Char.ofNat n).toLower.toNat < 128 ∧
      (Char.ofNat n).toLower.toLower = (Char.ofNat n).toLower := by
    decide
  simpa using hall c.toNat h

theorem isAscii_iff {cs : List Char} : isAscii cs = true ↔ ∀ c ∈ cs, c.toNat < 128 := by
  simp [isAscii]

theorem isAscii_lowered {cs : List Char} (h : isAscii cs = true) : isAscii (lowered cs) = true := by
  rw [isAscii_iff] at h ⊢
  intro d hd
  obtain ⟨c, hc, rfl⟩ := List.mem_map.mp hd
  exact (toLower_ascii (h c hc)).1

theorem lowered_lowered {cs : List Char} (h : isAscii cs = true) :
    lowered (lowered cs) = lowered cs := by
  rw [isAscii_iff] at h
  unfold lowered
  rw [List.map_map]
  exact List.map_congr_left fun c hc => (toLower_ascii (h c hc)).2

theorem lowerChars_ascii (before : List Char) {cs : List Char} (h : isAscii cs = true) :
    lowerChars before cs = lowered cs := by
  rw [isAscii_iff] at h
  induction cs generalizing before with
  | nil => rfl
  | cons c cs ih =>
    obtain ⟨hc, hcs⟩ := List.forall_mem_cons.mp h
    have hchar : lowerInContext before c cs = [c.toLower] := by
      unfold lowerInContext lowerChar
      rw [if_neg (by omega), if_pos hc]
    rw [lowerChars, hchar, ih _ hcs]
    rfl

theorem toList_lower_ascii {text : String} (h : isAscii text.toList = true) :
    (lower text).toList = lowered text.toList := by
  rw [lower, String.toList_ofList, lowerChars_ascii [] h]

theorem isAscii_join {texts : List (List Char)} (h : ∀ text ∈ texts, isAscii text = true) :
    isAscii ([' '].intercalate texts) = true := by
  induction texts with
  | nil => rfl
  | cons a rest ih =>
    obtain ⟨ha, hrest⟩ := List.forall_mem_cons.mp h
    cases rest with
    | nil => rwa [List.intercalate_singleton]
    | cons b rest =>
      rw [List.intercalate_cons_cons, isAscii, List.all_append, List.all_append, Bool.and_eq_true,
        Bool.and_eq_true]
      exact ⟨⟨ha, rfl⟩, ih hrest⟩

theorem lowered_join (texts : List (List Char)) :
    lowered ([' '].intercalate texts) = [' '].intercalate (texts.map lowered) := by
  induction texts with
  | nil => rfl
  | cons a rest ih =>
    cases rest with
    | nil => rw [List.map_singleton, List.intercalate_singleton, List.intercalate_singleton]
    | cons b rest =>
      rw [List.intercalate_cons_cons, List.map_cons, List.map_cons, List.intercalate_cons_cons,
        ← List.map_cons, ← ih]
      simp [lowered]

end DesignLens.Text

namespace DesignLens.Ranking

open Text Advice Scan

/-! ## Names and spellings in recommendations -/

def allKinds : List IndicatorKind :=
  [.highComplexity, .lowMaintainability, .largeFile, .globalState, .dynamicEvaluation,
    .printLogging, .largeFunction]

/-- All that a scan recommends. -/
def allRecommendations : List String := allKinds.map IndicatorKind.recommendation

theorem mem_allRecommendations (kind : IndicatorKind) :
    kind.recommendation ∈ allRecommendations := by
  refine List.mem_map_of_mem ?_
  cases kind <;> decide

/-- A text of ASCII letters that avoids the seams between texts, without regard to case. -/
def isSafe (texts : List (List Char)) (cs : List Char) : Bool :=
  !cs.isEmpty && isAscii cs && avoidsSeams (texts.map lowered) (lowered cs)

theorem isSafe_of_spelt {texts names : List String} {tss css : List (List Char)}
    (ht : Scaffold.Spelt texts tss) (hn : Scaffold.Spelt names css)
    (h : css.all (isSafe tss) = true) :
    ∀ name ∈ names, isSafe (texts.map String.toList) name.toList = true := by
  rw [ht.map_toList]
  exact hn.forall_toList h

theorem advisedNames_safe :
    ∀ name ∈ advisedNames, isSafe (allRecommendations.map String.toList) name.toList = true :=
  isSafe_of_spelt (by repeat constructor) (by repeat constructor) (by decide)

theorem aliases_safe : ∀ spelling ∈ Table.keys Naming.aliases,
    isSafe (allRecommendations.map String.toList) spelling.toList = true :=
  isSafe_of_spelt (by repeat constructor) (by repeat constructor) (by decide)

theorem aliases_lowered : ∀ spelling ∈ Table.keys Naming.aliases,
    (lowered spelling.toList == spelling.toList) = true :=
  Scaffold.Spelt.forall_toList (p := fun cs => lowered cs == cs) (by repeat constructor)
    (by decide)

theorem recommendations_ascii : ∀ text ∈ allRecommendations, isAscii text.toList = true :=
  Scaffold.Spelt.forall_toList (by repeat constructor) (by decide)

theorem isSafe_iff {texts : List (List Char)} {cs : List Char} : isSafe texts cs = true ↔
    cs ≠ [] ∧ isAscii cs = true ∧ avoidsSeams (texts.map lowered) (lowered cs) = true := by
  simp [isSafe, and_assoc]

theorem lowered_ne_nil {cs : List Char} (h : cs ≠ []) : lowered cs ≠ [] := by
  simpa [lowered] using h

/-- The letters of joined texts after the search has put them in lower case twice. -/
theorem toList_lower_words {texts : List String}
    (h : ∀ text ∈ texts, isAscii text.toList = true) :
    (lower (words none (" ".intercalate texts))).toList =
      [' '].intercalate (texts.map fun text => lowered text.toList) := by
  have hjoined : (" ".intercalate texts).toList = [' '].intercalate (texts.map String.toList) :=
    String.toList_intercalate
  have hascii : isAscii (" ".intercalate texts).toList = true := by
    rw [hjoined]
    refine isAscii_join fun cs hcs => ?_
    obtain ⟨text, htext, rfl⟩ := List.mem_map.mp hcs
    exact h text htext
  have honce : (words none (" ".intercalate texts)).toList =
      lowered (" ".intercalate texts).toList := toList_lower_ascii hascii
  have hagain : isAscii (words none (" ".intercalate texts)).toList = true := by
    rw [honce]
    exact isAscii_lowered hascii
  rw [toList_lower_ascii hagain, honce, lowered_lowered hascii, hjoined, lowered_join, List.map_map]
  rfl

/-- What is safe in the recommendations is found in some of them together only if it is found in one
of them. -/
theorem infix_words_iff {texts : List String} (h : ∀ text ∈ texts, text ∈ allRecommendations)
    {cs : List Char} (hsafe : isSafe (allRecommendations.map String.toList) cs = true) :
    lowered cs <:+: (lower (words none (" ".intercalate texts))).toList ↔
      ∃ text ∈ texts, lowered cs <:+: (lower (words none text)).toList := by
  have hascii : ∀ text ∈ texts, isAscii text.toList = true :=
    fun text htext => recommendations_ascii text (h text htext)
  have hsingle : ∀ text ∈ texts, (lower (words none text)).toList = lowered text.toList := by
    intro text htext
    have hone : ∀ t ∈ [text], isAscii t.toList = true := by
      intro t ht
      rw [List.mem_singleton.mp ht]
      exact hascii text htext
    simpa using toList_lower_words hone
  obtain ⟨hne, -, havoids⟩ := isSafe_iff.mp hsafe
  have hsub : (texts.map fun text => lowered text.toList) ⊆
      (allRecommendations.map String.toList).map lowered := by
    intro cs hcs
    obtain ⟨text, htext, rfl⟩ := List.mem_map.mp hcs
    exact List.mem_map_of_mem (List.mem_map_of_mem (h text htext))
  rw [toList_lower_words hascii, infix_join_iff (lowered_ne_nil hne) havoids hsub]
  constructor
  · rintro ⟨cs, hcs, hin⟩
    obtain ⟨text, htext, rfl⟩ := List.mem_map.mp hcs
    exact ⟨text, htext, (hsingle text htext).symm ▸ hin⟩
  · rintro ⟨text, htext, hin⟩
    exact ⟨_, List.mem_map_of_mem htext, hsingle text htext ▸ hin⟩

/-- Words in which something is found are not empty. -/
theorem ne_empty_of_inside {cs : List Char} (hne : cs ≠ []) {searched : String}
    (h : cs <:+: (lower searched).toList) : searched ≠ "" := by
  rintro rfl
  exact hne (List.infix_nil.mp h)

/-- Recommendations together mention a name if one of them does. -/
theorem mentions_words_iff {texts : List String} (h : ∀ text ∈ texts, text ∈ allRecommendations)
    {name : String} (hname : name ∈ advisedNames) :
    Mentions Naming.aliases (words none (" ".intercalate texts)) name ↔
      ∃ text ∈ texts, Mentions Naming.aliases (words none text) name := by
  have hsafe := advisedNames_safe name hname
  obtain ⟨hne, hascii, -⟩ := isSafe_iff.mp hsafe
  have hspelling : ∀ entry ∈ Naming.aliases,
      isSafe (allRecommendations.map String.toList) entry.1.toList = true ∧
        lowered entry.1.toList = entry.1.toList := by
    intro entry hentry
    have hkey : entry.1 ∈ Table.keys Naming.aliases := Table.mem_keys.mpr ⟨entry.2, hentry⟩
    exact ⟨aliases_safe _ hkey, by simpa using aliases_lowered _ hkey⟩
  have hne' : ∀ entry ∈ Naming.aliases, entry.1.toList ≠ [] :=
    fun entry hentry => (isSafe_iff.mp (hspelling entry hentry).1).1
  unfold Mentions
  rw [toList_lower_ascii hascii]
  constructor
  · rintro ⟨-, hin | ⟨entry, hentry, hin, hfits⟩⟩
    · obtain ⟨text, htext, hin⟩ := (infix_words_iff h hsafe).mp hin
      exact ⟨text, htext, ne_empty_of_inside (lowered_ne_nil hne) hin, Or.inl hin⟩
    · rw [← (hspelling entry hentry).2, infix_words_iff h (hspelling entry hentry).1] at hin
      obtain ⟨text, htext, hin⟩ := hin
      rw [(hspelling entry hentry).2] at hin
      exact ⟨text, htext, ne_empty_of_inside (hne' entry hentry) hin,
        Or.inr ⟨entry, hentry, hin, hfits⟩⟩
  · rintro ⟨text, htext, -, hin | ⟨entry, hentry, hin, hfits⟩⟩
    · have hin := (infix_words_iff h hsafe).mpr ⟨text, htext, hin⟩
      exact ⟨ne_empty_of_inside (lowered_ne_nil hne) hin, Or.inl hin⟩
    · rw [← (hspelling entry hentry).2] at hin
      have hin := (infix_words_iff h (hspelling entry hentry).1).mpr ⟨text, htext, hin⟩
      rw [(hspelling entry hentry).2] at hin
      exact ⟨ne_empty_of_inside (hne' entry hentry) hin, Or.inr ⟨entry, hentry, hin, hfits⟩⟩

/-! ## Rankings are determined -/

theorem eq_of_ascending {as bs : List String} (ha : as.Pairwise (· < ·)) (hb : bs.Pairwise (· < ·))
    (h : ∀ a, a ∈ as ↔ a ∈ bs) : as = bs := by
  have hnodup {l : List String} (hl : l.Pairwise (· < ·)) : l.Nodup :=
    hl.imp fun hlt => by
      rintro rfl
      exact String.lt_irrefl _ hlt
  refine List.Perm.eq_of_pairwise ?_ ha hb
    ((List.perm_ext_iff_of_nodup (hnodup ha) (hnodup hb)).mpr h)
  exact fun a b _ _ hab hba => absurd (String.lt_trans hab hba) (String.lt_irrefl a)

/-- The same speaks for names: the same kinds, and words that mention the same of them. -/
structure SameSupport (advice : Maps) (aliases : Table String) (kinds kinds' : List String)
    (words words' : String) : Prop where
  kinds : kinds.Perm kinds'
  patterns : ∀ name, IsHit advice.patterns aliases words name ↔
    IsHit advice.patterns aliases words' name
  architectures : ∀ name, IsHit advice.architectures aliases words name ↔
    IsHit advice.architectures aliases words' name

section

variable {advice : Maps} {aliases : Table String} {kinds kinds' : List String}
  {words words' : String} {targets targets' : List Target}

theorem SameSupport.symm (h : SameSupport advice aliases kinds kinds' words words') :
    SameSupport advice aliases kinds' kinds words' words :=
  ⟨h.kinds.symm, fun name => (h.patterns name).symm, fun name => (h.architectures name).symm⟩

theorem SameSupport.totalWeight_eq (h : SameSupport advice aliases kinds kinds' words words')
    (name : String) :
    totalWeight advice aliases kinds words name =
      totalWeight advice aliases kinds' words' name := by
  unfold totalWeight
  rw [(h.kinds.map fun kind => indicatorWeight advice kind name).sum_eq]
  simp only [h.patterns, h.architectures]

theorem IsRanking.subset (h : IsRanking advice aliases kinds words targets)
    (h' : IsRanking advice aliases kinds' words' targets')
    (hsame : SameSupport advice aliases kinds kinds' words words') : targets ⊆ targets' := by
  intro t ht
  have hname : t.name ∈ targets'.map Target.name := by
    rw [h'.occurs, ← hsame.totalWeight_eq, ← h.occurs]
    exact List.mem_map_of_mem ht
  obtain ⟨t', ht', hname⟩ := List.mem_map.mp hname
  have hweight : t'.weight = t.weight := by
    rw [h.weight t ht, h'.weight t' ht', hname, hsame.totalWeight_eq]
  have hreasons : t'.reasons = t.reasons := by
    refine eq_of_ascending (h'.reasons_ascend t' ht') (h.reasons_ascend t ht) fun reason => ?_
    rw [h.reasons t ht, h'.reasons t' ht', hname, hsame.kinds.mem_iff, hsame.patterns,
      hsame.architectures]
  have hcategory : t'.category = t.category := by
    have hiff : t'.category = .pattern ↔ t.category = .pattern := by
      rw [h.category t ht, h'.category t' ht', hname]
    cases hc : t.category <;> cases hc' : t'.category <;> simp_all
  have heq : t' = t := by
    cases t
    cases t'
    simp_all
  exact heq ▸ ht'

/-- A ranking is determined by what speaks for the names. -/
theorem IsRanking.unique (h : IsRanking advice aliases kinds words targets)
    (h' : IsRanking advice aliases kinds' words' targets')
    (hsame : SameSupport advice aliases kinds kinds' words words') : targets = targets' := by
  have hperm : targets.Perm targets' := by
    rw [List.perm_ext_iff_of_nodup h.distinct.of_map h'.distinct.of_map]
    exact fun t => ⟨fun ht => h.subset h' hsame ht, fun ht => h'.subset h hsame.symm ht⟩
  refine hperm.eq_of_pairwise ?_ h.ordered h'.ordered
  exact fun a b _ _ hab hba => absurd (outranks_trans hab hba) (outranks_irrefl _)

end

end DesignLens.Ranking

namespace DesignLens.Enforcement

open Ranking Advice Text

/-! ## Results in another order -/

theorem mem_recommendations {r : Scan.Result} {text : String} (h : text ∈ r.recommendations) :
    text ∈ allRecommendations := by
  unfold Scan.Result.recommendations Scan.recommendations at h
  obtain ⟨i, -, rfl⟩ := List.mem_map.mp (List.mem_eraseDups.mp h)
  exact mem_allRecommendations i.kind

/-- Hits in recommendations do not depend on their order. -/
theorem isHit_words_perm {advice : Table String} (hadvice : Table.keys advice ⊆ advisedNames)
    {texts texts' : List String} (h : texts.Perm texts')
    (htexts : ∀ text ∈ texts, text ∈ allRecommendations) (name : String) :
    IsHit advice Naming.aliases (words none (" ".intercalate texts)) name ↔
      IsHit advice Naming.aliases (words none (" ".intercalate texts')) name := by
  refine and_congr_right fun hname => ?_
  rw [mentions_words_iff htexts (hadvice hname),
    mentions_words_iff (fun text htext => htexts text (h.mem_iff.mpr htext)) (hadvice hname)]
  simp only [h.mem_iff]

theorem rankAll_perm_of_named {s : Setting} (hadvice : s.advice.Named)
    (houtline : ∀ text, s.outline text = none) {results results' : List Scan.Result}
    (h : results.Perm results') :
    rankAll s results = rankAll s results' := by
  have hindicators : (results.flatMap fun r => r.indicators).Perm
      (results'.flatMap fun r => r.indicators) := h.flatMap_right _
  have htexts : (results.flatMap fun r => r.recommendations).Perm
      (results'.flatMap fun r => r.recommendations) := h.flatMap_right _
  have hrecommended : ∀ text ∈ results.flatMap fun r => r.recommendations,
      text ∈ allRecommendations := by
    intro text htext
    obtain ⟨r, -, hr⟩ := List.mem_flatMap.mp htext
    exact mem_recommendations hr
  unfold rankAll Setting.rank
  simp only [houtline]
  have hp := hadvice.distinct .pattern
  have ha := hadvice.distinct .architecture
  refine (rank_isRanking hp ha ..).unique (rank_isRanking hp ha ..) ⟨hindicators.map _, ?_, ?_⟩
  · exact isHit_words_perm (hadvice.advised .pattern) htexts hrecommended
  · exact isHit_words_perm (hadvice.advised .architecture) htexts hrecommended

theorem scan_perm {instruments : Metrics.Instruments} {t : Workspace.Tree}
    {files files' : List String} (h : files.Perm files') {results : List Scan.Result}
    (hscan : Scan.scan instruments t ⟨none, files⟩ = .ok (.ok results)) :
    ∃ results', Scan.scan instruments t ⟨none, files'⟩ = .ok (.ok results') ∧
      results.Perm results' := by
  have hempty : Analysis.Subject.isEmpty ⟨none, files'⟩ = Analysis.Subject.isEmpty ⟨none, files⟩ :=
    h.symm.isEmpty_eq
  unfold Scan.scan at hscan ⊢
  cases hmeter : Scan.scanMeter instruments with
  | error message => simp [hmeter] at hscan
  | ok meter =>
    simp only [hmeter] at hscan ⊢
    rw [hempty]
    split_ifs at hscan ⊢ with hnone
    · exact nomatch hscan
    · obtain ⟨texts, htexts, hscan⟩ := bind_eq_ok.mp hscan
      obtain ⟨found, hfound, hscan⟩ := bind_eq_ok.mp hscan
      obtain rfl := Except.ok.inj (pure_eq_ok.mp hscan)
      obtain ⟨texts', htexts', hperm⟩ := mapM_perm (h.map _) htexts
      obtain ⟨found', hfound', hperm⟩ := mapM_perm hperm hfound
      exact ⟨found', bind_eq_ok.mpr ⟨texts', htexts', bind_eq_ok.mpr ⟨found', hfound', rfl⟩⟩, hperm⟩

/-- The ranking that is enforced depends neither on the order of the results of a scan nor on the
order in which the files are scanned. -/
theorem rankAll_perm {s : Setting} (hadvice : s.advice = .shipped)
    (houtline : ∀ text, s.outline text = none) :
    (∀ results results' : List Scan.Result, results.Perm results' →
      rankAll s results = rankAll s results') ∧
    ∀ (t : Workspace.Tree) (files files' : List String), files.Perm files' →
      ∀ results, Scan.scan s.instruments t ⟨none, files⟩ = .ok (.ok results) →
        ∃ results', Scan.scan s.instruments t ⟨none, files'⟩ = .ok (.ok results') ∧
          rankAll s results = rankAll s results' := by
  have hnamed : s.advice.Named := hadvice ▸ Maps.shipped_named
  refine ⟨fun results results' h => rankAll_perm_of_named hnamed houtline h, ?_⟩
  intro t files files' h results hscan
  obtain ⟨results', hscan', hperm⟩ := scan_perm h hscan
  exact ⟨results', hscan', rankAll_perm_of_named hnamed houtline hperm⟩

/-- A result with one indicator. -/
def indicating (source : String) (kind : Scan.IndicatorKind) : Scan.Result :=
  ⟨source, .obj [], [⟨kind, []⟩]⟩

/-- "Split module by responsibility ..." and "Strategy or Template Method ..." are joined either
way round. -/
theorem rankAll_perm_two_files :
    (Proposal.shippedSetting plainSetting).advice = .shipped ∧
      (∀ text, (Proposal.shippedSetting plainSetting).outline text = none) ∧
      rankAll (Proposal.shippedSetting plainSetting)
          [indicating "a.py" .highComplexity, indicating "b.py" .largeFile] =
        rankAll (Proposal.shippedSetting plainSetting)
          [indicating "b.py" .largeFile, indicating "a.py" .highComplexity] := by
  have hadvice := Proposal.shippedSetting_advice plainSetting
  exact ⟨hadvice, fun _ => rfl, (rankAll_perm hadvice fun _ => rfl).1 _ _ (.swap ..)⟩

end DesignLens.Enforcement
