import DesignLens.Proofs.RankingOrder
import DesignLens.Proofs.TableEntries
import Mathlib.Algebra.GroupWithZero.Nat
import Mathlib.Algebra.Order.BigOperators.Group.List

/-!
# What the weights of a ranking are

Everything that speaks for a name is a ballot: a reason, the name and a weight. Counting the ballots
of a ranking gives each name one tally, and the ballots for a name add up to a closed formula over
the indicators and the words of the recommendations. The ranking is then the table of the names with
a positive weight in the order of `Outranks`.

The formula does not go through the tallies. It assumes that no name is repeated within one of the
two tables of advice, as in every table of advice that is built by insertion.
-/

namespace DesignLens.Ranking

/-! ## Counting ballots -/

structure Ballot where
  reason : String
  name : String
  weight : Nat
  deriving DecidableEq

def castBallot (tallies : Table Tally) (b : Ballot) : Table Tally :=
  addVote b.reason tallies (b.name, b.weight)

def countBallots (bs : List Ballot) : Table Tally := bs.foldl castBallot []

/-- The tally of a name; a name without ballots has an empty one. -/
def tallyOf (tallies : Table Tally) (name : String) : Tally :=
  (Table.find? name tallies).getD ⟨0, []⟩

theorem tallyOf_castBallot (tallies : Table Tally) (b : Ballot) (name : String) :
    tallyOf (castBallot tallies b) name =
      if b.name = name then
        ⟨(tallyOf tallies name).weight + b.weight,
          if (tallyOf tallies name).reasons.contains b.reason then (tallyOf tallies name).reasons
          else (tallyOf tallies name).reasons ++ [b.reason]⟩
      else tallyOf tallies name := by
  unfold tallyOf castBallot addVote
  rw [Table.find?_insert]
  by_cases h : b.name = name
  · subst h
    rw [if_pos rfl, if_pos rfl]
    rfl
  · rw [if_neg h, if_neg h]

theorem mem_keys_castBallot {tallies : Table Tally} {b : Ballot} {name : String} :
    name ∈ Table.keys (castBallot tallies b) ↔ name = b.name ∨ name ∈ Table.keys tallies :=
  Table.mem_keys_insert

theorem mem_reasons_castBallot {tallies : Table Tally} {b : Ballot} {name reason : String} :
    reason ∈ (tallyOf (castBallot tallies b) name).reasons ↔
      (b.name = name ∧ b.reason = reason) ∨ reason ∈ (tallyOf tallies name).reasons := by
  rw [tallyOf_castBallot]
  by_cases hn : b.name = name
  · by_cases hr : b.reason ∈ (tallyOf tallies name).reasons
    · simp only [hn, if_true, List.contains_iff_mem, hr, true_and]
      constructor
      · exact Or.inr
      · rintro (rfl | h)
        · exact hr
        · exact h
    · simp [hn, hr, or_comm, eq_comm]
  · simp [hn]

/-- The sum of the weights of the ballots for a name. -/
def weightIn (bs : List Ballot) (name : String) : Nat :=
  ((bs.filter fun b => b.name = name).map Ballot.weight).sum

theorem weightIn_append (as bs : List Ballot) (name : String) :
    weightIn (as ++ bs) name = weightIn as name + weightIn bs name := by
  simp [weightIn]

theorem weightIn_flatMap {β : Type} (f : β → List Ballot) (l : List β) (name : String) :
    weightIn (l.flatMap f) name = (l.map fun x => weightIn (f x) name).sum := by
  induction l with
  | nil => rfl
  | cons x l ih => rw [List.flatMap_cons, weightIn_append, ih, List.map_cons, List.sum_cons]

theorem weight_countFrom (bs : List Ballot) (tallies : Table Tally) (name : String) :
    (tallyOf (bs.foldl castBallot tallies) name).weight =
      (tallyOf tallies name).weight + weightIn bs name := by
  induction bs generalizing tallies with
  | nil => rfl
  | cons b bs ih =>
    rw [List.foldl_cons, ih, tallyOf_castBallot]
    by_cases h : b.name = name
    · simp only [h, if_true, weightIn, decide_true, List.filter_cons_of_pos, List.map_cons,
        List.sum_cons]
      omega
    · simp [h, weightIn]

theorem mem_reasons_countFrom {bs : List Ballot} {tallies : Table Tally} {name reason : String} :
    reason ∈ (tallyOf (bs.foldl castBallot tallies) name).reasons ↔
      reason ∈ (tallyOf tallies name).reasons ∨
        ∃ b ∈ bs, b.name = name ∧ b.reason = reason := by
  induction bs generalizing tallies with
  | nil => simp
  | cons b bs ih =>
    rw [List.foldl_cons, ih, mem_reasons_castBallot]
    simp only [List.mem_cons, exists_eq_or_imp]
    tauto

theorem nodup_reasons_countFrom (bs : List Ballot) (tallies : Table Tally) (name : String)
    (h : (tallyOf tallies name).reasons.Nodup) :
    (tallyOf (bs.foldl castBallot tallies) name).reasons.Nodup := by
  induction bs generalizing tallies with
  | nil => exact h
  | cons b bs ih =>
    rw [List.foldl_cons]
    apply ih
    rw [tallyOf_castBallot]
    split_ifs with hn hr
    · exact h
    · rw [List.contains_iff_mem] at hr
      exact h.append (List.nodup_singleton _) (by simpa using hr)
    · exact h

theorem mem_keys_countFrom {bs : List Ballot} {tallies : Table Tally} {name : String} :
    name ∈ Table.keys (bs.foldl castBallot tallies) ↔
      name ∈ Table.keys tallies ∨ ∃ b ∈ bs, b.name = name := by
  induction bs generalizing tallies with
  | nil => simp
  | cons b bs ih =>
    rw [List.foldl_cons, ih, mem_keys_castBallot]
    simp only [List.mem_cons, exists_eq_or_imp]
    tauto

theorem nodup_keys_countFrom (bs : List Ballot) (tallies : Table Tally)
    (h : (Table.keys tallies).Nodup) : (Table.keys (bs.foldl castBallot tallies)).Nodup := by
  induction bs generalizing tallies with
  | nil => exact h
  | cons b bs ih =>
    rw [List.foldl_cons]
    exact ih _ (Table.nodup_keys_insert _ h)

theorem mem_keys_countBallots {bs : List Ballot} {name : String} :
    name ∈ Table.keys (countBallots bs) ↔ ∃ b ∈ bs, b.name = name := by
  rw [countBallots, mem_keys_countFrom]
  simp [Table.keys]

theorem nodup_keys_countBallots (bs : List Ballot) : (Table.keys (countBallots bs)).Nodup :=
  nodup_keys_countFrom bs [] List.nodup_nil

/-! ## The ballots of a ranking -/

def indicatorBallots (advice : Advice.Maps) (kind : String) : List Ballot :=
  (spokenFor advice kind).map fun v => ⟨kind, v.1, v.2⟩

def mentionBallots (advice : Table String) (aliases : Table String) (words : String) :
    List Ballot :=
  if words.isEmpty then []
  else (mentioned words (Table.keys advice) aliases).map fun name => ⟨recommendation, name, 1⟩

def ballots (advice : Advice.Maps) (aliases : Table String) (kinds : List String)
    (words : String) : List Ballot :=
  kinds.flatMap (indicatorBallots advice) ++
    (mentionBallots advice.patterns aliases words ++
      mentionBallots advice.architectures aliases words)

theorem addIndicator_eq (advice : Advice.Maps) (tallies : Table Tally) (kind : String) :
    addIndicator advice tallies kind = (indicatorBallots advice kind).foldl castBallot tallies := by
  rw [indicatorBallots, List.foldl_map]
  rfl

theorem addMentions_eq (advice : Advice.Maps) (aliases : Table String) (words : String)
    (tallies : Table Tally) :
    addMentions advice aliases words tallies =
      (mentionBallots advice.patterns aliases words ++
        mentionBallots advice.architectures aliases words).foldl castBallot tallies := by
  unfold addMentions mentionBallots
  split_ifs
  · rfl
  · rw [← List.map_append, List.foldl_map, List.foldl_map]
    rfl

/-- The two loops over indicators and mentions count the ballots one after another. -/
theorem tallies_eq_countBallots (advice : Advice.Maps) (aliases : Table String)
    (kinds : List String) (words : String) :
    addMentions advice aliases words (kinds.foldl (addIndicator advice) []) =
      countBallots (ballots advice aliases kinds words) := by
  have hkinds : kinds.foldl (addIndicator advice) [] =
      (kinds.flatMap (indicatorBallots advice)).foldl castBallot [] := by
    rw [List.foldl_flatMap]
    exact List.foldl_ext _ _ _ fun tallies kind _ => addIndicator_eq advice tallies kind
  rw [addMentions_eq, hkinds, ← List.foldl_append]
  rfl

/-! ## The formula for the weights -/

/-- What one indicator of a kind adds to the weight of a name: the bonus of a favourite, or else the
number of tables of advice that have the name. An unknown kind adds nothing. -/
def indicatorWeight (advice : Advice.Maps) (kind name : String) : Nat :=
  match Table.find? kind favourites with
  | none => 0
  | some chosen =>
    match Table.find? name chosen with
    | some bonus => bonus
    | none =>
      (if name ∈ Table.keys advice.patterns then 1 else 0) +
        if name ∈ Table.keys advice.architectures then 1 else 0

/-- Words mention a name outright or through a spelling of something that the name is or that is
part of it, without regard to case. No name is mentioned by no words. -/
def Mentions (aliases : Table String) (words name : String) : Prop :=
  words ≠ "" ∧
    ((Text.lower name).toList <:+: (Text.lower words).toList ∨
      ∃ entry ∈ aliases, entry.1.toList <:+: (Text.lower words).toList ∧
        (Naming.simplify name = Naming.simplify entry.2 ∨
          entry.2.toList <:+: (Text.lower name).toList))

/-- A name that there is advice on and that the words mention. -/
def IsHit (advice : Table String) (aliases : Table String) (words name : String) : Prop :=
  name ∈ Table.keys advice ∧ Mentions aliases words name

instance (aliases : Table String) (words name : String) : Decidable (Mentions aliases words name) :=
  inferInstanceAs (Decidable (_ ∧ _))

instance (advice aliases : Table String) (words name : String) :
    Decidable (IsHit advice aliases words name) :=
  inferInstanceAs (Decidable (_ ∧ _))

/-- All that speaks for a name. -/
def totalWeight (advice : Advice.Maps) (aliases : Table String) (kinds : List String)
    (words name : String) : Nat :=
  (kinds.map fun kind => indicatorWeight advice kind name).sum +
    ((if IsHit advice.patterns aliases words name then 1 else 0) +
      if IsHit advice.architectures aliases words name then 1 else 0)

theorem mem_mentioned {words name : String} {names : List String} {aliases : Table String}
    (hw : words ≠ "") :
    name ∈ mentioned words names aliases ↔ name ∈ names ∧ Mentions aliases words name := by
  simp only [mentioned, List.mem_filter, Bool.or_eq_true, Text.occurs_iff, List.any_eq_true,
    Table.values, List.mem_map, beq_iff_eq, Mentions, hw, ne_eq, not_false_eq_true, true_and]
  refine and_congr_right fun _ => or_congr_right ?_
  constructor
  · rintro ⟨canonical, ⟨entry, ⟨hm, ho⟩, rfl⟩, hs⟩
    exact ⟨entry, hm, ho, hs⟩
  · rintro ⟨entry, hm, ho, hs⟩
    exact ⟨entry.2, ⟨entry, ⟨hm, ho⟩, rfl⟩, hs⟩

theorem mem_mentionBallots {advice aliases : Table String} {words : String} {b : Ballot} :
    b ∈ mentionBallots advice aliases words ↔
      b.reason = recommendation ∧ b.weight = 1 ∧ IsHit advice aliases words b.name := by
  unfold mentionBallots
  by_cases hw : words = ""
  · simp [hw, IsHit, Mentions]
  · rw [if_neg (by simpa using hw), List.mem_map]
    constructor
    · rintro ⟨name, hm, rfl⟩
      exact ⟨rfl, rfl, (mem_mentioned hw).mp hm⟩
    · rintro ⟨hr, hone, hit⟩
      refine ⟨b.name, (mem_mentioned hw).mpr hit, ?_⟩
      rw [← hr, ← hone]

/-- Ballots of weight one count how often a name occurs. -/
theorem weightIn_ones (reason : String) (names : List String) (name : String) :
    weightIn (names.map fun n => ⟨reason, n, 1⟩) name = names.count name := by
  induction names with
  | nil => rfl
  | cons n names ih =>
    rw [List.map_cons, ← List.singleton_append, weightIn_append, ih, List.count_cons]
    by_cases h : n = name <;> simp [weightIn, h, Nat.add_comm]

theorem weightIn_mentionBallots {advice aliases : Table String} {words : String}
    (hn : (Table.keys advice).Nodup) (name : String) :
    weightIn (mentionBallots advice aliases words) name =
      if IsHit advice aliases words name then 1 else 0 := by
  unfold mentionBallots
  by_cases hw : words = ""
  · simp [hw, IsHit, Mentions, weightIn]
  · have hm : (mentioned words (Table.keys advice) aliases).Nodup := hn.filter _
    rw [if_neg (by simpa using hw), weightIn_ones, hm.count]
    exact if_congr (mem_mentioned hw) rfl rfl

theorem favourites_nodup : ∀ entry ∈ favourites, (Table.keys entry.2).Nodup := by decide

theorem favourites_pos : ∀ entry ∈ favourites, ∀ v ∈ entry.2, 0 < v.2 := by decide

/-- In a table without repetitions the entries of a name add up to the one that is found. -/
theorem weightIn_table (reason : String) (t : Table Nat) (hn : (Table.keys t).Nodup)
    (name : String) :
    weightIn (t.map fun v => ⟨reason, v.1, v.2⟩) name = (Table.find? name t).getD 0 := by
  induction t with
  | nil => rfl
  | cons v t ih =>
    simp only [Table.keys, List.map_cons, List.nodup_cons] at hn
    rw [List.map_cons, ← List.singleton_append, weightIn_append, ih hn.2, Table.find?_cons]
    by_cases h : v.1 = name
    · have hnone : Table.find? name t = none := Table.find?_eq_none_iff.mpr (h ▸ hn.1)
      simp [weightIn, h, hnone]
    · simp [weightIn, h]

/-- What an indicator speaks for besides its favourites, with the names counted as often as they
have advice. -/
theorem weightIn_others {advice : Advice.Maps} (hp : (Table.keys advice.patterns).Nodup)
    (ha : (Table.keys advice.architectures).Nodup) (reason : String) (chosen : Table Nat)
    (name : String) :
    weightIn (((Table.keys advice.patterns ++ Table.keys advice.architectures).filter
        fun n => !Table.contains n chosen).map fun n => ⟨reason, n, 1⟩) name =
      if name ∈ Table.keys chosen then 0
      else (if name ∈ Table.keys advice.patterns then 1 else 0) +
        if name ∈ Table.keys advice.architectures then 1 else 0 := by
  rw [weightIn_ones]
  split_ifs with hc
  · rw [List.count_eq_zero, List.mem_filter]
    rintro ⟨-, hnot⟩
    simp [Table.contains_iff_mem_keys.mpr hc] at hnot
  all_goals
    rw [List.count_filter (by simpa [← Table.contains_iff_mem_keys] using hc), List.count_append,
      hp.count, ha.count]
    simp [*]

theorem weightIn_indicatorBallots {advice : Advice.Maps} (hp : (Table.keys advice.patterns).Nodup)
    (ha : (Table.keys advice.architectures).Nodup) (kind name : String) :
    weightIn (indicatorBallots advice kind) name = indicatorWeight advice kind name := by
  unfold indicatorBallots spokenFor indicatorWeight
  cases hk : Table.find? kind favourites with
  | none => rfl
  | some chosen =>
    have hchosen : (Table.keys chosen).Nodup := favourites_nodup _ (Table.mem_of_find? hk)
    have hothers := weightIn_others hp ha kind chosen name
    simp only [List.map_append, List.map_map, Function.comp_def, weightIn_append,
      weightIn_table kind chosen hchosen name, hothers]
    cases hc : Table.find? name chosen with
    | none => simp [Table.find?_eq_none_iff.mp hc]
    | some bonus => simp [Table.mem_keys_of_find? hc]

theorem weightIn_ballots {advice : Advice.Maps} (hp : (Table.keys advice.patterns).Nodup)
    (ha : (Table.keys advice.architectures).Nodup) (aliases : Table String) (kinds : List String)
    (words name : String) :
    weightIn (ballots advice aliases kinds words) name =
      totalWeight advice aliases kinds words name := by
  rw [ballots, weightIn_append, weightIn_append, weightIn_flatMap, weightIn_mentionBallots hp,
    weightIn_mentionBallots ha, totalWeight]
  simp only [weightIn_indicatorBallots hp ha]

/-! ## Positive weights -/

theorem indicatorBallots_pos {advice : Advice.Maps} {kind : String} :
    ∀ b ∈ indicatorBallots advice kind, 0 < b.weight := by
  intro b hb
  unfold indicatorBallots spokenFor at hb
  cases hk : Table.find? kind favourites with
  | none => simp [hk] at hb
  | some chosen =>
    simp only [hk, List.map_append, List.map_map, List.mem_append, List.mem_map] at hb
    rcases hb with ⟨v, hv, rfl⟩ | ⟨n, -, rfl⟩
    · exact favourites_pos _ (Table.mem_of_find? hk) v hv
    · exact Nat.one_pos

theorem mem_ballots {advice : Advice.Maps} {aliases : Table String} {kinds : List String}
    {words : String} {b : Ballot} :
    b ∈ ballots advice aliases kinds words ↔
      (∃ kind ∈ kinds, b ∈ indicatorBallots advice kind) ∨
        b.reason = recommendation ∧ b.weight = 1 ∧
          (IsHit advice.patterns aliases words b.name ∨
            IsHit advice.architectures aliases words b.name) := by
  simp only [ballots, List.mem_append, List.mem_flatMap, mem_mentionBallots, and_or_left]

theorem ballots_pos {advice : Advice.Maps} {aliases : Table String} {kinds : List String}
    {words : String} : ∀ b ∈ ballots advice aliases kinds words, 0 < b.weight := by
  intro b hb
  rcases mem_ballots.mp hb with ⟨kind, -, hb⟩ | ⟨-, hone, -⟩
  · exact indicatorBallots_pos b hb
  · exact hone ▸ Nat.one_pos

theorem weightIn_pos_iff {bs : List Ballot} {name : String} (hpos : ∀ b ∈ bs, 0 < b.weight) :
    0 < weightIn bs name ↔ ∃ b ∈ bs, b.name = name := by
  rw [weightIn, List.sum_pos_iff_exists_pos_nat]
  simp only [List.mem_map, List.mem_filter, decide_eq_true_eq]
  constructor
  · rintro ⟨w, ⟨b, ⟨hb, hn⟩, -⟩, -⟩
    exact ⟨b, hb, hn⟩
  · rintro ⟨b, hb, hn⟩
    exact ⟨b.weight, ⟨b, ⟨hb, hn⟩, rfl⟩, hpos b hb⟩

theorem reason_indicatorBallots {advice : Advice.Maps} {kind : String} {b : Ballot}
    (hb : b ∈ indicatorBallots advice kind) : b.reason = kind := by
  obtain ⟨v, -, rfl⟩ := List.mem_map.mp hb
  rfl

/-- The reasons on the ballots for a name: the kinds of indicators that add to its weight, and the
recommendation if that mentions it. -/
theorem reasons_ballots {advice : Advice.Maps} (hp : (Table.keys advice.patterns).Nodup)
    (ha : (Table.keys advice.architectures).Nodup) {aliases : Table String} {kinds : List String}
    {words name reason : String} :
    (∃ b ∈ ballots advice aliases kinds words, b.name = name ∧ b.reason = reason) ↔
      (reason ∈ kinds ∧ 0 < indicatorWeight advice reason name) ∨
        reason = recommendation ∧
          (IsHit advice.patterns aliases words name ∨
            IsHit advice.architectures aliases words name) := by
  constructor
  · rintro ⟨b, hb, rfl, rfl⟩
    rcases mem_ballots.mp hb with ⟨kind, hkind, hb⟩ | ⟨hr, -, hit⟩
    · have hr := reason_indicatorBallots hb
      refine Or.inl ⟨hr ▸ hkind, ?_⟩
      rw [hr, ← weightIn_indicatorBallots hp ha, weightIn_pos_iff indicatorBallots_pos]
      exact ⟨b, hb, rfl⟩
    · exact Or.inr ⟨hr, hit⟩
  · rintro (⟨hkind, hpos⟩ | ⟨rfl, hit⟩)
    · rw [← weightIn_indicatorBallots hp ha, weightIn_pos_iff indicatorBallots_pos] at hpos
      obtain ⟨b, hb, hn⟩ := hpos
      exact ⟨b, mem_ballots.mpr (Or.inl ⟨reason, hkind, hb⟩), hn, reason_indicatorBallots hb⟩
    · exact ⟨⟨recommendation, name, 1⟩, mem_ballots.mpr (Or.inr ⟨rfl, rfl, hit⟩), rfl, rfl⟩

/-! ## Rankings -/

theorem rank_eq (advice : Advice.Maps) (aliases : Table String) (kinds : List String)
    (words : String) :
    rank advice aliases kinds words =
      ((countBallots (ballots advice aliases kinds words)).map
        fun entry => Target.ofTally advice entry.1 entry.2).mergeSort Target.precedes := by
  rw [rank, tallies_eq_countBallots]

theorem mem_rank {advice : Advice.Maps} {aliases : Table String} {kinds : List String}
    {words : String} {t : Target} (ht : t ∈ rank advice aliases kinds words) :
    (∃ b ∈ ballots advice aliases kinds words, b.name = t.name) ∧
      t = Target.ofTally advice t.name
        (tallyOf (countBallots (ballots advice aliases kinds words)) t.name) := by
  rw [rank_eq, List.mem_mergeSort, List.mem_map] at ht
  obtain ⟨⟨name, tally⟩, hm, rfl⟩ := ht
  have hfound : tallyOf (countBallots (ballots advice aliases kinds words)) name = tally := by
    rw [tallyOf, Table.find?_of_mem (nodup_keys_countBallots _) hm]
    rfl
  exact ⟨mem_keys_countBallots.mp (Table.mem_keys.mpr ⟨tally, hm⟩),
    congrArg (Target.ofTally advice name) hfound.symm⟩

theorem names_rank_perm (advice : Advice.Maps) (aliases : Table String) (kinds : List String)
    (words : String) :
    ((rank advice aliases kinds words).map Target.name).Perm
      (Table.keys (countBallots (ballots advice aliases kinds words))) := by
  rw [rank_eq]
  refine ((List.mergeSort_perm _ _).map _).trans ?_
  rw [List.map_map]
  exact List.Perm.refl _

/-- The names of a ranking are different, whatever the advice. -/
theorem rank_names_nodup (advice : Advice.Maps) (aliases : Table String) (kinds : List String)
    (words : String) : ((rank advice aliases kinds words).map Target.name).Nodup :=
  (names_rank_perm advice aliases kinds words).nodup_iff.mpr
    (nodup_keys_countBallots _)

/-- A ranking is in strict order, whatever the advice. -/
theorem rank_pairwise_outranks (advice : Advice.Maps) (aliases : Table String)
    (kinds : List String) (words : String) :
    (rank advice aliases kinds words).Pairwise fun a b => Outranks a.standing b.standing := by
  rw [rank_eq]
  apply pairwise_outranks_mergeSort Target.standing
  rw [List.map_map]
  exact nodup_keys_countBallots _

/-- The category of a target goes by its name alone. -/
theorem category_of_mem_rank {advice : Advice.Maps} {aliases : Table String} {kinds : List String}
    {words : String} {t : Target} (ht : t ∈ rank advice aliases kinds words) :
    t.category =
      if Table.contains t.name advice.patterns then .pattern else .architecture := by
  have h := (mem_rank ht).2
  exact congrArg Target.category h

/-- The ranking that indicators of some kinds and some words of recommendations call for. -/
structure IsRanking (advice : Advice.Maps) (aliases : Table String) (kinds : List String)
    (words : String) (targets : List Target) : Prop where
  distinct : (targets.map Target.name).Nodup
  ordered : targets.Pairwise fun a b => Outranks a.standing b.standing
  occurs : ∀ name, name ∈ targets.map Target.name ↔ 0 < totalWeight advice aliases kinds words name
  weight : ∀ t ∈ targets, t.weight = totalWeight advice aliases kinds words t.name
  reasons_ascend : ∀ t ∈ targets, t.reasons.Pairwise (· < ·)
  reasons : ∀ t ∈ targets, ∀ reason, reason ∈ t.reasons ↔
    (reason ∈ kinds ∧ 0 < indicatorWeight advice reason t.name) ∨
      reason = recommendation ∧
        (IsHit advice.patterns aliases words t.name ∨
          IsHit advice.architectures aliases words t.name)
  category : ∀ t ∈ targets, t.category = .pattern ↔ t.name ∈ Table.keys advice.patterns

theorem rank_isRanking {advice : Advice.Maps} (hp : (Table.keys advice.patterns).Nodup)
    (ha : (Table.keys advice.architectures).Nodup) (aliases : Table String) (kinds : List String)
    (words : String) :
    IsRanking advice aliases kinds words (rank advice aliases kinds words) where
  distinct := rank_names_nodup advice aliases kinds words
  ordered := rank_pairwise_outranks advice aliases kinds words
  occurs := by
    intro name
    rw [(names_rank_perm advice aliases kinds words).mem_iff, mem_keys_countBallots,
      ← weightIn_ballots hp ha, weightIn_pos_iff ballots_pos]
  weight := by
    intro t ht
    rw [← weightIn_ballots hp ha]
    have hweight := weight_countFrom (ballots advice aliases kinds words) [] t.name
    rw [show (tallyOf [] t.name).weight = 0 from rfl, Nat.zero_add] at hweight
    exact (congrArg Target.weight (mem_rank ht).2).trans hweight
  reasons_ascend := by
    intro t ht
    rw [show t.reasons = _ from congrArg Target.reasons (mem_rank ht).2]
    exact Text.sort_pairwise_lt (nodup_reasons_countFrom _ [] _ List.nodup_nil)
  reasons := by
    intro t ht reason
    rw [show t.reasons = _ from congrArg Target.reasons (mem_rank ht).2, ← reasons_ballots hp ha]
    simp only [Target.ofTally, Text.mem_sort, countBallots, mem_reasons_countFrom]
    rw [show (tallyOf [] t.name).reasons = [] from rfl]
    simp
  category := by
    intro t ht
    rw [category_of_mem_rank ht, ← Table.contains_iff_mem_keys]
    split_ifs with h <;> simp [h]

/-! ## Indicators and recommendations as values -/

/-- The kind that an indicator names; one that names none has an empty kind. -/
def kindIn (indicator : Table Json) : String :=
  ((Table.find? "type" indicator).getD (.str "")).shown

theorem mapM_kindOf (indicators : List (Table Json)) :
    (indicators.map Json.obj).mapM kindOf = .ok (indicators.map kindIn) := by
  induction indicators with
  | nil => rfl
  | cons indicator indicators ih =>
    rw [List.map_cons, List.mapM_cons, ih]
    rfl

/-- Ranking always succeeds on indicators that are objects and recommendations that are texts, and
gives the targets with their exact weights, reasons and categories in strict order. -/
theorem rankValues_isRanking (outline : Option Outline) (advice : Advice.Maps)
    (hp : (Table.keys advice.patterns).Nodup) (ha : (Table.keys advice.architectures).Nodup)
    (aliases : Table String) (indicators : List (Table Json)) (recommendations : List String) :
    ∃ targets,
      rankValues outline advice aliases (indicators.map Json.obj) (recommendations.map Json.str) =
        .ok targets ∧
      IsRanking advice aliases (indicators.map kindIn)
        (words outline (" ".intercalate recommendations)) targets := by
  refine ⟨_, ?_, rank_isRanking hp ha aliases (indicators.map kindIn)
    (words outline (" ".intercalate recommendations))⟩
  unfold rankValues
  rw [mapM_kindOf, Json.joinTexts_strings]
  rfl

/-- Facade has advice of both categories, is a favourite of one kind and is mentioned in a
recommendation. -/
theorem rankValues_isRanking_facade :
    (Table.keys [("Facade", "Hide it."), ("Strategy", "Swap it.")]).Nodup ∧
      (Table.keys [("Facade", "Wrap it.")]).Nodup ∧
      ∃ targets,
        rankValues none ⟨[("Facade", "Hide it."), ("Strategy", "Swap it.")],
            [("Facade", "Wrap it.")]⟩ [("facade", "facade")]
          ([[("type", .str "high_cc")], [("type", .str "print_logging")],
            [("type", .str "unheard of")]].map Json.obj)
          (["Use a facade."].map Json.str) = .ok targets ∧
        IsRanking ⟨[("Facade", "Hide it."), ("Strategy", "Swap it.")], [("Facade", "Wrap it.")]⟩
          [("facade", "facade")]
          ([[("type", .str "high_cc")], [("type", .str "print_logging")],
            [("type", .str "unheard of")]].map kindIn)
          (words none (" ".intercalate ["Use a facade."])) targets :=
  ⟨by decide, by decide, rankValues_isRanking none _ (by decide) (by decide) _ _ _⟩

end DesignLens.Ranking
