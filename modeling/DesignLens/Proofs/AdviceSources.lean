import DesignLens.Proofs.AdviceLookup

/-!
# Where advice comes from

A detector replaces the standing advice on its own name and nothing else. What its module recommends
comes first. But descriptions of the module and of the detector come next, before the standing
advice: so the standing advice on the name of a detector is only given if the detector is not
described at all.
-/

namespace DesignLens.Advice

variable {advisers : Table Adviser} {name : String} {category : Category}

/-! ## The sources -/

/-- What the module of a detector recommends, if that is a text and not blank. -/
def recommended (name : String) (a : Adviser) : Option String :=
  (handbookOf name a).bind fun h => (h.advice.text?.map Text.trim).filter (· ≠ "")

/-- What the first sentence about the module says, or else the one about the detector. -/
def described (name : String) (a : Adviser) : Option String :=
  (handbookOf name a).bind fun h =>
    (h.description.bind firstSentence).or (a.description.bind firstSentence)

theorem adviceFrom_eq (name : String) (a : Adviser) :
    adviceFrom name a = (recommended name a).or (described name a) := by
  unfold adviceFrom recommended described
  cases handbookOf name a with
  | none => rfl
  | some h =>
    have hdescribed : adviceFrom.described a h =
        (h.description.bind firstSentence).or (a.description.bind firstSentence) := by
      rw [adviceFrom.described, Option.orElse_eq_or]
    rw [Option.bind_some, Option.bind_some, Option.bind_some, hdescribed]
    cases h.advice <;> simp [Json.text?]
    case str text =>
      by_cases hblank : Text.trim text = "" <;> simp [Option.filter, hblank]

/-! ## What is found under a name -/

/-- One detector changes what is found under its name in its category. -/
theorem find?_insert_of (m : Maps) (key text : String) :
    Table.find? name ((m.insert key text).of category) =
      if key = name ∧ categoryOf name = category then some text
      else Table.find? name (m.of category) := by
  rw [Maps.of_insert]
  by_cases hkey : key = name
  · subst hkey
    by_cases hcategory : categoryOf key = category <;> simp [hcategory, Table.find?_insert_self]
  · have hother : ¬ (key = name ∧ categoryOf name = category) := fun h => hkey h.1
    rw [if_neg hother, apply_ite (Table.find? name), Table.find?_insert_of_ne (Ne.symm hkey),
      ite_self]

/-- All detectors together: the one of that name has replaced what was there. -/
theorem find?_foldl_of (hnames : (Table.keys advisers).Nodup) (m : Maps) :
    Table.find? name ((advisers.foldl (fun m entry =>
        ((adviceFrom entry.1 entry.2).map (m.insert entry.1)).getD m) m).of category) =
      if categoryOf name = category then
        ((Table.find? name advisers).bind (adviceFrom name)).or (Table.find? name (m.of category))
      else Table.find? name (m.of category) := by
  induction advisers generalizing m with
  | nil => simp [Table.find?_nil]
  | cons entry rest ih =>
    obtain ⟨key, a⟩ := entry
    obtain ⟨hkey, hrest⟩ := List.nodup_cons.mp hnames
    rw [List.foldl_cons, ih hrest, Table.find?_cons]
    by_cases hname : key = name
    · subst hname
      have hlast : Table.find? key rest = none := Table.find?_eq_none_iff.mpr hkey
      cases hadvice : adviceFrom key a <;> simp [hlast, hadvice, find?_insert_of]
    · cases hadvice : adviceFrom key a <;> simp [hname, find?_insert_of]

theorem find?_build (hnames : (Table.keys advisers).Nodup) :
    Table.find? name ((Maps.build advisers).of category) =
      if categoryOf name = category then ((Table.find? name advisers).bind (adviceFrom name)).or
        (Table.find? name (Maps.defaults.of category))
      else Table.find? name (Maps.defaults.of category) :=
  find?_foldl_of hnames .defaults

/-! ## Categories do not mix -/

/-- The advice of one category depends only on what was there in that category and on the detectors
of that category. -/
theorem of_foldl_filter {m m' : Maps} (h : m.of category = m'.of category) :
    (advisers.foldl (fun m entry =>
        ((adviceFrom entry.1 entry.2).map (m.insert entry.1)).getD m) m).of category =
      ((advisers.filter fun entry => categoryOf entry.1 = category).foldl (fun m entry =>
        ((adviceFrom entry.1 entry.2).map (m.insert entry.1)).getD m) m').of category := by
  induction advisers generalizing m m' with
  | nil => exact h
  | cons entry rest ih =>
    rw [List.foldl_cons, List.filter_cons]
    split_ifs with hcategory
    · rw [List.foldl_cons]
      apply ih
      cases adviceFrom entry.1 entry.2 with
      | none => exact h
      | some text => simp [Maps.of_insert, h]
    · apply ih
      cases adviceFrom entry.1 entry.2 with
      | none => exact h
      | some text =>
        rw [Option.map_some, Option.getD_some, Maps.of_insert, if_neg (by simpa using hcategory)]
        exact h

/-- What is found under a name: in its own category, what its detector recommends or else how it is
described, and only then the standing advice. So a name with standing advice and a detector that
recommends nothing keeps that advice exactly if the detector is not described, or described by that
very advice. -/
theorem build_prefers_descriptions (advisers : Table Adviser)
    (hnames : (Table.keys advisers).Nodup) (name : String) :
    (∀ category, (Maps.build advisers).of category =
      (Maps.build (advisers.filter fun entry => categoryOf entry.1 = category)).of category) ∧
    (∀ category, categoryOf name ≠ category ∨ name ∉ Table.keys advisers →
      Table.find? name ((Maps.build advisers).of category) =
        Table.find? name (Maps.defaults.of category)) ∧
    ∀ a, (name, a) ∈ advisers →
      Table.find? name ((Maps.build advisers).of (categoryOf name)) =
        ((recommended name a).or (described name a)).or
          (Table.find? name (Maps.defaults.of (categoryOf name))) ∧
      ∀ category standing, Table.find? name (Maps.defaults.of category) = some standing →
        (Table.find? name ((Maps.build advisers).of category) =
            some ((recommended name a).getD standing) ↔
          recommended name a ≠ none ∨ described name a = none ∨
            described name a = some standing) := by
  refine ⟨fun category => of_foldl_filter rfl, ?_, ?_⟩
  · intro category hother
    rw [find?_build hnames]
    rcases hother with hother | hother
    · rw [if_neg hother]
    · rw [Table.find?_eq_none_iff.mpr hother, Option.bind_none, Option.none_or, ite_self]
  · intro a ha
    have hfound : Table.find? name ((Maps.build advisers).of (categoryOf name)) =
        ((recommended name a).or (described name a)).or
          (Table.find? name (Maps.defaults.of (categoryOf name))) := by
      rw [find?_build hnames, if_pos rfl, Table.find?_of_mem hnames ha, Option.bind_some,
        adviceFrom_eq]
    refine ⟨hfound, fun category standing hstanding => ?_⟩
    obtain rfl := Maps.defaults_sorted category name (Table.mem_keys_of_find? hstanding)
    rw [hfound, hstanding]
    cases recommended name a with
    | some text => simp
    | none =>
      cases described name a with
      | none => simp
      | some sentence => simp

/-- A detector whose module recommends something, and one that is only described. -/
def twoAdvisers : Table Adviser :=
  [("MVC", ⟨some "Detect views.", some ⟨none, .str " Keep controllers thin. "⟩⟩),
    ("Adapter", ⟨some "Detect adapters.", some ⟨none, .null⟩⟩)]

theorem described_twoAdvisers :
    described "Adapter" ⟨some "Detect adapters.", some ⟨none, .null⟩⟩ = some "Detect adapters" := by
  decide

theorem build_prefers_descriptions_two :
    (Table.keys twoAdvisers).Nodup ∧
      Table.find? "MVC" ((Maps.build twoAdvisers).of .architecture) =
        some "Keep controllers thin." ∧
      Table.find? "Adapter" ((Maps.build twoAdvisers).of .pattern) = some "Detect adapters" ∧
      Table.find? "Visitor" ((Maps.build twoAdvisers).of .pattern) =
        Table.find? "Visitor" (Maps.defaults.of .pattern) := by
  have hnames : (Table.keys twoAdvisers).Nodup := by decide
  have hmvc : recommended "MVC"
      ⟨some "Detect views.", some ⟨none, .str " Keep controllers thin. "⟩⟩ =
        some "Keep controllers thin." := by decide
  obtain ⟨-, -, hfirst⟩ := build_prefers_descriptions twoAdvisers hnames "MVC"
  obtain ⟨-, -, hsecond⟩ := build_prefers_descriptions twoAdvisers hnames "Adapter"
  obtain ⟨-, hother, -⟩ := build_prefers_descriptions twoAdvisers hnames "Visitor"
  have hfound := (hfirst _ (List.mem_cons_self)).1
  have hfound' := (hsecond _ (List.mem_cons_of_mem _ (List.mem_cons_self))).1
  rw [hmvc] at hfound
  rw [described_twoAdvisers] at hfound'
  exact ⟨hnames, hfound, hfound', hother .pattern (Or.inr (by decide))⟩

/-- Standing advice gives way to the description of a detector that recommends nothing. -/
theorem standing_advice_replaced : ∃ a standing,
    (Table.keys [("Adapter", a)]).Nodup ∧ recommended "Adapter" a = none ∧
      Table.find? "Adapter" (Maps.defaults.of .pattern) = some standing ∧
      Table.find? "Adapter" ((Maps.build [("Adapter", a)]).of .pattern) = some "Detect adapters" ∧
      standing ≠ "Detect adapters" := by
  refine ⟨⟨some "Detect adapters.", some ⟨none, .null⟩⟩, _, by decide, by decide, rfl, ?_,
    by decide⟩
  rw [find?_build (by decide)]
  decide

end DesignLens.Advice
