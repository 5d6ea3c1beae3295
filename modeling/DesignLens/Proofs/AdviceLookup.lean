import DesignLens.Proofs.FirstSentences
import DesignLens.Proofs.PathSurveys
import DesignLens.Proofs.ShippedScaffolds
import DesignLens.Proposal.Advice

/-!
# Looking up advice

Advice on what was found is looked up under canonical names, which have no capitals. The names that
this library gives advice on all have some. So the look-up never succeeds with the advice of this
library, and the answer to every text is the general one.
-/

namespace DesignLens.Text

/-! ## Lower case has no capitals -/

theorem isUpper_iff {c : Char} : c.isUpper = true ↔ 65 ≤ c.toNat ∧ c.toNat ≤ 90 := by
  delta Char.isUpper
  exact decide_eq_true_iff

/-- A number that is no code point stands for the null character. -/
theorem toNat_ofNat_or (n : Nat) : (Char.ofNat n).toNat = n ∨ (Char.ofNat n).toNat = 0 := by
  by_cases h : n.isValidChar
  · have hchar : Char.ofNat n = Char.ofNatAux n h := dif_pos h
    exact Or.inl (congrArg Char.toNat hchar)
  · have hchar : Char.ofNat n = '\x00' := dif_neg h
    exact Or.inr (congrArg Char.toNat hchar)

theorem mem_of_image? {t : CaseShifts} {c d : Char} (h : t.image? c = some d) :
    ∃ s ∈ t.shifts.toList, s.range.first ≤ c.toNat ∧ c.toNat ≤ s.range.last ∧
      d = Char.ofNat ((c.toNat : Int) + s.shift).toNat := by
  obtain ⟨s, hs, rfl⟩ := Option.map_eq_some_iff.mp h
  have hrange := Array.find?_some hs
  simp only [Bool.and_eq_true, decide_eq_true_eq] at hrange
  exact ⟨s, Array.mem_toList_iff.mpr (Array.mem_of_find?_eq_some hs), hrange.1.1, hrange.1.2, rfl⟩

/-- The table for lower case moves nothing to a capital. -/
theorem lowerShifts_avoid_capitals :
    (lowerShifts.shifts.toList.all fun s =>
      decide (90 < (s.range.first : Int) + s.shift ∨ (s.range.last : Int) + s.shift < 65)) =
        true := by
  unfold lowerShifts CaseShifts.read items
  -- The characters of the lines are written out first, for decoding them is slow.
  repeat rw [List.flatMap_cons, String.toList_ofList]
  decide +kernel

theorem not_isUpper_image {c d : Char} (h : lowerShifts.image? c = some d) :
    d.isUpper = false := by
  obtain ⟨s, hs, hfirst, hlast, rfl⟩ := mem_of_image? h
  have havoid := List.all_eq_true.mp lowerShifts_avoid_capitals s hs
  simp only [decide_eq_true_eq] at havoid
  rw [← Bool.not_eq_true, isUpper_iff]
  rcases toNat_ofNat_or ((c.toNat : Int) + s.shift).toNat with h | h <;> omega

theorem not_isUpper_lowerChar {c d : Char} (h : d ∈ lowerChar c) : d.isUpper = false := by
  unfold lowerChar at h
  split_ifs at h with hascii hdotted
  · rw [List.mem_singleton.mp h]
    have hlower : ∀ n < 128, (Char.ofNat n).toLower.isUpper = false := by decide
    exact Char.ofNat_toNat c ▸ hlower c.toNat hascii
  · have hboth : ['i', Char.ofNat 0x307].any Char.isUpper = false := by decide
    exact Bool.eq_false_iff.mpr (List.any_eq_false.mp hboth d h)
  · rw [List.mem_singleton.mp h]
    cases himage : lowerShifts.image? c with
    | some e => exact not_isUpper_image himage
    | none =>
      rw [Option.getD_none, ← Bool.not_eq_true, isUpper_iff]
      omega

theorem not_isUpper_lowerChars {before cs : List Char} {d : Char} (h : d ∈ lowerChars before cs) :
    d.isUpper = false := by
  induction cs generalizing before with
  | nil => exact absurd h List.not_mem_nil
  | cons c rest ih =>
    rw [lowerChars, List.mem_append] at h
    rcases h with h | h
    · unfold lowerInContext at h
      split_ifs at h
      · rw [List.mem_singleton.mp h]
        decide
      · rw [List.mem_singleton.mp h]
        decide
      · exact not_isUpper_lowerChar h
    · exact ih h

theorem not_isUpper_lower {text : String} {c : Char} (h : c ∈ (lower text).toList) :
    c.isUpper = false := by
  rw [lower, String.toList_ofList] at h
  exact not_isUpper_lowerChars h

end DesignLens.Text

namespace DesignLens.Naming

theorem aliases_lower : ∀ name ∈ Table.values aliases,
    (name.toList.all fun c => !c.isUpper) = true :=
  Scaffold.Spelt.forall_toList (p := fun cs => cs.all fun c => !c.isUpper) (by repeat constructor)
    (by decide)

/-- Canonical names have no capitals. -/
theorem not_isUpper_canonical {name : String} {c : Char} (h : c ∈ (canonical name).toList) :
    c.isUpper = false := by
  unfold canonical resolve at h
  cases hfind : Table.find? (normal name) aliases with
  | none =>
    rw [hfind, Option.getD_none] at h
    exact Text.not_isUpper_lower h
  | some known =>
    rw [hfind, Option.getD_some] at h
    have hall := aliases_lower known (List.mem_map_of_mem (Table.mem_of_find? hfind))
    simpa using List.all_eq_true.mp hall c h

end DesignLens.Naming

namespace DesignLens.Advice

/-! ## The advice of this library -/

/-- The advice of one category. -/
def Maps.of (m : Maps) : Category → Table String
  | .pattern => m.patterns
  | .architecture => m.architectures

theorem Maps.of_insert (m : Maps) (name text : String) (category : Category) :
    (m.insert name text).of category =
      if categoryOf name = category then Table.insert name text (m.of category)
      else m.of category := by
  unfold Maps.insert
  cases categoryOf name <;> cases category <;> rfl

/-- What holds of the standing advice and is kept by every piece of advice that is put in holds of
all advice. -/
theorem Maps.build_induction {P : Maps → Prop} {advisers : Table Adviser} (hdefaults : P .defaults)
    (hinsert : ∀ m, P m → ∀ entry ∈ advisers, ∀ text, adviceFrom entry.1 entry.2 = some text →
      P (m.insert entry.1 text)) : P (.build advisers) := by
  unfold Maps.build
  generalize Maps.defaults = m at hdefaults ⊢
  induction advisers generalizing m with
  | nil => exact hdefaults
  | cons entry rest ih =>
    rw [List.foldl_cons]
    refine ih (fun m hm entry hentry => hinsert m hm entry (List.mem_cons_of_mem _ hentry)) _ ?_
    cases hadvice : adviceFrom entry.1 entry.2 with
    | none => exact hdefaults
    | some text => exact hinsert m hdefaults entry List.mem_cons_self text hadvice

theorem Maps.defaults_sorted :
    ∀ category, ∀ name ∈ Table.keys (Maps.defaults.of category), categoryOf name = category := by
  intro category
  cases category <;> decide

/-- All advice is kept under the category of its name, whatever the detectors are called. -/
theorem Maps.build_sorted (advisers : Table Adviser) (category : Category) {name : String}
    (h : name ∈ Table.keys ((Maps.build advisers).of category)) : categoryOf name = category := by
  refine Maps.build_induction (P := fun m =>
    ∀ category, ∀ name ∈ Table.keys (m.of category), categoryOf name = category)
    Maps.defaults_sorted ?_ category name h
  intro m hm entry _ text _ category name hname
  rw [Maps.of_insert] at hname
  split_ifs at hname with hcategory
  · rcases Table.mem_keys_insert.mp hname with rfl | hname
    · exact hcategory
    · exact hm category name hname
  · exact hm category name hname

theorem firstSentence_ne {description sentence : String}
    (h : firstSentence description = some sentence) : sentence ≠ "" := by
  have hkept : Text.trim description ≠ "" := by
    intro hempty
    rw [firstSentence_eq_none_iff.mpr hempty] at h
    cases h
  obtain ⟨_, _, given, -, hgiven, hopens⟩ := exists_opens hkept
  obtain rfl := Option.some.inj (h.symm.trans hgiven)
  exact hopens.ne_empty

theorem adviceFrom_ne {name text : String} {a : Adviser} (h : adviceFrom name a = some text) :
    text ≠ "" := by
  have hdescribed : ∀ book, adviceFrom.described a book = some text → text ≠ "" := by
    intro book hbook
    rcases Option.or_eq_some_iff.mp ((Option.orElse_eq_or ..).symm.trans hbook)
      with hbook | ⟨-, hbook⟩
    all_goals
      obtain ⟨description, -, hsentence⟩ := Option.bind_eq_some_iff.mp hbook
      exact firstSentence_ne hsentence
  obtain ⟨book, -, h⟩ := Option.bind_eq_some_iff.mp h
  split at h
  · dsimp only at h
    split_ifs at h with hempty
    · exact hdescribed book h
    · obtain rfl := Option.some.inj h
      simpa using hempty
  · exact hdescribed book h

def hasCapital (name : String) : Bool := name.toList.any Char.isUpper

/-- Advice that extends the standing advice, on names with capitals, and never empty. -/
structure Maps.Proper (m : Maps) : Prop where
  grown : ∀ category, Table.keys (Maps.defaults.of category) <+: Table.keys (m.of category)
  entries : ∀ category, ∀ entry ∈ m.of category, hasCapital entry.1 = true ∧ entry.2 ≠ ""

theorem Maps.Proper.insert {m : Maps} (h : m.Proper) {name text : String}
    (hname : hasCapital name = true) (htext : text ≠ "") : (m.insert name text).Proper where
  grown category := by
    refine (h.grown category).trans ?_
    rw [Maps.of_insert]
    split_ifs
    · by_cases hmem : name ∈ Table.keys (m.of category)
      · exact (Table.keys_insert_of_mem text hmem).symm ▸ List.prefix_refl _
      · rw [Table.keys_insert_of_not_mem text hmem]
        exact List.prefix_append _ _
    · exact List.prefix_refl _
  entries category entry hentry := by
    rw [Maps.of_insert] at hentry
    split_ifs at hentry
    · rcases Table.mem_of_mem_insert hentry with rfl | hentry
      · exact ⟨hname, htext⟩
      · exact h.entries category entry hentry
    · exact h.entries category entry hentry

/-- Canonical names are not among names with capitals. -/
theorem canonical_not_mem {names : List String} (h : ∀ name ∈ names, hasCapital name = true)
    (name : String) : Naming.canonical name ∉ names := by
  intro hmem
  have hcapital := h _ hmem
  simp only [hasCapital, List.any_eq_true] at hcapital
  obtain ⟨c, hc, hupper⟩ := hcapital
  rw [Naming.not_isUpper_canonical hc] at hupper
  exact nomatch hupper

/-- There is no advice under a canonical name. -/
theorem Maps.Proper.find?_canonical {m : Maps} (h : m.Proper) (category : Category)
    (name : String) : Table.find? (Naming.canonical name) (m.of category) = none := by
  rw [Table.find?_eq_none_iff]
  apply canonical_not_mem
  intro key hkey
  obtain ⟨entry, hentry, rfl⟩ := List.mem_map.mp hkey
  exact (h.entries category entry hentry).1

theorem patternDefaults_capital : ∀ name ∈ Table.keys patternDefaults, hasCapital name = true :=
  Scaffold.Spelt.forall_toList (p := fun cs => cs.any Char.isUpper) (by repeat constructor)
    (by decide)

theorem architectureDefaults_capital :
    ∀ name ∈ Table.keys architectureDefaults, hasCapital name = true :=
  Scaffold.Spelt.forall_toList (p := fun cs => cs.any Char.isUpper) (by repeat constructor)
    (by decide)

theorem summaries_capital : ∀ name ∈ Table.keys Detection.summaries, hasCapital name = true :=
  Scaffold.Spelt.forall_toList (p := fun cs => cs.any Char.isUpper) (by repeat constructor)
    (by decide)

theorem patternDefaults_ne : ∀ text ∈ Table.values patternDefaults, text ≠ "" :=
  Scaffold.Spelt.ne_empty (by repeat constructor) (by decide)

theorem architectureDefaults_ne : ∀ text ∈ Table.values architectureDefaults, text ≠ "" :=
  Scaffold.Spelt.ne_empty (by repeat constructor) (by decide)

/-- The advice of this library. -/
def Maps.shipped : Maps := .build advisers

theorem Maps.shipped_proper : Maps.shipped.Proper := by
  refine Maps.build_induction ⟨fun category => List.prefix_refl _, ?_⟩ ?_
  · intro category entry hentry
    cases category with
    | pattern =>
      exact ⟨patternDefaults_capital entry.1 (List.mem_map_of_mem hentry),
        patternDefaults_ne entry.2 (List.mem_map_of_mem hentry)⟩
    | architecture =>
      exact ⟨architectureDefaults_capital entry.1 (List.mem_map_of_mem hentry),
        architectureDefaults_ne entry.2 (List.mem_map_of_mem hentry)⟩
  · intro m hm entry hentry text htext
    obtain ⟨summary, hsummary, rfl⟩ := List.mem_map.mp hentry
    have hcapital := summaries_capital summary.1 (List.mem_map_of_mem hsummary)
    exact hm.insert hcapital (adviceFrom_ne htext)

end DesignLens.Advice

namespace DesignLens.Proposal

open Analysis Advice

/-! ## What the look-up finds -/

theorem idxOf_lt_of_filter {p : String → Bool} {names : List String} {a b : String}
    (ha : p a = true) (hb : p b = true)
    (h : (names.filter p).idxOf a < (names.filter p).idxOf b) : names.idxOf a < names.idxOf b := by
  induction names with
  | nil => exact absurd h (Nat.lt_irrefl _)
  | cons x rest ih =>
    by_cases hx : p x = true
    · rw [List.filter_cons_of_pos hx] at h
      rcases eq_or_ne x a with rfl | hxa
      · rcases eq_or_ne x b with rfl | hxb
        · exact absurd h (Nat.lt_irrefl _)
        · rw [List.idxOf_cons_self, List.idxOf_cons_ne _ hxb]
          exact Nat.succ_pos _
      · rcases eq_or_ne x b with rfl | hxb
        · rw [List.idxOf_cons_self] at h
          exact absurd h (Nat.not_lt_zero _)
        · rw [List.idxOf_cons_ne _ hxa, List.idxOf_cons_ne _ hxb] at h ⊢
          exact Nat.succ_lt_succ (ih (Nat.lt_of_succ_lt_succ h))
    · rw [List.filter_cons_of_neg hx] at h
      have hxa : x ≠ a := fun h => hx (h ▸ ha)
      have hxb : x ≠ b := fun h => hx (h ▸ hb)
      rw [List.idxOf_cons_ne _ hxa, List.idxOf_cons_ne _ hxb]
      exact Nat.succ_lt_succ (ih h)

/-- Names without their repetitions stand in the order of their first occurrences. -/
theorem pairwise_idxOf_eraseDups (names : List String) :
    names.eraseDups.Pairwise fun a b => names.idxOf a < names.idxOf b :=
  match names with
  | [] => .nil
  | a :: rest => by
    have ih := pairwise_idxOf_eraseDups (rest.filter fun b => !b == a)
    have hne : ∀ b ∈ (rest.filter fun b => !b == a).eraseDups, (!b == a) = true := by
      intro b hb
      exact (List.mem_filter.mp (List.mem_eraseDups.mp hb)).2
    have hidx : ∀ b, (!b == a) = true → (a :: rest).idxOf b = rest.idxOf b + 1 := by
      intro b hb
      have hab : a ≠ b := by
        rintro rfl
        simp at hb
      exact List.idxOf_cons_ne _ hab
    rw [List.eraseDups_cons, List.pairwise_cons]
    refine ⟨fun b hb => ?_, ih.imp_of_mem fun hb hc hlt => ?_⟩
    · rw [hidx b (hne b hb), List.idxOf_cons_self]
      exact Nat.succ_pos _
    · rw [hidx _ (hne _ hb), hidx _ (hne _ hc)]
      exact Nat.succ_lt_succ (idxOf_lt_of_filter (hne _ hb) (hne _ hc) hlt)
termination_by names.length
decreasing_by exact Nat.lt_succ_of_le (List.length_filter_le _ _)

/-- The advice on names: each piece once, in the order in which the names first come up, and none
left out. -/
structure Fitting (advice : Table String) (names : List String) (fitting : Table String) :
    Prop where
  order : (Table.keys fitting).Pairwise fun a b => names.idxOf a < names.idxOf b
  mem_iff : ∀ name text, (name, text) ∈ fitting ↔
    name ∈ names ∧ name ≠ "" ∧ Table.find? name advice = some text ∧ text ≠ ""

/-- Advice, or for want of it the first pieces of all advice. -/
def orGeneral (advice fitting : Table String) : Table String :=
  if fitting.isEmpty then advice.take generalCount else fitting

def findingName (finding : Json) : String := (finding.fieldD "name" (.str "")).shown

theorem keys_filterMap_sublist (lookup : String → Option String) (names : List String) :
    (Table.keys (names.filterMap fun name =>
      (lookup name).map fun text => (name, text))).Sublist names := by
  induction names with
  | nil => exact .slnil
  | cons name rest ih =>
    cases h : lookup name with
    | none => simpa [h] using ih.cons name
    | some text => simpa [h, Table.keys] using ih

/-- What the look-up of names finds. -/
def fittingFor (advice : Table String) (names : List String) : Table String :=
  (names.eraseDups.filter (!·.isEmpty)).filterMap fun name =>
    ((Table.find? name advice).filter (!·.isEmpty)).map fun text => (name, text)

theorem fittingFor_fitting (advice : Table String) (names : List String) :
    Fitting advice names (fittingFor advice names) where
  order := by
    refine (pairwise_idxOf_eraseDups names).sublist ?_
    exact (keys_filterMap_sublist _ _).trans List.filter_sublist
  mem_iff name text := by
    rw [fittingFor, List.mem_filterMap]
    constructor
    · rintro ⟨found, hfound, hentry⟩
      obtain ⟨hmem, hne⟩ := List.mem_filter.mp hfound
      obtain ⟨text', htext, hpair⟩ := Option.map_eq_some_iff.mp hentry
      obtain ⟨rfl, rfl⟩ := Prod.mk.inj hpair
      obtain ⟨hfind, htext⟩ := Option.filter_eq_some_iff.mp htext
      exact ⟨List.mem_eraseDups.mp hmem, by simpa using hne, hfind, by simpa using htext⟩
    · rintro ⟨hmem, hne, hfind, htext⟩
      refine ⟨name, List.mem_filter.mpr ⟨List.mem_eraseDups.mpr hmem, by simpa using hne⟩, ?_⟩
      rw [hfind, Option.filter_some_pos (by simpa using htext)]
      rfl

theorem adviceOn_eq (advice : Table String) (findings : List Json) :
    adviceOn advice findings = orGeneral advice
      (fittingFor advice (findings.map fun f => Naming.canonical (findingName f))) := rfl

/-! ## The survey and the advice of a category -/

/-- The survey for a category. -/
def surveyFor : Category → Registry → Workspace.Tree → Subject → Except Failure Findings
  | .pattern => patterns
  | .architecture => architectures

/-- The advice on a text for a category. -/
def adviseFor : Category → Setting → Workspace.Tree → String → Except Failure (Table String)
  | .pattern => advisePatterns
  | .architecture => adviseArchitectures

theorem adviseFor_eq (category : Category) (s : Setting) (t : Workspace.Tree) (code : String) :
    adviseFor category s t code = (surveyFor category s.registry t (.ofCode code)).map fun found =>
      adviceOn (s.advice.of category) (findingsD found) := by
  cases category <;> rfl

theorem surveyFor_builtins (category : Category) (t : Workspace.Tree) (code : String) :
    ∃ found, surveyFor category builtins t (.ofCode code) = .ok found := by
  cases category with
  | pattern => exact survey_builtins (fun _ _ => ⟨_, rfl⟩) t code
  | architecture =>
    refine survey_builtins (fun label f => ?_) t code
    obtain ⟨name, hname⟩ : ∃ name, nameOrPattern f.toJson = .ok name := ⟨_, rfl⟩
    simp only [architectureFinding, hname, bind, Except.bind]
    split_ifs
    · exact ⟨_, rfl⟩
    · exact ⟨_, rfl⟩

theorem Fitting.eq_nil {advice : Table String} {names : List String} {fitting : Table String}
    (h : Fitting advice names fitting) (hnone : ∀ name ∈ names, Table.find? name advice = none) :
    fitting = [] := by
  rw [List.eq_nil_iff_forall_not_mem]
  rintro ⟨name, text⟩ hmem
  obtain ⟨hname, -, hfind, -⟩ := (h.mem_iff name text).mp hmem
  exact nomatch hfind.symm.trans (hnone name hname)

/-- The setting with the detectors and the advice of this library. -/
def shippedSetting (s : Setting) : Setting := { s with registry := builtins, advice := .shipped }

theorem shippedSetting_registry (s : Setting) : (shippedSetting s).registry = builtins := by
  rw [shippedSetting]

theorem shippedSetting_advice (s : Setting) : (shippedSetting s).advice = .shipped := by
  rw [shippedSetting]

/-- The pieces of advice of this library that are given for want of better. -/
def general (category : Category) : Table String := (Maps.shipped.of category).take generalCount

theorem adviseFor_shipped (category : Category) (s : Setting) (t : Workspace.Tree) (code : String) :
    adviseFor category (shippedSetting s) t code = .ok (general category) := by
  obtain ⟨found, hfound⟩ := surveyFor_builtins category t code
  have hnil : fittingFor (Maps.shipped.of category)
      ((findingsD found).map fun f => Naming.canonical (findingName f)) = [] := by
    refine (fittingFor_fitting _ _).eq_nil fun name hname => ?_
    obtain ⟨f, -, rfl⟩ := List.mem_map.mp hname
    exact Maps.shipped_proper.find?_canonical category _
  rw [adviseFor_eq, shippedSetting_registry, shippedSetting_advice, hfound]
  simp only [Except.map, adviceOn_eq, hnil]
  rfl

/-- Advice is given on the findings whose canonical names have some. No canonical name has any in
this library, so that every text gets the general advice. That is the advice on the findings under
their own names only where there is none, or where it happens to say the same. -/
theorem adviseFor_general (category : Category) (s : Setting) (t : Workspace.Tree) (code : String) :
    (∀ result, adviseFor category s t code = .ok result →
      ∃ found fitting, surveyFor category s.registry t (.ofCode code) = .ok found ∧
        Fitting (s.advice.of category)
          ((findingsD found).map fun f => Naming.canonical (findingName f)) fitting ∧
        result = orGeneral (s.advice.of category) fitting) ∧
    (∀ name, Table.find? (Naming.canonical name) (Maps.shipped.of category) = none) ∧
    ∃ found fitting, surveyFor category builtins t (.ofCode code) = .ok found ∧
      Fitting (Maps.shipped.of category) ((findingsD found).map findingName) fitting ∧
      adviseFor category (shippedSetting s) t code = .ok (general category) ∧
      (Table.values (general category) =
          Table.values (orGeneral (Maps.shipped.of category) fitting) ↔
        fitting = [] ∨ Table.values fitting = Table.values (general category)) := by
  refine ⟨fun result hresult => ?_, Maps.shipped_proper.find?_canonical category, ?_⟩
  · rw [adviseFor_eq] at hresult
    obtain ⟨found, hfound, rfl⟩ := map_eq_ok.mp hresult
    exact ⟨found, _, hfound, fittingFor_fitting _ _, adviceOn_eq _ _⟩
  · obtain ⟨found, hfound⟩ := surveyFor_builtins category t code
    refine ⟨found, _, hfound, fittingFor_fitting _ _, adviseFor_shipped category s t code, ?_⟩
    generalize fittingFor (Maps.shipped.of category) _ = fitting
    cases fitting with
    | nil => exact iff_of_true rfl (Or.inl rfl)
    | cons first rest =>
      rw [orGeneral, List.isEmpty_cons, if_neg Bool.false_ne_true, eq_comm]
      exact ⟨Or.inr, fun h => h.resolve_left (List.cons_ne_nil _ _)⟩

/-! ## A text with a command -/

def commandCode : String := "class A:\n def run(s): 0\n"

theorem commandCode_names :
    ((surveyFor .pattern builtins .empty (.ofCode commandCode)).toOption.map fun found =>
      (findingsD found).map findingName) = some ["Command"] := by
  decide +kernel

theorem keys_general_pattern :
    Table.keys (general .pattern) = ["Abstract Factory", "Adapter", "Blackboard"] := by
  obtain ⟨rest, hrest⟩ := Maps.shipped_proper.grown .pattern
  have hkeys : Table.keys (general .pattern) =
      (Table.keys (Maps.shipped.of .pattern)).take generalCount := List.map_take
  rw [hkeys, ← hrest, List.take_append_of_le_length]
  · rfl
  · decide

/-- There is advice on commands, and a text with a command gets other advice. -/
theorem adviseFor_misses_command :
    ∃ found text, surveyFor .pattern builtins .empty (.ofCode commandCode) = .ok found ∧
      (findingsD found).map findingName = ["Command"] ∧
      Fitting (Maps.shipped.of .pattern) ["Command"] [("Command", text)] ∧
      ∀ s, adviseFor .pattern (shippedSetting s) .empty commandCode = .ok (general .pattern) ∧
        Table.keys (general .pattern) = ["Abstract Factory", "Adapter", "Blackboard"] := by
  obtain ⟨found, hfound⟩ := surveyFor_builtins .pattern .empty commandCode
  have hnames := commandCode_names
  rw [hfound] at hnames
  obtain ⟨text, htext⟩ : ∃ text, Table.find? "Command" (Maps.shipped.of .pattern) = some text := by
    refine Option.ne_none_iff_exists'.mp fun hnone => ?_
    refine Table.find?_eq_none_iff.mp hnone ((Maps.shipped_proper.grown .pattern).subset ?_)
    simp [Table.keys, Maps.of, Maps.defaults, patternDefaults]
  have hne := (Maps.shipped_proper.entries .pattern _ (Table.mem_of_find? htext)).2
  refine ⟨found, text, hfound, Option.some.inj hnames, ⟨List.pairwise_singleton _ _, ?_⟩,
    fun s => ⟨adviseFor_shipped .pattern s .empty commandCode, keys_general_pattern⟩⟩
  intro name text'
  constructor
  · intro hmem
    obtain ⟨rfl, rfl⟩ := Prod.mk.inj (List.mem_singleton.mp hmem)
    exact ⟨List.mem_singleton_self _, by decide, htext, hne⟩
  · rintro ⟨hname, -, hfind, -⟩
    obtain rfl := List.mem_singleton.mp hname
    rw [Option.some.inj (hfind.symm.trans htext)]
    exact List.mem_singleton_self _

end DesignLens.Proposal
