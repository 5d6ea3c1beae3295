import DesignLens.Proofs.Attempts
import DesignLens.Proofs.JsonDocuments
import DesignLens.Proofs.ProposalMerge
import DesignLens.Proofs.TableEntries

/-!
# What is counted of a linter's report

The items of a report are counted by file and rule, and these counts are added up by rule. Both
tables are built by adding to the number of a name, so both are described in the same way: a name
is listed once, with the sum of what was added to it, and only if that is not zero. Nothing is lost
between the two, since the sum of all numbers of a rule grows with each item by what the item adds.
-/

namespace DesignLens.Metrics

open Analysis Workspace

/-! ## Adding up numbers by name -/

/-- The sum of the numbers that a list gives a name. -/
def sumOf (name : String) : List (String × Nat) → Nat
  | [] => 0
  | entry :: rest => (if entry.1 = name then entry.2 else 0) + sumOf name rest

theorem sumOf_append (name : String) (xs ys : List (String × Nat)) :
    sumOf name (xs ++ ys) = sumOf name xs + sumOf name ys := by
  induction xs with
  | nil => simp [sumOf]
  | cons entry xs ih => simp [sumOf, ih, Nat.add_assoc]

theorem sumOf_perm (name : String) {xs ys : List (String × Nat)} (h : xs.Perm ys) :
    sumOf name xs = sumOf name ys := by
  induction h with
  | nil => rfl
  | cons entry _ ih => simp [sumOf, ih]
  | swap a b rest => simp only [sumOf]; omega
  | trans _ _ ih ih' => exact ih.trans ih'

/-- A table that lists each name once, with its sum, and no name whose sum is zero. -/
structure SumsUp (sum : String → Nat) (t : Table Nat) : Prop where
  distinct : (Table.keys t).Nodup
  found : ∀ name n, Table.find? name t = some n ↔ n = sum name ∧ 0 < n

theorem sumsUp_nil : SumsUp (fun _ => 0) [] where
  distinct := List.nodup_nil
  found := by
    intro name n
    simp only [Table.find?_nil, reduceCtorEq, false_iff]
    omega

theorem SumsUp.getD {sum : String → Nat} {t : Table Nat} (h : SumsUp sum t) (name : String) :
    (Table.find? name t).getD 0 = sum name := by
  cases hfind : Table.find? name t with
  | some n => exact ((h.found name n).mp hfind).1
  | none =>
    -- A sum that is not zero would be listed.
    by_contra hne
    have hfound := (h.found name (sum name)).mpr ⟨rfl, Nat.pos_of_ne_zero (Ne.symm hne)⟩
    rw [hfind] at hfound
    cases hfound

theorem SumsUp.increment {sum : String → Nat} {t : Table Nat} (h : SumsUp sum t) (name : String)
    {n : Nat} (hn : 0 < n) :
    SumsUp (fun other => sum other + if name = other then n else 0) (increment t name n) where
  distinct := Table.nodup_keys_insert _ h.distinct
  found := by
    intro other m
    rw [Metrics.increment, Table.find?_insert, h.getD]
    by_cases hname : name = other
    · subst hname
      simp only [if_true, Option.some.injEq]
      omega
    · simp only [if_neg hname, Nat.add_zero]
      exact h.found other m

/-- Adding one number after another. -/
theorem SumsUp.foldl {sum : String → Nat} {t : Table Nat} (h : SumsUp sum t)
    {entries : List (String × Nat)} (hpos : ∀ entry ∈ entries, 0 < entry.2) :
    SumsUp (fun name => sum name + sumOf name entries)
      (entries.foldl (fun t entry => Metrics.increment t entry.1 entry.2) t) := by
  induction entries generalizing sum t with
  | nil => simpa [sumOf] using h
  | cons entry entries ih =>
    obtain ⟨hentry, hrest⟩ := List.forall_mem_cons.mp hpos
    have hstep := ih (h.increment entry.1 hentry) hrest
    simpa only [sumOf, Nat.add_assoc, List.foldl_cons] using hstep

theorem SumsUp.mem_iff {sum : String → Nat} {t : Table Nat} (h : SumsUp sum t) {name : String}
    {n : Nat} : (name, n) ∈ t ↔ n = sum name ∧ 0 < n := by
  rw [← h.found name n]
  exact ⟨Table.find?_of_mem h.distinct, Table.mem_of_find?⟩

/-! ## Counting violations -/

/-- All the numbers of a table of counts, whatever file they belong to. -/
def RuleCounts.entries (counts : RuleCounts) : List (String × Nat) := counts.flatMap Prod.snd

/-- The counts of violations: each file once, with the number of its violations by rule. -/
structure Counted (vs : List (String × String)) (counts : RuleCounts) : Prop where
  distinct : (Table.keys counts).Nodup
  files : ∀ file, file ∈ Table.keys counts ↔ file ∈ vs.map Prod.fst
  rules : ∀ file rules, (file, rules) ∈ counts → SumsUp (fun rule => vs.count (file, rule)) rules
  total : ∀ rule, sumOf rule counts.entries = vs.countP fun v => v.2 = rule

theorem counted_nil : Counted [] [] where
  distinct := List.nodup_nil
  files := fun _ => Iff.rfl
  rules := fun _ _ h => absurd h List.not_mem_nil
  total := fun _ => rfl

theorem sumOf_increment (t : Table Nat) (name rule : String) (n : Nat) :
    sumOf rule (increment t name n) = sumOf rule t + if name = rule then n else 0 := by
  induction t with
  | nil => simp [increment, Table.insert, Table.find?, sumOf]
  | cons entry rest ih =>
    obtain ⟨k, m⟩ := entry
    unfold increment at ih ⊢
    rw [Table.find?_cons, Table.insert]
    by_cases hname : k = name
    · rw [if_pos hname, if_pos hname, Option.getD_some, sumOf, sumOf, hname]
      dsimp only
      split_ifs <;> omega
    · rw [if_neg hname, if_neg hname, sumOf, sumOf, ih]
      omega

/-- One more violation adds one to the sum of its rule over all files. -/
theorem sumOf_countViolation (counts : RuleCounts) (v : String × String) (rule : String) :
    sumOf rule (countViolation counts v).entries =
      sumOf rule counts.entries + if v.2 = rule then 1 else 0 := by
  induction counts with
  | nil =>
    simp [countViolation, Table.insert, Table.find?, RuleCounts.entries, sumOf_increment, sumOf]
  | cons entry rest ih =>
    obtain ⟨file, rules⟩ := entry
    unfold countViolation RuleCounts.entries at ih ⊢
    rw [Table.find?_cons, Table.insert]
    by_cases hfile : file = v.1
    · rw [if_pos hfile, if_pos hfile, List.flatMap_cons, List.flatMap_cons, sumOf_append,
        sumOf_append, Option.getD_some, sumOf_increment]
      dsimp only
      omega
    · rw [if_neg hfile, if_neg hfile, List.flatMap_cons, List.flatMap_cons, sumOf_append,
        sumOf_append, ih]
      omega

/-- What one violation makes of the rules of its file. -/
theorem sumsUp_bump {vs : List (String × String)} {counts : RuleCounts} (h : Counted vs counts)
    (v : String × String) :
    SumsUp (fun rule => (vs ++ [v]).count (v.1, rule))
      (increment ((Table.find? v.1 counts).getD []) v.2 1) := by
  have hcount : ∀ rule, (vs ++ [v]).count (v.1, rule) =
      vs.count (v.1, rule) + if v.2 = rule then 1 else 0 := by
    intro rule
    rw [List.count_append, List.count_singleton]
    by_cases hrule : v.2 = rule
    · simp [← hrule]
    · have hne : v ≠ (v.1, rule) := fun he => hrule (congrArg Prod.snd he)
      simp [hrule, hne]
  have hbefore : SumsUp (fun rule => vs.count (v.1, rule)) ((Table.find? v.1 counts).getD []) := by
    cases hfind : Table.find? v.1 counts with
    | some rules => exact h.rules v.1 rules (Table.mem_of_find? hfind)
    | none =>
      -- A file that is not listed has no violations yet.
      have hnew : ∀ rule, vs.count (v.1, rule) = 0 := by
        intro rule
        refine List.count_eq_zero.mpr fun hmem => Table.find?_eq_none_iff.mp hfind ?_
        exact (h.files v.1).mpr (List.mem_map.mpr ⟨(v.1, rule), hmem, rfl⟩)
      simpa only [hnew, Option.getD_none] using sumsUp_nil
  simpa only [hcount] using hbefore.increment v.2 Nat.one_pos

theorem Counted.countViolation {vs : List (String × String)} {counts : RuleCounts}
    (h : Counted vs counts) (v : String × String) :
    Counted (vs ++ [v]) (countViolation counts v) where
  distinct := Table.nodup_keys_insert _ h.distinct
  files := by
    intro file
    rw [Metrics.countViolation, Table.mem_keys_insert, h.files, List.map_append, List.mem_append,
      List.map_singleton, List.mem_singleton, or_comm]
  rules := by
    intro file rules hmem
    by_cases hfile : file = v.1
    · subst hfile
      have hfind := Table.find?_of_mem (Table.nodup_keys_insert _ h.distinct) hmem
      rw [Table.find?_insert_self, Option.some.injEq] at hfind
      exact hfind ▸ sumsUp_bump h v
    · have hold : (file, rules) ∈ counts := by
        rcases Table.mem_of_mem_insert hmem with heq | hold
        · exact absurd (congrArg Prod.fst heq) hfile
        · exact hold
      have hcount : ∀ rule, (vs ++ [v]).count (file, rule) = vs.count (file, rule) := by
        intro rule
        have hne : v ≠ (file, rule) := fun he => hfile (congrArg Prod.fst he).symm
        rw [List.count_append, List.count_singleton, if_neg (by simpa using hne), Nat.add_zero]
      simpa only [hcount] using h.rules file rules hold
  total := by
    intro rule
    rw [sumOf_countViolation, h.total, List.countP_append, List.countP_singleton]
    by_cases hrule : v.2 = rule <;> simp [hrule]

/-- Counting one violation after another. -/
theorem Counted.foldl {before : List (String × String)} {counts : RuleCounts}
    (h : Counted before counts) (vs : List (String × String)) :
    Counted (before ++ vs) (vs.foldl Metrics.countViolation counts) := by
  induction vs generalizing before counts with
  | nil => simpa using h
  | cons v vs ih =>
    have hstep := ih (h.countViolation v)
    rwa [List.append_assoc, List.singleton_append] at hstep

/-- The order of files does not matter. -/
theorem Counted.perm {vs : List (String × String)} {counts counts' : RuleCounts}
    (h : Counted vs counts) (hperm : counts'.Perm counts) : Counted vs counts' where
  distinct := (hperm.map Prod.fst).nodup_iff.mpr h.distinct
  files := fun file => (hperm.map Prod.fst).mem_iff.trans (h.files file)
  rules := fun file rules hmem => h.rules file rules (hperm.mem_iff.mp hmem)
  total := fun rule => (sumOf_perm rule (hperm.flatMap_right Prod.snd)).trans (h.total rule)

/-- The totals of counts list each rule with the number of its violations in all files. -/
theorem Counted.totals {vs : List (String × String)} {counts : RuleCounts} (h : Counted vs counts) :
    SumsUp (fun rule => vs.countP fun v => v.2 = rule) (totals counts) := by
  have hpos : ∀ entry ∈ counts.entries, 0 < entry.2 := by
    intro entry hentry
    obtain ⟨⟨file, rules⟩, hfile, hrule⟩ := List.mem_flatMap.mp hentry
    exact ((h.rules file rules hfile).mem_iff.mp hrule).2
  have hsums := sumsUp_nil.foldl hpos
  simp only [Nat.zero_add, h.total] at hsums
  rwa [RuleCounts.entries, List.foldl_flatMap] at hsums

/-! ## The items of a report -/

/-- The text of a field; the empty text for want of it. -/
def fieldShown (fields : Table Json) (name : String) : String :=
  ((Table.find? name fields).map Json.shown).getD ""

/-- Whether an item is about a rule in a file. -/
def isAbout (file rule : String) : Json → Bool
  | .obj fields => fieldShown fields "filename" == file && fieldShown fields "code" == rule
  | _ => false

/-- Whether an item is about a rule in any file that has a name. -/
def breaks (rule : String) : Json → Bool
  | .obj fields => fieldShown fields "filename" != "" && fieldShown fields "code" == rule
  | _ => false

theorem shown_fieldD (fields : Table Json) (name : String) :
    ((Json.obj fields).fieldD name (.str "")).shown = fieldShown fields name := by
  rw [fieldShown, Json.fieldD, Json.field?]
  cases Table.find? name fields <;> simp [Json.shown]

theorem violation?_eq_some {item : Json} {file rule : String} :
    violation? item = some (file, rule) ↔
      file ≠ "" ∧ rule ≠ "" ∧ isAbout file rule item = true := by
  cases item with
  | obj fields =>
    simp only [violation?, Json.isObject, if_true, shown_fieldD, isAbout, Bool.or_eq_true,
      String.isEmpty_iff, Bool.and_eq_true, beq_iff_eq]
    grind
  | _ => simp [violation?, Json.isObject, isAbout]

theorem breaks_iff {item : Json} {rule : String} (hrule : rule ≠ "") :
    breaks rule item = true ↔ ∃ file, violation? item = some (file, rule) := by
  simp only [violation?_eq_some]
  cases item with
  | obj fields => simp [breaks, isAbout, hrule]
  | _ => simp [breaks, isAbout]

/-- The violations of a rule in a file are the items about them, if both have a name. -/
theorem count_violations (items : List Json) {file rule : String} (hfile : file ≠ "")
    (hrule : rule ≠ "") :
    (items.filterMap violation?).count (file, rule) = items.countP (isAbout file rule) := by
  rw [List.count, List.countP_filterMap]
  refine List.countP_congr fun item _ => ?_
  have hsome : violation? item = some (file, rule) ↔ _ := violation?_eq_some
  cases h : violation? item <;> simp_all

theorem countP_violations (items : List Json) {rule : String} (hrule : rule ≠ "") :
    (items.filterMap violation?).countP (fun v => v.2 = rule) = items.countP (breaks rule) := by
  rw [List.countP_filterMap]
  refine List.countP_congr fun item _ => ?_
  rw [breaks_iff hrule]
  cases h : violation? item with
  | none => simp
  | some v => simp [Prod.ext_iff]

/-- Nothing without a name is a violation. -/
theorem ne_empty_of_mem_violations {items : List Json} {v : String × String}
    (h : v ∈ items.filterMap violation?) : v.1 ≠ "" ∧ v.2 ≠ "" := by
  obtain ⟨item, -, hitem⟩ := List.mem_filterMap.mp h
  obtain ⟨hfile, hrule, -⟩ := violation?_eq_some.mp hitem
  exact ⟨hfile, hrule⟩

/-- What counts say about the items of a report: the files in order, each with its rules, and for
every rule of a file that any item is about the number of these items. -/
structure Tallied (items : List Json) (counts : RuleCounts) : Prop where
  sorted : counts.Pairwise fun a b => a.1 < b.1
  distinct : ∀ entry ∈ counts, (Table.keys entry.2).Nodup
  inhabited : ∀ entry ∈ counts, entry.2 ≠ []
  listed : ∀ file rule n, (∃ rules, (file, rules) ∈ counts ∧ (rule, n) ∈ rules) ↔
    file ≠ "" ∧ rule ≠ "" ∧ n = items.countP (isAbout file rule) ∧ 0 < n

/-- What totals say about the items of a report: for every rule that any item is about the number
of these items. -/
structure Totalled (items : List Json) (sums : Table Nat) : Prop where
  distinct : (Table.keys sums).Nodup
  listed : ∀ rule n, (rule, n) ∈ sums ↔ rule ≠ "" ∧ n = items.countP (breaks rule) ∧ 0 < n

theorem counted_ruleCounts (items : List Json) :
    Counted (items.filterMap violation?) (ruleCounts (.arr items)) :=
  (counted_nil.foldl _).perm (List.mergeSort_perm _ _)

theorem tallied_ruleCounts (items : List Json) : Tallied items (ruleCounts (.arr items)) := by
  have h := counted_ruleCounts items
  refine ⟨Table.pairwise_lt_mergeSort (counted_nil.foldl _).distinct, ?_, ?_, ?_⟩
  · intro entry hentry
    exact (h.rules entry.1 entry.2 hentry).distinct
  · intro entry hentry
    obtain ⟨v, hv, hfile⟩ :=
      List.mem_map.mp ((h.files entry.1).mp (Table.mem_keys.mpr ⟨entry.2, hentry⟩))
    have hpos : 0 < (items.filterMap violation?).count (entry.1, v.2) :=
      List.count_pos_iff.mpr (hfile ▸ hv)
    have hmem := (h.rules entry.1 entry.2 hentry).mem_iff.mpr ⟨rfl, hpos⟩
    exact List.ne_nil_of_mem hmem
  · intro file rule n
    constructor
    · rintro ⟨rules, hfile, hrule⟩
      obtain ⟨hn, hpos⟩ := (h.rules file rules hfile).mem_iff.mp hrule
      obtain ⟨hf, hr⟩ := ne_empty_of_mem_violations (List.count_pos_iff.mp (hn ▸ hpos))
      exact ⟨hf, hr, hn.trans (count_violations items hf hr), hpos⟩
    · rintro ⟨hf, hr, hn, hpos⟩
      rw [← count_violations items hf hr] at hn
      have hmem : (file, rule) ∈ items.filterMap violation? := List.count_pos_iff.mp (hn ▸ hpos)
      obtain ⟨rules, hrules⟩ := Table.mem_keys.mp ((h.files file).mpr (List.mem_map_of_mem hmem))
      exact ⟨rules, hrules, (h.rules file rules hrules).mem_iff.mpr ⟨hn, hpos⟩⟩

theorem totalled_totals (items : List Json) :
    Totalled items (totals (ruleCounts (.arr items))) := by
  have h := (counted_ruleCounts items).totals
  refine ⟨h.distinct, fun rule n => h.mem_iff.trans ?_⟩
  constructor
  · rintro ⟨hn, hpos⟩
    obtain ⟨v, hv, hrule⟩ := List.countP_pos_iff.mp (hn ▸ hpos)
    have hne : rule ≠ "" := of_decide_eq_true hrule ▸ (ne_empty_of_mem_violations hv).2
    exact ⟨hne, hn.trans (countP_violations items hne), hpos⟩
  · rintro ⟨hne, hn, hpos⟩
    exact ⟨hn.trans (countP_violations items hne).symm, hpos⟩

/-! ## Runs of the linter -/

theorem lintOutcome_of_items {output : ProcessOutput} {items : List Json}
    (hexit : output.exitCode = 0 ∨ output.exitCode = 1)
    (hread : Json.read output.stdout = .ok (.arr items)) :
    lintOutcome output = .ok (ruleCounts (.arr items)) := by
  have htext : output.stdout.isEmpty = false := by
    rw [Bool.eq_false_iff, ne_eq, String.isEmpty_iff]
    intro hempty
    have hnothing : Json.read "" = .error ⟨.expectingValue, 0⟩ := rfl
    rw [hempty, hnothing] at hread
    cases hread
  have hcode : (output.exitCode = 0 || output.exitCode = 1) = true := by simpa using hexit
  simp only [lintOutcome, hcode, htext, hread, if_true, Bool.false_eq_true, if_false]

/-- A report for which the linter was run has what it answered. -/
theorem report_of_run {instruments : Instruments} {linter : Bool} {t : Tree} {s : Subject}
    {p : Processes} {output : ProcessOutput} {rest : List (Except Failure ProcessOutput)}
    (hqueue : p.queue = .ok output :: rest)
    (hran : (report instruments linter t s p).1.commands ≠ p.commands) :
    ∃ entries, (report instruments linter t s p).2 = .ok (.ok ⟨entries, lintOutcome output⟩) := by
  unfold report at hran ⊢
  cases hmeter : instruments.meter with
  | error message => simp [hmeter] at hran
  | ok meter =>
    simp only [hmeter] at hran ⊢
    split_ifs at hran ⊢ with hempty
    · simp at hran
    · cases hmeasure : measure meter t s with
      | error failure => simp [hmeasure] at hran
      | ok entries =>
        simp only [hmeasure, lint] at hran ⊢
        split_ifs at hran ⊢ with htargets
        · refine ⟨entries, ?_⟩
          rw [Processes.run, hqueue]
          rfl
        · simp at hran

end DesignLens.Metrics

namespace DesignLens.Proposal

open Analysis

/-- A proposal for which the linter was run has a report with its answer, and fails only if the scan
does. -/
theorem propose_of_run {s : Setting} {w : World} {subject : Subject} {count : Int}
    (hran : (propose s w subject count).1.commands ≠ w.processes.commands) :
    (Metrics.report s.instruments s.linter w.tree subject w.processes).1.commands ≠
        w.processes.commands ∧
      ∀ metrics,
        (Metrics.report s.instruments s.linter w.tree subject w.processes).2 = .ok metrics →
        ∃ patterns architectures, (propose s w subject count).2 =
          (conclude s w.tree subject count patterns architectures metrics).map .ok := by
  unfold propose at hran ⊢
  split_ifs at hran ⊢ with hempty
  · simp at hran
  · cases hpatterns : patterns s.registry w.tree subject with
    | error failure => simp [hpatterns] at hran
    | ok found =>
      cases harchitectures : architectures s.registry w.tree subject with
      | error failure => simp [hpatterns, harchitectures] at hran
      | ok styles =>
        simp only [hpatterns, harchitectures] at hran ⊢
        rcases hreport : Metrics.report s.instruments s.linter w.tree subject w.processes with
          ⟨p, answer⟩
        cases answer with
        | error failure =>
          simp only [hreport] at hran
          exact ⟨hran, nofun⟩
        | ok answer =>
          simp only [hreport] at hran
          refine ⟨hran, ?_⟩
          intro metrics hmetrics
          rw [Except.ok.injEq] at hmetrics
          exact ⟨found, styles, hmetrics ▸ rfl⟩

theorem exists_conclude_iff {s : Setting} {w : World} {subject : Subject} {count : Int}
    {patterns architectures : Findings} {metrics : Except String Metrics.Report} :
    (∃ dossier, conclude s w.tree subject count patterns architectures metrics = .ok dossier) ↔
      ∃ results, Scan.scan s.instruments w.tree subject = .ok results := by
  unfold conclude assess
  cases Scan.scan s.instruments w.tree subject <;> simp [Except.map]

/-- Whenever the linter prints a list, the report gives the number of its items by file and rule,
and a proposal the number by rule, which is the sum over all files. -/
theorem lint_counts_conserved (s : Setting) (w : World) (subject : Subject) (count : Int)
    (output : ProcessOutput) (rest : List (Except Failure ProcessOutput)) (items : List Json)
    (hqueue : w.processes.queue = .ok output :: rest)
    (hexit : output.exitCode = 0 ∨ output.exitCode = 1)
    (hread : Json.read output.stdout = .ok (.arr items)) :
    ∃ counts, Metrics.Tallied items counts ∧ Metrics.Totalled items (Metrics.totals counts) ∧
      (∀ rule, (Table.find? rule (Metrics.totals counts)).getD 0 =
        Metrics.sumOf rule counts.entries) ∧
      ((Metrics.report s.instruments s.linter w.tree subject w.processes).1.commands ≠
          w.processes.commands →
        ∃ r, (Metrics.report s.instruments s.linter w.tree subject w.processes).2 = .ok (.ok r) ∧
          r.toJson.field? "ruff" = some (Metrics.lintJson (.ok counts))) ∧
      ((propose s w subject count).1.commands ≠ w.processes.commands →
        ((∃ dossier, (propose s w subject count).2 = .ok (.ok dossier)) ↔
          ∃ results, Scan.scan s.instruments w.tree subject = .ok results) ∧
        ∀ dossier, (propose s w subject count).2 = .ok (.ok dossier) →
          (dossier.toJson.field? "summary").bind (Json.field? "ruff_rule_counts") =
            some (Metrics.countsJson (Metrics.totals counts))) := by
  have hcounted := Metrics.counted_ruleCounts items
  have hlint := Metrics.lintOutcome_of_items hexit hread
  refine ⟨Metrics.ruleCounts (.arr items), Metrics.tallied_ruleCounts items,
    Metrics.totalled_totals items, ?_, ?_, ?_⟩
  · intro rule
    rw [hcounted.totals.getD, hcounted.total]
  · intro hran
    obtain ⟨entries, hreport⟩ := Metrics.report_of_run hqueue hran
    rw [hlint] at hreport
    exact ⟨_, hreport, rfl⟩
  · intro hran
    obtain ⟨hlinted, hrest⟩ := propose_of_run hran
    obtain ⟨entries, hreport⟩ := Metrics.report_of_run hqueue hlinted
    obtain ⟨patterns, architectures, hpropose⟩ := hrest _ hreport
    rw [hpropose]
    simp only [map_eq_ok, Except.ok.injEq, exists_eq_right]
    refine ⟨exists_conclude_iff, ?_⟩
    intro dossier hdossier
    obtain ⟨assessments, -, rfl⟩ := map_eq_ok.mp hdossier
    rw [hlint]
    rfl

/-- A meter that finds nothing amiss, and a linter. -/
def lintedSetting : Setting where
  registry := []
  advice := ⟨[], []⟩
  workshop := ⟨⟨none⟩, [], [], fun _ _ => none, fun _ => none, fun _ => .none⟩
  instruments := .ready fun _ => ⟨.ok [], .ok .null, .ok .null, .ok (.obj [])⟩
  linter := true
  outline := fun _ => none
  editor := ⟨fun _ => none, fun _ => "", .ok⟩

/-- A rule in two files, a rule that is no text but is shown as one, an item without a rule and one
that is no object. -/
def lintedItems : List Json :=
  [.obj [("code", .str "E1"), ("filename", .str "b.py")],
    .obj [("code", .str "E1"), ("filename", .str "a.py")],
    .obj [("code", .null), ("filename", .str "a.py")],
    .obj [("filename", .str "a.py")], .str "E1"]

def lintedOutput : ProcessOutput := ⟨1, Json.write .line (.arr lintedItems), ""⟩

def lintedWorld : World := ⟨⟨[], [(["a.py"], .text "x")]⟩, ⟨[.ok lintedOutput], []⟩⟩

def lintedSubject : Subject := ⟨none, ["a.py"]⟩

theorem read_lintedOutput : Json.read lintedOutput.stdout = .ok (.arr lintedItems) :=
  Json.read_write rfl
    (by simp [lintedItems, Json.IsKept, Json.AreKept, Json.FieldsKept, Table.keys])

theorem lint_counts_conserved_two_files :
    (propose lintedSetting lintedWorld lintedSubject 5).1.commands ≠
        lintedWorld.processes.commands ∧
      ∃ counts, Metrics.Tallied lintedItems counts ∧
        Metrics.Totalled lintedItems (Metrics.totals counts) ∧
        ∀ dossier, (propose lintedSetting lintedWorld lintedSubject 5).2 = .ok (.ok dossier) →
          (dossier.toJson.field? "summary").bind (Json.field? "ruff_rule_counts") =
            some (Metrics.countsJson (Metrics.totals counts)) := by
  have hran : (propose lintedSetting lintedWorld lintedSubject 5).1.commands ≠
      lintedWorld.processes.commands := by decide +kernel
  obtain ⟨counts, htallied, htotalled, -, -, hpropose⟩ :=
    lint_counts_conserved lintedSetting lintedWorld lintedSubject 5 lintedOutput [] lintedItems rfl
      (Or.inr rfl) read_lintedOutput
  exact ⟨hran, counts, htallied, htotalled, (hpropose hran).2⟩

end DesignLens.Proposal
