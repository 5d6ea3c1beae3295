import DesignLens.Source.Legality
import Mathlib.Data.List.Basic

/-!
# Programs one below the other

The statements of two legal modules are put one below the other. Almost every rule beyond the
grammar is about one statement and what is inside it, and is kept. Two rules are about the module as
a whole: a module that speaks about the future does so at its start, and a name is declared before
it is used. `isLegal_append_iff` says that these two are all that can go wrong.
-/

namespace DesignLens.Source

/-! ## Walks -/

namespace Node

variable {κ : Type} (enter : κ → Node → Node → κ)

theorem walkLevels_eq (nodes : List Node) :
    walkLevels nodes = nodes ++ walkLevels (nodes.flatMap children) := by
  cases nodes with
  | nil => simp [walkLevels]
  | cons n rest => rw [walkLevels]

theorem walkLevelsWith_eq (entries : List (κ × Node)) :
    walkLevelsWith enter entries =
      entries ++ walkLevelsWith enter (entries.flatMap (inherit enter)) := by
  cases entries with
  | nil => simp [walkLevelsWith]
  | cons e rest => rw [walkLevelsWith]

theorem total_flatMap_children_lt {nodes : List Node} (h : nodes ≠ []) :
    total (nodes.flatMap children) < total nodes := by
  have hle := total_flatMap_children_le nodes
  have hpos := List.length_pos_of_ne_nil h
  omega

/-- A walk comes to the parts of every part it comes to. -/
theorem mem_walkLevels_of_child {nodes : List Node} {n child : Node} (h : n ∈ walkLevels nodes)
    (hchild : child ∈ n.children) : child ∈ walkLevels nodes := by
  induction hk : total nodes using Nat.strongRecOn generalizing nodes with
  | ind k ih =>
    by_cases hempty : nodes = []
    · simp [hempty, walkLevels] at h
    · rw [walkLevels_eq] at h ⊢
      apply List.mem_append_right
      rcases List.mem_append.mp h with h | h
      · rw [walkLevels_eq]
        exact List.mem_append_left _ (List.mem_flatMap.mpr ⟨n, h, hchild⟩)
      · exact ih _ (hk ▸ total_flatMap_children_lt hempty) h rfl

/-- Walks are taken level by level, so the walks of two lists are interleaved, not appended. -/
theorem perm_walkLevelsWith_append (a b : List (κ × Node)) :
    (walkLevelsWith enter (a ++ b)).Perm (walkLevelsWith enter a ++ walkLevelsWith enter b) := by
  induction hk : total ((a ++ b).map Prod.snd) using Nat.strongRecOn generalizing a b with
  | ind k ih =>
    subst hk
    by_cases hempty : a ++ b = []
    · obtain ⟨rfl, rfl⟩ := List.append_eq_nil_iff.mp hempty
      simp [walkLevelsWith]
    · have hlt : total (((a.flatMap (inherit enter)) ++ b.flatMap (inherit enter)).map Prod.snd) <
          total ((a ++ b).map Prod.snd) := by
        rw [← List.flatMap_append, map_snd_flatMap_inherit]
        exact total_flatMap_children_lt (by simpa using hempty)
      have hbelow := ih _ hlt _ _ rfl
      rw [walkLevelsWith_eq enter (a ++ b), walkLevelsWith_eq enter a, walkLevelsWith_eq enter b,
        List.flatMap_append]
      refine (hbelow.append_left (a ++ b)).trans ?_
      rw [List.append_assoc, List.append_assoc]
      refine List.Perm.append_left a ?_
      rw [← List.append_assoc, ← List.append_assoc]
      exact List.Perm.append_right _ List.perm_append_comm

theorem map_snd_walkLevelsWith (entries : List (κ × Node)) :
    (walkLevelsWith enter entries).map Prod.snd = walkLevels (entries.map Prod.snd) := by
  induction hk : total (entries.map Prod.snd) using Nat.strongRecOn
    generalizing entries with
  | ind k ih =>
    subst hk
    by_cases hempty : entries = []
    · simp [hempty, walkLevelsWith, walkLevels]
    · have hlt : total ((entries.flatMap (inherit enter)).map Prod.snd) <
          total (entries.map Prod.snd) := by
        rw [map_snd_flatMap_inherit]
        exact total_flatMap_children_lt (by simpa using hempty)
      rw [walkLevelsWith_eq, walkLevels_eq, List.map_append, ih _ hlt _ rfl,
        map_snd_flatMap_inherit]

theorem perm_walkLevels_append (a b : List Node) :
    (walkLevels (a ++ b)).Perm (walkLevels a ++ walkLevels b) := by
  have hrooted : ∀ nodes : List Node, walkLevels nodes =
      (walkLevelsWith (fun _ _ _ => ()) (nodes.map fun n => ((), n))).map Prod.snd := by
    intro nodes
    rw [map_snd_walkLevelsWith, List.map_map]
    exact congrArg walkLevels (List.map_id nodes).symm
  have hroots : (a ++ b).map (fun n => ((), n)) = a.map (fun n => ((), n)) ++
      b.map (fun n => ((), n)) := List.map_append
  rw [hrooted (a ++ b), hrooted a, hrooted b, ← List.map_append, hroots]
  exact (perm_walkLevelsWith_append _ _ _).map Prod.snd

theorem all_walkLevels_append (p : Node → Bool) (a b : List Node) :
    (walkLevels (a ++ b)).all p = ((walkLevels a).all p && (walkLevels b).all p) := by
  rw [(perm_walkLevels_append a b).all_eq, List.all_append]

theorem all_walkLevelsWith_append (p : κ × Node → Bool) (a b : List (κ × Node)) :
    (walkLevelsWith enter (a ++ b)).all p =
      ((walkLevelsWith enter a).all p && (walkLevelsWith enter b).all p) := by
  rw [(perm_walkLevelsWith_append enter a b).all_eq, List.all_append]

theorem scope_append (a b : List Node) : scope (a ++ b) = scope a ++ scope b := by
  induction a using scope.induct with
  | case1 => simp [scope]
  | case2 n rest ih =>
    rw [List.cons_append, scope, ← List.append_assoc, ih, scope, List.cons_append]

theorem stmts_append (a b : List Stmt) : stmts (a ++ b) = stmts a ++ stmts b :=
  List.map_append

end Node

/-! ## Flow and declarations -/

theorem flowsStmts_append (s : Situation) (a b : List Stmt) :
    flowsStmts s (a ++ b) = (flowsStmts s a && flowsStmts s b) := by
  induction a with
  | nil => simp [flowsStmts]
  | cons stmt rest ih => rw [List.cons_append, flowsStmts, flowsStmts, ih, Bool.and_assoc]

theorem declaredInTime_iff (uses : Node → List String) (used : List String) (nodes : List Node) :
    declaredInTime uses used nodes = true ↔ declaredInTime uses [] nodes = true ∧
      ∀ n ∈ nodes, ∀ name ∈ namesDeclared n, name ∉ used := by
  induction nodes generalizing used with
  | nil => simp [declaredInTime]
  | cons n rest ih =>
    rw [declaredInTime, declaredInTime, Bool.and_eq_true, Bool.and_eq_true, ih (uses n ++ used),
      ih (uses n ++ [])]
    simp only [List.all_eq_true, Bool.not_eq_true', List.contains_eq_mem, decide_eq_false_iff_not,
      List.not_mem_nil, not_false_eq_true, implies_true, true_and, List.append_nil, List.mem_append,
      not_or, List.forall_mem_cons]
    constructor
    · rintro ⟨hown, hrest, hlater⟩
      exact ⟨⟨hrest, fun m hm name hname => (hlater m hm name hname).1⟩, hown,
        fun m hm name hname => (hlater m hm name hname).2⟩
    · rintro ⟨⟨hrest, huses⟩, hown, hused⟩
      exact ⟨hown, hrest, fun m hm name hname => ⟨huses m hm name hname, hused m hm name hname⟩⟩

theorem declaredInTime_append (uses : Node → List String) (a b : List Node) :
    declaredInTime uses [] (a ++ b) = true ↔
      declaredInTime uses [] a = true ∧ declaredInTime uses [] b = true ∧
        ∀ n ∈ b, ∀ name ∈ namesDeclared n, ∀ m ∈ a, name ∉ uses m := by
  induction a with
  | nil => simp [declaredInTime]
  | cons m rest ih =>
    rw [List.cons_append, declaredInTime, declaredInTime, Bool.and_eq_true, Bool.and_eq_true,
      declaredInTime_iff uses _ (rest ++ b), declaredInTime_iff uses _ rest, ih]
    simp only [List.append_nil, List.mem_append, List.forall_mem_cons]
    constructor
    · rintro ⟨hown, ⟨hrest, hb, hclash⟩, hlater⟩
      exact ⟨⟨hown, hrest, fun n hn => hlater n (.inl hn)⟩, hb,
        fun n hn name hname => ⟨hlater n (.inr hn) name hname, hclash n hn name hname⟩⟩
    · rintro ⟨⟨hown, hrest, hlater⟩, hb, hclash⟩
      refine ⟨hown, ⟨hrest, hb, fun n hn name hname => (hclash n hn name hname).2⟩, ?_⟩
      rintro n (hn | hn) name hname
      · exact hlater n hn name hname
      · exact (hclash n hn name hname).1

/-- A name that is declared in the scope of the module below a use of it. -/
def Clashes (above below : List Stmt) : Prop :=
  ∃ n ∈ Node.scope (Node.stmts below), ∃ name ∈ namesDeclared n,
    ∃ m ∈ Node.scope (Node.stmts above), name ∈ namesUsed m

theorem moduleIsLegal_append (above below : List Stmt) :
    moduleIsLegal ⟨above ++ below⟩ = true ↔
      moduleIsLegal ⟨above⟩ = true ∧ moduleIsLegal ⟨below⟩ = true ∧ ¬Clashes above below := by
  simp only [moduleIsLegal, Clashes, Node.stmts_append, Node.scope_append, List.all_append,
    Bool.and_eq_true, declaredInTime_append]
  push Not
  tauto

/-! ## The future -/

/-- Statements that may stand before one about the future. -/
def isPreamble (s : Stmt) : Bool := (futureNames? s).isSome || isTextStatement s

/-- A statement about the future in a list of statements, not inside one of them. -/
def speaksOfFuture (stmts : List Stmt) : Prop := ∃ s ∈ stmts, (futureNames? s).isSome = true

/-- Every statement of the one list stands on a line above those of the other list. -/
def LinesBelow (above below : List Stmt) : Prop :=
  ∀ s ∈ above, ∀ t ∈ below, s.span.line < t.span.line

/-- The search for statements about the future ends at the line of one or where it began. -/
theorem futureLine_eq_some {started : Bool} {last previous line : Nat} {stmts : List Stmt}
    (h : futureLine started last previous stmts = some line) :
    line = last ∨ ∃ s ∈ stmts, line = s.span.line := by
  induction stmts generalizing started last previous with
  | nil =>
    rw [futureLine, Option.some.injEq] at h
    exact .inl h.symm
  | cons s rest ih =>
    rw [futureLine] at h
    split_ifs at h with hstop
    · exact .inl (Option.some.inj h).symm
    · cases hnames : futureNames? s with
      | none =>
        rw [hnames] at h
        rcases ih h with hlast | ⟨t, ht, hline⟩
        · exact .inl hlast
        · exact .inr ⟨t, List.mem_cons_of_mem s ht, hline⟩
      | some names =>
        simp only [hnames] at h
        split_ifs at h
        rcases ih h with hlast | ⟨t, ht, hline⟩
        · exact .inr ⟨s, List.mem_cons_self, hlast⟩
        · exact .inr ⟨t, List.mem_cons_of_mem s ht, hline⟩

theorem futureLine_silent {stmts : List Stmt} (h : ¬speaksOfFuture stmts)
    (started : Bool) (last previous : Nat) :
    futureLine started last previous stmts = some last := by
  induction stmts generalizing started previous with
  | nil => rfl
  | cons s rest ih =>
    have hnone : futureNames? s = none := by
      by_contra hsome
      exact h ⟨s, List.mem_cons_self, Option.isSome_iff_ne_none.mpr hsome⟩
    have hrest : ¬speaksOfFuture rest :=
      fun ⟨t, ht, hspeaks⟩ => h ⟨t, List.mem_cons_of_mem s ht, hspeaks⟩
    rw [futureLine, hnone]
    split_ifs
    · rfl
    · exact ih hrest _ _

/-- Before it has started, the search does not look at the line before. -/
theorem futureLine_previous (last previous previous' : Nat) (stmts : List Stmt) :
    futureLine false last previous stmts = futureLine false last previous' stmts := by
  cases stmts <;> rfl

theorem futureLine_preamble {above : List Stmt} (h : ∀ s ∈ above, isPreamble s = true)
    (last previous : Nat) (below : List Stmt) :
    futureLine false last previous (above ++ below) =
      (futureLine false last previous above).bind fun line => futureLine false line 0 below := by
  induction above generalizing last previous with
  | nil => exact futureLine_previous _ _ _ below
  | cons s rest ih =>
    have hs := h s List.mem_cons_self
    have hrest := ih fun t ht => h t (List.mem_cons_of_mem s ht)
    rw [List.cons_append, futureLine, futureLine]
    simp only [Bool.false_and, Bool.false_eq_true, if_false, Bool.false_or]
    cases hnames : futureNames? s with
    | none =>
      have htext : isTextStatement s = true := by simpa [isPreamble, hnames] using hs
      simp only [htext, Bool.not_true]
      exact hrest _ _
    | some names =>
      simp only
      split_ifs
      · rfl
      · exact hrest _ _

/-- Once the search has started, statements on later lines are not looked at. -/
theorem futureLine_started {above below : List Stmt} (hlines : LinesBelow above below)
    {last previous : Nat} (hprevious : ∀ t ∈ below, previous < t.span.line) :
    futureLine true last previous (above ++ below) = futureLine true last previous above := by
  induction above generalizing previous with
  | nil =>
    cases below with
    | nil => rfl
    | cons t rest => simp [futureLine, hprevious t List.mem_cons_self]
  | cons s rest ih =>
    have hrest := ih (fun a ha => hlines a (List.mem_cons_of_mem s ha))
      (fun t ht => hlines s List.mem_cons_self t ht)
    rw [List.cons_append, futureLine, futureLine]
    simp only [Bool.true_and, Bool.true_or, if_true, decide_eq_true_eq]
    split_ifs
    · rfl
    · cases futureNames? s with
      | none => exact hrest
      | some names => rfl

theorem futureLine_late {above below : List Stmt} (hlines : LinesBelow above below)
    (h : ∃ s ∈ above, isPreamble s = false) (last previous : Nat) :
    futureLine false last previous (above ++ below) = futureLine false last previous above := by
  induction above generalizing last previous with
  | nil => exact absurd h (by simp)
  | cons s rest ih =>
    have hbelow : LinesBelow rest below := fun a ha => hlines a (List.mem_cons_of_mem s ha)
    rw [List.cons_append, futureLine, futureLine]
    simp only [Bool.false_and, Bool.false_eq_true, if_false, Bool.false_or]
    by_cases hs : isPreamble s = true
    · have hrest := ih hbelow (by simpa [hs] using h)
      cases hnames : futureNames? s with
      | none =>
        have htext : isTextStatement s = true := by simpa [isPreamble, hnames] using hs
        simp only [htext, Bool.not_true]
        exact hrest _ _
      | some names =>
        simp only
        split_ifs
        · rfl
        · exact hrest _ _
    · -- the search starts with this statement
      simp only [isPreamble, Bool.or_eq_true, not_or, Bool.not_eq_true, Option.isSome_eq_false_iff,
        Option.isNone_iff_eq_none] at hs
      simp only [hs.1, hs.2, Bool.not_false]
      exact futureLine_started hbelow fun t ht => hlines s List.mem_cons_self t ht

/-- From another line on, the search ends at the same line or there where it began. -/
theorem futureLine_from {stmts : List Stmt} {started : Bool} {last previous line : Nat}
    (h : futureLine started last previous stmts = some line) (last' : Nat) :
    futureLine started last' previous stmts = some line ∨
      line = last ∧ futureLine started last' previous stmts = some last' := by
  induction stmts generalizing started previous with
  | nil =>
    rw [futureLine, Option.some.injEq] at h
    exact .inr ⟨h.symm, rfl⟩
  | cons s rest ih =>
    rw [futureLine] at h ⊢
    split_ifs at h ⊢ with hstop
    · exact .inr ⟨(Option.some.inj h).symm, rfl⟩
    · cases hnames : futureNames? s with
      | none =>
        simp only [hnames] at h
        exact ih h
      | some names =>
        simp only [hnames] at h ⊢
        split_ifs at h ⊢
        exact .inl h

/-- What the rule about the future asks of one node. -/
def speaksBy (last : Nat) : Node → Bool
  | .stmt s => (futureNames? s).isNone || s.span.line ≤ last
  | _ => true

theorem futureIsLegal_iff (body : List Stmt) :
    futureIsLegal ⟨body⟩ (Node.walkLevels (Node.stmts body)) = true ↔
      ∃ last, futureLine false 0 0 body = some last ∧
        (Node.walkLevels (Node.stmts body)).all (speaksBy last) = true := by
  unfold futureIsLegal
  cases futureLine false 0 0 body with
  | none => simp
  | some last =>
    simp only [Option.some.injEq, exists_eq_left']
    refine Eq.congr_left (congrArg (List.all _) (funext fun n => ?_))
    cases n <;> rfl

theorem speaksBy_mono {last last' : Nat} (h : last ≤ last') {nodes : List Node}
    (hall : nodes.all (speaksBy last) = true) : nodes.all (speaksBy last') = true := by
  rw [List.all_eq_true] at hall ⊢
  intro n hn
  have hnode := hall n hn
  cases n with
  | stmt s =>
    simp only [speaksBy, Bool.or_eq_true, decide_eq_true_eq] at hnode ⊢
    exact hnode.imp_right fun hle => Nat.le_trans hle h
  | _ => rfl

theorem mem_walkLevels_of_mem {nodes : List Node} {n : Node} (h : n ∈ nodes) :
    n ∈ Node.walkLevels nodes := by
  rw [Node.walkLevels_eq]
  exact List.mem_append_left _ h

/-- A module that speaks of the future after something else. -/
def SpeaksLate (above below : List Stmt) : Prop :=
  speaksOfFuture below ∧ ∃ s ∈ above, isPreamble s = false

theorem futureIsLegal_append {above below : List Stmt} (hlines : LinesBelow above below)
    (habove : futureIsLegal ⟨above⟩ (Node.walkLevels (Node.stmts above)) = true)
    (hbelow : futureIsLegal ⟨below⟩ (Node.walkLevels (Node.stmts below)) = true) :
    futureIsLegal ⟨above ++ below⟩ (Node.walkLevels (Node.stmts (above ++ below))) = true ↔
      ¬SpeaksLate above below := by
  obtain ⟨lastAbove, hlastAbove, hallAbove⟩ := (futureIsLegal_iff above).mp habove
  obtain ⟨lastBelow, hlastBelow, hallBelow⟩ := (futureIsLegal_iff below).mp hbelow
  -- the search above ends on a line above everything below
  have hearlier : ∀ t ∈ below, above ≠ [] → lastAbove < t.span.line := by
    intro t ht hne
    rcases futureLine_eq_some hlastAbove with rfl | ⟨s, hs, rfl⟩
    · obtain ⟨s, hs⟩ := List.exists_mem_of_ne_nil above hne
      have := hlines s hs t ht
      omega
    · exact hlines s hs t ht
  rw [futureIsLegal_iff, Node.stmts_append]
  simp only [Node.all_walkLevels_append, Bool.and_eq_true]
  by_cases hpreamble : ∀ s ∈ above, isPreamble s = true
  · -- the search goes on below
    have hnot : ¬SpeaksLate above below := fun ⟨_, s, hs, hfalse⟩ => by
      rw [hpreamble s hs] at hfalse
      exact absurd hfalse (by decide)
    refine iff_of_true ?_ hnot
    have hsearch : futureLine false 0 0 (above ++ below) = futureLine false lastAbove 0 below := by
      rw [futureLine_preamble hpreamble, hlastAbove]
      rfl
    rw [hsearch]
    rcases futureLine_from hlastBelow lastAbove with hfound | ⟨hnone, hsame⟩
    · refine ⟨lastBelow, hfound, speaksBy_mono ?_ hallAbove, hallBelow⟩
      by_cases hne : above = []
      · rw [hne, futureLine, Option.some.injEq] at hlastAbove
        omega
      · rcases futureLine_eq_some hfound with rfl | ⟨t, ht, rfl⟩
        · exact Nat.le_refl _
        · exact Nat.le_of_lt (hearlier t ht hne)
    · refine ⟨lastAbove, hsame, hallAbove, speaksBy_mono ?_ hallBelow⟩
      omega
  · -- the search ends above
    push Not at hpreamble
    obtain ⟨s, hs, hother⟩ := hpreamble
    have hlate : ∃ s ∈ above, isPreamble s = false := ⟨s, hs, by simpa using hother⟩
    have hne : above ≠ [] := List.ne_nil_of_mem hs
    rw [futureLine_late hlines hlate, hlastAbove]
    simp only [Option.some.injEq, exists_eq_left', hallAbove, true_and]
    constructor
    · rintro hall ⟨⟨t, ht, hspeaks⟩, -⟩
      have hnode := List.all_eq_true.mp hall _ (mem_walkLevels_of_mem (List.mem_map_of_mem ht))
      have hline := hearlier t ht hne
      simp only [speaksBy, Bool.or_eq_true, decide_eq_true_eq] at hnode
      rcases hnode with hnone | hle
      · rw [← Option.not_isSome, hspeaks] at hnone
        exact absurd hnone (by decide)
      · omega
    · intro hnot
      have hsilent : ¬speaksOfFuture below := fun hspeaks => hnot ⟨hspeaks, hlate⟩
      rw [futureLine_silent hsilent, Option.some.injEq] at hlastBelow
      exact speaksBy_mono (by omega) hallBelow

/-! ## All rules -/

theorem isLegal_iff (body : List Stmt) :
    Module.isLegal ⟨body⟩ = true ↔ flowsStmts .top body = true ∧
      (Node.walkLevelsWith Reach.enter ((Node.stmts body).map fun n => (Reach.none, n))).all
        (fun e => reaches e.1 e.2) = true ∧
      (Node.walkLevels (Node.stmts body)).all
        (fun n => starsNode n && namesDiffer n && casesAreLegal n && scopeIsLegal n) = true ∧
      moduleIsLegal ⟨body⟩ = true ∧
      futureIsLegal ⟨body⟩ (Node.walkLevels (Node.stmts body)) = true := by
  simp only [Module.isLegal, Bool.and_eq_true, and_assoc]

/-- Two legal modules, one below the other, are a legal module except where the lower one declares
a name that the upper one uses, or speaks of the future after something else. -/
theorem isLegal_append_iff {above below : List Stmt} (hlines : LinesBelow above below)
    (habove : Module.isLegal ⟨above⟩ = true) (hbelow : Module.isLegal ⟨below⟩ = true) :
    Module.isLegal ⟨above ++ below⟩ = true ↔
      ¬Clashes above below ∧ ¬SpeaksLate above below := by
  obtain ⟨hflow, hreach, hnodes, hmodule, hfuture⟩ := (isLegal_iff above).mp habove
  obtain ⟨hflow', hreach', hnodes', hmodule', hfuture'⟩ := (isLegal_iff below).mp hbelow
  rw [isLegal_iff, futureIsLegal_append hlines hfuture hfuture', moduleIsLegal_append,
    flowsStmts_append, Node.stmts_append, List.map_append, Node.all_walkLevelsWith_append,
    Node.all_walkLevels_append, hflow, hflow', hreach, hreach', hnodes, hnodes', hmodule, hmodule']
  simp only [Bool.and_self, true_and]

/-! ## Late statements about the future -/

/-- A statement, and after it one about the future. -/
def startsLate : List Stmt → Bool
  | [] => false
  | s :: rest =>
    !isPreamble s && rest.any fun t => (futureNames? t).isSome && decide (0 < t.span.line)

theorem futureLine_true {last previous line : Nat} {stmts : List Stmt}
    (h : futureLine true last previous stmts = some line) : line = last := by
  induction stmts generalizing previous with
  | nil => exact (Option.some.inj h).symm
  | cons s rest ih =>
    rw [futureLine] at h
    split_ifs at h with hstop
    · exact (Option.some.inj h).symm
    · cases hnames : futureNames? s with
      | none =>
        simp only [hnames, Bool.true_or] at h
        exact ih h
      | some names => simp [hnames] at h

theorem isLegal_of_startsLate {body : List Stmt} (h : startsLate body = true) :
    Module.isLegal ⟨body⟩ = false := by
  cases body with
  | nil => exact nomatch h
  | cons s rest =>
    simp only [startsLate, Bool.and_eq_true, Bool.not_eq_true', List.any_eq_true,
      decide_eq_true_eq] at h
    obtain ⟨hother, t, ht, hspeaks, hline⟩ := h
    by_contra hlegal
    rw [Bool.not_eq_false, isLegal_iff, futureIsLegal_iff] at hlegal
    obtain ⟨-, -, -, -, last, hlast, hall⟩ := hlegal
    simp only [isPreamble, Bool.or_eq_false_iff, Option.isSome_eq_false_iff,
      Option.isNone_iff_eq_none] at hother
    rw [futureLine] at hlast
    simp only [Bool.false_and, Bool.false_eq_true, if_false, Bool.false_or, hother.1, hother.2,
      Bool.not_false] at hlast
    have hmem : Node.stmt t ∈ Node.stmts (s :: rest) :=
      List.mem_map_of_mem (List.mem_cons_of_mem s ht)
    have hnode := List.all_eq_true.mp hall _ (mem_walkLevels_of_mem hmem)
    rw [futureLine_true hlast] at hnode
    simp only [speaksBy, Bool.or_eq_true, decide_eq_true_eq, Nat.le_zero] at hnode
    rcases hnode with hnone | hzero
    · rw [← Option.not_isSome, hspeaks] at hnone
      exact absurd hnone (by decide)
    · omega

end DesignLens.Source
