import DesignLens.Proofs.TreeWalks

/-!
# A test for legal modules

Of the rules beyond the grammar only the one about the future asks where a statement stands. The
test `isSound` does not look at places at all, so that it can be computed for a module of which only
the shape is known. It is stricter than the rules: names of other scopes, patterns and stars among
the elements of a list do not pass. A module that passes is legal, and it can be put below any other
legal module unless both of them have to come first: `IsSound.isLegal`, `IsSound.append_iff`.
-/

namespace DesignLens.Source

/-! ## Walks to a bounded depth -/

namespace Node

variable {κ : Type} (enter : κ → Node → Node → κ)

/-- A walk that is given up if there are more levels than expected. -/
def levels : Nat → List (κ × Node) → Option (List (κ × Node))
  | _, [] => some []
  | 0, _ :: _ => none
  | depth + 1, e :: rest =>
    (levels depth ((e :: rest).flatMap (inherit enter))).map (e :: rest ++ ·)

theorem walkLevelsWith_of_levels {depth : Nat} {entries found : List (κ × Node)}
    (h : levels enter depth entries = some found) : walkLevelsWith enter entries = found := by
  induction depth generalizing entries found with
  | zero =>
    cases entries with
    | nil => simpa [levels, walkLevelsWith] using h
    | cons e rest => cases h
  | succ depth ih =>
    cases entries with
    | nil => simpa [levels, walkLevelsWith] using h
    | cons e rest =>
      obtain ⟨below, hbelow, rfl⟩ := Option.map_eq_some_iff.mp h
      rw [walkLevelsWith_eq, ih hbelow]

variable {roots nodes : List Node} {n part : Node}

theorem Within.trans (hn : Within roots n) (h : Within [n] part) : Within roots part := by
  induction h with
  | root hroot => exact List.mem_singleton.mp hroot ▸ hn
  | part _ hchild ih => exact .part ih hchild

/-- What belongs to the scope around a node is a part of the node or a part of a part. -/
theorem mem_outer (h : part ∈ n.outer) :
    part ∈ n.children ∨ ∃ inner ∈ n.children, part ∈ inner.children := by
  have hfirst : ∀ clauses : List Comprehension,
      part ∈ exprs ((clauses.take 1).map (·.iterable)) →
      ∃ inner ∈ clauses.map Node.comprehension, part ∈ inner.children := by
    intro clauses hpart
    obtain ⟨e, he, rfl⟩ := List.mem_map.mp hpart
    obtain ⟨c, hc, rfl⟩ := List.mem_map.mp he
    exact ⟨_, List.mem_map_of_mem (List.mem_of_mem_take hc), by simp [children]⟩
  revert h
  fun_cases Node.outer n <;> intro h
  case case5 | case6 | case7 | case8 =>
    obtain ⟨inner, hinner, hpart⟩ := hfirst _ h
    exact .inr ⟨inner, by simp [children, ofExpr, hinner], hpart⟩
  all_goals
    simp only [children, ofStmt, ofExpr, List.mem_append, List.mem_cons, List.not_mem_nil,
      or_false] at h ⊢
    tauto

theorem Within.outer (h : Within roots n) (hpart : part ∈ n.outer) : Within roots part := by
  rcases mem_outer hpart with hchild | ⟨inner, hinner, hpart⟩
  · exact .part h hchild
  · exact .part (.part h hinner) hpart

theorem within_of_mem_scope (hnodes : ∀ m ∈ nodes, Within roots m) (h : n ∈ scope nodes) :
    Within roots n := by
  induction nodes using scope.induct with
  | case1 => simp [scope] at h
  | case2 first rest ih =>
    rw [scope, List.mem_cons] at h
    rcases h with rfl | h
    · exact hnodes _ List.mem_cons_self
    · refine ih (fun m hm => ?_) h
      rcases List.mem_append.mp hm with hm | hm
      · exact (hnodes _ List.mem_cons_self).outer hm
      · exact hnodes _ (List.mem_cons_of_mem _ hm)

end Node

open Node

/-! ## The test -/

/-- A node that declares no names of other scopes, is no pattern, and has no star in a list. -/
def isPlainKind : Node → Bool
  | .stmt (.match_ ..) | .pattern _ | .stmt (.global ..) | .stmt (.nonlocal ..) => false
  | .expr (.list _ elements) | .expr (.tuple _ elements) =>
    elements.all fun e => !isStarred (.expr e)
  | _ => true

/-- A node that keeps the rules whatever its parts are like inside. -/
def isPlainNode (n : Node) : Bool :=
  isPlainKind n && namesDiffer n && (holdsStars n || n.children.all fun child => !isStarred child)

/-- A statement about the future. -/
def speaks : Node → Bool
  | .stmt s => (futureNames? s).isSome
  | _ => false

/-- The first statement that is no text is about things in the future that exist. -/
def opensWithFuture (body : List Stmt) : Bool :=
  (body.dropWhile isTextStatement).head?.any fun s =>
    (futureNames? s).any fun names => names.all futureFeatures.contains

/-- Statements that keep all rules and speak about the future either once, at their start, or not
at all. Nodes are looked at down to a depth that programs do not come near. -/
def isSound (opens : Bool) (body : List Stmt) : Bool :=
  flowsStmts .top body &&
    ((levels Reach.enter 64 ((stmts body).map fun n => (Reach.none, n))).any fun entries =>
      entries.all (fun e => reaches e.1 e.2 && isPlainNode e.2) &&
        (entries.map Prod.snd).countP speaks == bif opens then 1 else 0) &&
    (!opens || opensWithFuture body)

/-- What the test says. -/
structure IsSound (opens : Bool) (body : List Stmt) : Prop where
  flows : flowsStmts .top body = true
  reached : (walkLevelsWith Reach.enter ((stmts body).map fun n => (Reach.none, n))).all
    (fun e => reaches e.1 e.2) = true
  plain : ∀ n, Within (stmts body) n → isPlainNode n = true
  spoken : (walkLevels (stmts body)).countP speaks = bif opens then 1 else 0
  opening : opens = true → opensWithFuture body = true

theorem isSound_of_check {opens : Bool} {body : List Stmt} (h : isSound opens body = true) :
    IsSound opens body := by
  unfold isSound at h
  rw [Bool.and_eq_true, Bool.and_eq_true, Option.any_eq_true] at h
  obtain ⟨⟨hflows, entries, hlevels, hentries⟩, hopens⟩ := h
  rw [Bool.and_eq_true, beq_iff_eq, List.all_eq_true] at hentries
  have hwalk := walkLevelsWith_of_levels _ hlevels
  have hnodes : entries.map Prod.snd = walkLevels (stmts body) := by
    rw [← hwalk, map_snd_walkLevelsWith, List.map_map]
    exact congrArg walkLevels (List.map_id _)
  refine ⟨hflows, ?_, fun n hn => ?_, hnodes ▸ hentries.2, fun htrue => ?_⟩
  · rw [hwalk, List.all_eq_true]
    exact fun e he => (Bool.and_eq_true_iff.mp (hentries.1 e he)).1
  · rw [← mem_walkLevels_iff, ← hnodes] at hn
    obtain ⟨e, he, rfl⟩ := List.mem_map.mp hn
    exact (Bool.and_eq_true_iff.mp (hentries.1 e he)).2
  · simpa [htrue] using hopens

/-! ## Nodes -/

section
variable {opens : Bool} {body : List Stmt}

theorem mem_children_of_target {n : Node} {target : Expr} (h : target ∈ targetsOfNode n) :
    Node.expr target ∈ n.children := by
  unfold targetsOfNode at h
  split at h
  case h_1 => simp [children, ofStmt, exprs, h]
  case h_2 => simp [children, ofStmt, List.mem_singleton.mp h]
  case h_3 => simp [children, List.mem_singleton.mp h]
  case h_4 => simp [children, Node.optional, Option.mem_toList.mp h]
  case h_5 => cases h

theorem starsTarget_of_plain {e : Expr} (h : isPlainNode (.expr e) = true) :
    starsTarget e = true := by
  have hcount : ∀ elements : List Expr, (elements.all fun e => !isStarred (.expr e)) = true →
      elements.countP (fun e => isStarred (.expr e)) ≤ 1 := by
    intro elements hall
    rw [List.countP_eq_zero.mpr fun e he => by simpa using List.all_eq_true.mp hall e he]
    exact Nat.zero_le 1
  unfold isPlainNode at h
  rw [Bool.and_eq_true, Bool.and_eq_true] at h
  unfold starsTarget
  split
  · exact decide_eq_true (hcount _ h.1.1)
  · exact decide_eq_true (hcount _ h.1.1)
  · rfl

theorem namesDeclared_of_plain {n : Node} (h : isPlainNode n = true) :
    namesDeclared n = [] ∧ isNonlocal n = false := by
  unfold isPlainNode at h
  rw [Bool.and_eq_true, Bool.and_eq_true] at h
  unfold namesDeclared isNonlocal
  constructor
  · split
    · exact nomatch h.1.1
    · exact nomatch h.1.1
    · rfl
  · split
    · exact nomatch h.1.1
    · rfl

theorem declaredInTime_of_undeclared {uses : Node → List String} {used : List String}
    {nodes : List Node} (h : ∀ n ∈ nodes, namesDeclared n = []) :
    declaredInTime uses used nodes = true := by
  induction nodes generalizing used with
  | nil => rfl
  | cons n rest ih =>
    rw [declaredInTime, h n List.mem_cons_self, List.all_nil, Bool.true_and]
    exact ih fun m hm => h m (List.mem_cons_of_mem n hm)

theorem casesAreLegal_of_plain {n : Node} (h : isPlainNode n = true) : casesAreLegal n = true := by
  unfold isPlainNode at h
  rw [Bool.and_eq_true, Bool.and_eq_true] at h
  unfold casesAreLegal
  split
  · exact nomatch h.1.1
  · exact nomatch h.1.1
  · rfl

namespace IsSound

variable (hsound : IsSound opens body)
include hsound

theorem scope_undeclared {n : Node} (hn : Within (stmts body) n) {inner : List Stmt}
    (hinner : ∀ s ∈ inner, Node.stmt s ∈ n.children) :
    ∀ m ∈ scope (stmts inner), namesDeclared m = [] := by
  intro m hm
  refine (namesDeclared_of_plain (hsound.plain m (within_of_mem_scope ?_ hm))).1
  intro root hroot
  obtain ⟨s, hs, rfl⟩ := List.mem_map.mp hroot
  exact .part hn (hinner s hs)

theorem starsNode {n : Node} (hn : Within (stmts body) n) : starsNode n = true := by
  unfold Source.starsNode
  have hplain := hsound.plain n hn
  unfold isPlainNode at hplain
  rw [Bool.and_eq_true] at hplain ⊢
  refine ⟨hplain.2, List.all_eq_true.mpr fun e he => ?_⟩
  obtain ⟨target, htarget, he⟩ := List.mem_flatMap.mp he
  obtain ⟨m, hm, hme⟩ := List.mem_filterMap.mp he
  have hwithin : Within (stmts body) m :=
    (Within.part hn (mem_children_of_target htarget)).trans (mem_walkLevels_iff.mp hm)
  cases m with
  | expr e' =>
    obtain rfl := Option.some.inj hme
    exact starsTarget_of_plain (hsound.plain _ hwithin)
  | _ => cases hme

theorem scopeIsLegal {n : Node} (hn : Within (stmts body) n) : scopeIsLegal n = true := by
  unfold Source.scopeIsLegal
  split
  · refine declaredInTime_of_undeclared (hsound.scope_undeclared hn fun s hs => ?_)
    simp [children, ofStmt, stmts, hs]
  · refine declaredInTime_of_undeclared (hsound.scope_undeclared hn fun s hs => ?_)
    simp [children, ofStmt, stmts, hs]
  · rfl

/-! ## Declarations of the module -/

theorem plain_of_mem_scope {n : Node} (h : n ∈ scope (stmts body)) : isPlainNode n = true :=
  hsound.plain n (within_of_mem_scope (fun _ hm => .root hm) h)

theorem moduleIsLegal : moduleIsLegal ⟨body⟩ = true := by
  unfold Source.moduleIsLegal
  rw [Bool.and_eq_true, List.all_eq_true]
  refine ⟨fun n hn => ?_, declaredInTime_of_undeclared fun n hn => ?_⟩
  · rw [(namesDeclared_of_plain (hsound.plain_of_mem_scope hn)).2, Bool.not_false]
  · exact (namesDeclared_of_plain (hsound.plain_of_mem_scope hn)).1

theorem not_clashes (above : List Stmt) : ¬Clashes above body := by
  rintro ⟨n, hn, name, hname, -⟩
  rw [(namesDeclared_of_plain (hsound.plain_of_mem_scope hn)).1] at hname
  cases hname

/-! ## The future -/

omit hsound in
theorem speaksBy_of_silent {last : Nat} {n : Node} (h : speaks n = false) :
    speaksBy last n = true := by
  cases n with
  | stmt s => simp_all [speaks, speaksBy]
  | _ => rfl

omit hsound in
/-- Statements that come to nothing about the future are silent about it. -/
theorem silent_of_countP {stmts' : List Stmt}
    (h : (walkLevels (stmts stmts')).countP speaks = 0) :
    ¬speaksOfFuture stmts' ∧ ∀ last, (walkLevels (stmts stmts')).all (speaksBy last) = true := by
  rw [List.countP_eq_zero] at h
  refine ⟨?_, fun last => List.all_eq_true.mpr fun n hn =>
    speaksBy_of_silent (Bool.eq_false_iff.mpr (h n hn))⟩
  rintro ⟨s, hs, hspeaks⟩
  exact h (.stmt s) (mem_walkLevels_of_mem (List.mem_map_of_mem hs)) hspeaks

omit hsound in
/-- The statements around one about the future are silent if there is no other one. -/
theorem countP_speaks_append (a b : List Stmt) :
    (walkLevels (stmts (a ++ b))).countP speaks =
      (walkLevels (stmts a)).countP speaks + (walkLevels (stmts b)).countP speaks := by
  rw [stmts_append, (perm_walkLevels_append _ _).countP_eq, List.countP_append]

omit hsound in
/-- A statement about the future has no parts. -/
theorem walkLevels_future {s : Stmt} {names : List String} (h : futureNames? s = some names) :
    walkLevels (stmts [s]) = [.stmt s] := by
  have hparts : (stmts [s]).flatMap children = [] := by
    unfold futureNames? at h
    split at h
    · rfl
    · exact nomatch h
  rw [walkLevels_eq, hparts, walkLevels]
  rfl

omit hsound in
theorem exists_opening (h : opensWithFuture body = true) :
    ∃ texts s names rest, body = texts ++ s :: rest ∧ (∀ t ∈ texts, isTextStatement t = true) ∧
      futureNames? s = some names ∧ names.all futureFeatures.contains = true := by
  unfold opensWithFuture at h
  obtain ⟨s, hs, hnames⟩ := Option.any_eq_true _ _ |>.mp h
  obtain ⟨names, hnames, hknown⟩ := Option.any_eq_true _ _ |>.mp hnames
  obtain ⟨rest, hrest⟩ := List.head?_eq_some_iff.mp hs
  refine ⟨body.takeWhile isTextStatement, s, names, rest, ?_,
    List.all_eq_true.mp List.all_takeWhile, hnames, hknown⟩
  rw [← hrest, List.takeWhile_append_dropWhile]

omit hsound in
/-- Texts at the start of a module leave the search for the future where it began. -/
theorem futureLine_texts {texts : List Stmt} (h : ∀ t ∈ texts, isTextStatement t = true) :
    futureLine false 0 0 texts = some 0 := by
  refine futureLine_silent ?_ _ _ _
  rintro ⟨t, ht, hspeaks⟩
  have htext := h t ht
  unfold isTextStatement at htext
  split at htext
  · exact Bool.false_ne_true hspeaks
  · exact Bool.false_ne_true htext

/-- Around the statement about the future at their start, sound statements are silent about it. -/
theorem silent_around {texts rest : List Stmt} {s : Stmt} {names : List String}
    (hbody : body = texts ++ s :: rest) (hnames : futureNames? s = some names)
    (hopens : opens = true) :
    (walkLevels (stmts texts)).countP speaks = 0 ∧ (walkLevels (stmts rest)).countP speaks = 0 := by
  have hspoken := hsound.spoken
  rw [hbody, hopens, countP_speaks_append, ← List.singleton_append, countP_speaks_append,
    walkLevels_future hnames] at hspoken
  have hone : [Node.stmt s].countP speaks = 1 := by simp [speaks, hnames]
  simp only [cond_true] at hspoken
  omega

theorem futureIsLegal : futureIsLegal ⟨body⟩ (walkLevels (stmts body)) = true := by
  rw [futureIsLegal_iff]
  cases hopens : opens with
  | false =>
    have hspoken := hsound.spoken
    rw [hopens] at hspoken
    obtain ⟨hsilent, hall⟩ := silent_of_countP hspoken
    exact ⟨0, futureLine_silent hsilent _ _ _, hall 0⟩
  | true =>
    obtain ⟨texts, s, names, rest, hbody, htexts, hnames, hknown⟩ :=
      exists_opening (hsound.opening hopens)
    obtain ⟨htextsCount, hrestCount⟩ := hsound.silent_around hbody hnames hopens
    obtain ⟨-, htextsAll⟩ := silent_of_countP htextsCount
    obtain ⟨hrest, hrestAll⟩ := silent_of_countP hrestCount
    have hpreamble : ∀ t ∈ texts, isPreamble t = true := fun t ht => by
      simp [isPreamble, htexts t ht]
    subst hbody
    refine ⟨s.span.line, ?_, ?_⟩
    · rw [futureLine_preamble hpreamble, futureLine_texts htexts]
      simp only [Option.bind_some, futureLine, hnames, hknown, Bool.false_and, Bool.false_or,
        Bool.not_true, Bool.false_eq_true, if_false]
      exact futureLine_silent hrest _ _ _
    · have hself : [Node.stmt s].all (speaksBy s.span.line) = true := by simp [speaksBy]
      rw [stmts_append, all_walkLevels_append, ← List.singleton_append, stmts_append,
        all_walkLevels_append, walkLevels_future hnames, htextsAll, hself, hrestAll]
      rfl

theorem speaksOfFuture_iff : speaksOfFuture body ↔ opens = true := by
  constructor
  · intro hspeaks
    by_contra hopens
    have hspoken := hsound.spoken
    rw [Bool.eq_false_iff.mpr hopens] at hspoken
    exact (silent_of_countP hspoken).1 hspeaks
  · intro hopens
    obtain ⟨texts, s, names, rest, rfl, -, hnames, -⟩ := exists_opening (hsound.opening hopens)
    exact ⟨s, by simp, by simp [hnames]⟩

/-! ## Modules -/

theorem isLegal : Module.isLegal ⟨body⟩ = true := by
  rw [isLegal_iff]
  refine ⟨hsound.flows, hsound.reached, List.all_eq_true.mpr fun n hn => ?_, hsound.moduleIsLegal,
    hsound.futureIsLegal⟩
  rw [mem_walkLevels_iff] at hn
  have hplain := hsound.plain n hn
  have hdiffer := hplain
  unfold isPlainNode at hdiffer
  simp only [Bool.and_eq_true] at hdiffer ⊢
  exact ⟨⟨⟨hsound.starsNode hn, hdiffer.1.2⟩, casesAreLegal_of_plain hplain⟩,
    hsound.scopeIsLegal hn⟩

/-- Below a legal module, sound statements break a rule exactly if they have to come first and do
not. -/
theorem append_iff {above : List Stmt} (hlines : LinesBelow above body)
    (habove : Module.isLegal ⟨above⟩ = true) :
    Module.isLegal ⟨above ++ body⟩ = true ↔
      ¬(opens = true ∧ ∃ s ∈ above, isPreamble s = false) := by
  rw [isLegal_append_iff hlines habove hsound.isLegal, ← hsound.speaksOfFuture_iff]
  exact and_iff_right (hsound.not_clashes above)

end IsSound

end

end DesignLens.Source
