import DesignLens.TypeHints.Editor
import Mathlib.Data.List.Forall2
import Mathlib.Data.Option.Basic

/-!
# Trees with hints

A pass over a tree comes to the tree in which every parameter and every function that wants a hint
has got the general type, at any depth, and it notes whether there was one (`visit_eq`). It fails
exactly if a lambda would get a parameter with a hint. No hint is missing then (`complete_hinted`),
so that a second pass changes nothing (`Complete.visit_eq`). Everything else in the tree stays as it
is, and taking the new hints out again gives back the tree (`OnlyHinted.unhint_eq`).
-/

namespace DesignLens.TypeHints

namespace Part

/-! ## Parts of parts -/

mutual

/-- A part and everything in it. -/
def nodes : Part → List Part
  | .node kind before hint after =>
    .node kind before hint after :: (nodesAll before ++ nodesHint hint ++ nodesAll after)

def nodesAll : List Part → List Part
  | [] => []
  | p :: rest => nodes p ++ nodesAll rest

def nodesHint : Option Part → List Part
  | none => []
  | some p => nodes p

end

theorem nodesAll_eq (ps : List Part) : nodesAll ps = ps.flatMap nodes := by
  induction ps with
  | nil => rfl
  | cons p rest ih => rw [nodesAll, ih, List.flatMap_cons]

theorem nodes_eq (t : Part) : t.nodes = t :: t.parts.flatMap nodes := by
  obtain ⟨kind, before, hint, after⟩ := t
  have hhint : nodesHint hint = hint.toList.flatMap nodes := by
    cases hint with
    | none => rfl
    | some p => exact (List.append_nil _).symm
  rw [nodes, nodesAll_eq, nodesAll_eq, hhint, parts, List.flatMap_append, List.flatMap_append]

theorem mem_nodes_self (t : Part) : t ∈ t.nodes := by
  rw [nodes_eq]
  exact List.mem_cons_self

theorem mem_nodes_of_part {t p n : Part} (hp : p ∈ t.parts) (hn : n ∈ p.nodes) : n ∈ t.nodes := by
  rw [nodes_eq]
  exact List.mem_cons_of_mem _ (List.mem_flatMap.mpr ⟨p, hp, hn⟩)

theorem mem_nodes_trans {t n m : Part} (hn : n ∈ t.nodes) (hm : m ∈ n.nodes) : m ∈ t.nodes := by
  induction t using Part.induction with
  | node t ih =>
    rw [nodes_eq, List.mem_cons, List.mem_flatMap] at hn
    rcases hn with rfl | ⟨p, hp, hn⟩
    · exact hm
    · exact mem_nodes_of_part hp (ih p hp hn)

/-! ## Definitions -/

/-- The definitions that get a hint if they have none. -/
def wants : Kind → Bool
  | .param name => !(["self", "cls"].contains name)
  | .function name => !(["__init__"].contains name)
  | _ => false

def wantsHint (t : Part) : Bool := t.hint.isNone && wants t.kind

/-- A lambda whose own parameters have no hints, or something else than a lambda. -/
def keepsLambda (t : Part) : Bool :=
  t.kind != .lambda || !t.ownParameters.any fun p => p.hint.isSome

theorem keepsLambda_of_ne {t : Part} (h : t.kind ≠ .lambda) : t.keepsLambda = true := by
  rw [keepsLambda, bne_iff_ne.mpr h, Bool.true_or]

/-- A parameter, function or lambda with the information whether it has a hint; for a lambda,
whether one of its parameters has. -/
def signature? (t : Part) : Option (Kind × Bool) :=
  match t.kind with
  | .param name => some (.param name, t.hint.isSome)
  | .function name => some (.function name, t.hint.isSome)
  | .lambda => some (.lambda, t.ownParameters.any fun p => p.hint.isSome)
  | _ => none

/-- The parameters, functions and lambdas of a tree in reading order. -/
def signatures (t : Part) : List (Kind × Bool) := t.nodes.filterMap signature?

/-- A signature of a definition that is complete as it is. -/
def isComplete : Kind × Bool → Bool
  | (.lambda, hinted) => !hinted
  | (kind, hinted) => hinted || !wants kind

theorem isComplete_iff (t : Part) : (∀ s, t.signature? = some s → isComplete s = true) ↔
    t.wantsHint = false ∧ t.keepsLambda = true := by
  obtain ⟨kind, before, hint, after⟩ := t
  cases kind <;> cases hint <;> simp [signature?, kind, Part.hint, wantsHint, wants, keepsLambda,
    isComplete, or_iff_not_imp_left]

/-- No hint is missing anywhere, and no parameter of a lambda has one. -/
def Complete (t : Part) : Prop := ∀ n ∈ t.nodes, n.wantsHint = false ∧ n.keepsLambda = true

theorem complete_iff {t : Part} : t.Complete ↔ ∀ s ∈ t.signatures, isComplete s = true := by
  constructor
  · intro h s hs
    obtain ⟨n, hn, hsig⟩ := List.mem_filterMap.mp hs
    exact (isComplete_iff n).mpr (h n hn) s hsig
  · intro h n hn
    exact (isComplete_iff n).mp fun s hs => h s (List.mem_filterMap.mpr ⟨n, hn, hs⟩)

/-! ## The tree with hints -/

/-- The hint of a definition, after the general one was added if it was missing. -/
def hintFor (kind : Kind) (hint : Option Part) : Option Part :=
  if hint.isNone && wants kind then some anyHint else hint

mutual

/-- The tree with hints wherever they are wanted. -/
def hinted : Part → Part
  | .node kind before hint after =>
    .node kind (hintedAll before) (hintFor kind (hintedHint hint)) (hintedAll after)

def hintedAll : List Part → List Part
  | [] => []
  | p :: rest => hinted p :: hintedAll rest

def hintedHint : Option Part → Option Part
  | none => none
  | some p => some (hinted p)

end

theorem hintedAll_eq (ps : List Part) : hintedAll ps = ps.map hinted := by
  induction ps with
  | nil => rfl
  | cons p rest ih => rw [hintedAll, ih, List.map_cons]

theorem hintedHint_eq (hint : Option Part) : hintedHint hint = hint.map hinted := by
  cases hint <;> rfl

theorem hinted_node (kind : Kind) (before : List Part) (hint : Option Part) (after : List Part) :
    hinted (.node kind before hint after) = .node kind (before.map hinted)
      (hintFor kind (hint.map hinted)) (after.map hinted) := by
  rw [hinted, hintedAll_eq, hintedAll_eq, hintedHint_eq]

@[simp] theorem kind_hinted (t : Part) : t.hinted.kind = t.kind := by
  cases t
  rfl

theorem isSome_hint_hinted (t : Part) : t.hinted.hint.isSome = (t.hint.isSome || wants t.kind) := by
  obtain ⟨kind, before, hint, after⟩ := t
  rw [hinted_node]
  cases hint <;> cases hw : wants kind <;> simp [Part.hint, Part.kind, hintFor, hw]

@[simp] theorem wantsHint_hinted (t : Part) : t.hinted.wantsHint = false := by
  have hsome := isSome_hint_hinted t
  unfold wantsHint
  rw [kind_hinted]
  cases hw : wants t.kind with
  | false => exact Bool.and_false _
  | true =>
    rw [hw, Bool.or_true] at hsome
    rw [Bool.and_true, Option.isNone_eq_false_iff]
    exact hsome

/-- Where no hint is wanted, nothing is added to the parts. -/
theorem parts_hinted {t : Part} (h : t.wantsHint = false) :
    t.hinted.parts = t.parts.map hinted := by
  obtain ⟨kind, before, hint, after⟩ := t
  have hkeep : hintFor kind (hint.map hinted) = hint.map hinted := by
    unfold hintFor
    rw [Option.isNone_map]
    exact if_neg (by simpa [wantsHint, Part.hint, Part.kind] using h)
  rw [hinted_node, hkeep]
  cases hint <;> simp [parts]

theorem wantsHint_eq_false {t : Part} (h : wants t.kind = false) : t.wantsHint = false := by
  rw [wantsHint, h, Bool.and_false]

/-! ## The pass -/

end Part

open DesignLens.TypeHints.Part

/-- A pass that comes to a result, and changes something or not, if it is allowed to. -/
def settled {α : Type} (allowed : Bool) (result : α) (isOpen : Bool) : Pass α := fun changed =>
  if allowed then .ok (result, changed || isOpen) else .error lambdaFailure

theorem pure_eq_settled {α : Type} (a : α) : (pure a : Pass α) = settled true a false := by
  funext changed
  exact congrArg (fun b => Except.ok (a, b)) (Bool.or_false changed).symm

/-- A pass after another one that changed something or not, if that one was allowed to. -/
def after {α : Type} (allowed isOpen : Bool) (x : Pass α) : Pass α := fun changed =>
  if allowed then x (changed || isOpen) else .error lambdaFailure

theorem settled_bind {α β : Type} (allowed isOpen : Bool) (a : α) (f : α → Pass β) :
    settled allowed a isOpen >>= f = after allowed isOpen (f a) := by
  funext changed
  cases allowed <;> rfl

theorem after_settled {α : Type} (allowed isOpen allowed' isOpen' : Bool) (a : α) :
    after allowed isOpen (settled allowed' a isOpen') =
      settled (allowed && allowed') a (isOpen || isOpen') := by
  funext changed
  cases allowed with
  | false => rfl
  | true => simp only [after, settled, if_true, Bool.true_and, Bool.or_assoc]

section
variable (kind : Kind) (before : List Part) (hint : Option Part) (after : List Part)

/-- What leaving a parameter or a function comes to. -/
theorem leaveDefinition_eq {kind : Kind} {exempt : List String} {name : String}
    (hwants : (!exempt.contains name) = wants kind) (hkind : kind ≠ .lambda) :
    leaveDefinition exempt name (.node kind before hint after) =
      settled (Part.node kind before hint after).keepsLambda
        (.node kind before (hintFor kind hint) after)
        (Part.node kind before hint after).wantsHint := by
  have hkeeps : (Part.node kind before hint after).keepsLambda = true :=
    keepsLambda_of_ne hkind
  have hwantsHint : (Part.node kind before hint after).wantsHint =
      (hint.isNone && wants kind) := rfl
  have hleave : leaveDefinition exempt name (.node kind before hint after) =
      if hint.isNone && !exempt.contains name then (do
        set true
        return .node kind before (some anyHint) after)
      else return .node kind before hint after := rfl
  rw [hkeeps, hwantsHint, hleave, hwants, hintFor]
  cases hint.isNone && wants kind with
  | true =>
    funext changed
    exact congrArg (fun b => Except.ok (_, b)) (Bool.or_true changed).symm
  | false => exact pure_eq_settled _

/-- What leaving a lambda comes to. -/
theorem leaveLambda_eq : leaveLambda (.node .lambda before hint after) =
    settled (Part.node .lambda before hint after).keepsLambda
      (.node .lambda before hint after) false := by
  have hkeeps : (Part.node .lambda before hint after).keepsLambda =
      !(Part.node .lambda before hint after).ownParameters.any fun p => p.hint.isSome := rfl
  rw [hkeeps, leaveLambda]
  cases (Part.node .lambda before hint after).ownParameters.any fun p => p.hint.isSome with
  | true => rfl
  | false => exact pure_eq_settled _

/-- What leaving a part comes to. -/
theorem leave_eq : leave (.node kind before hint after) =
    settled (Part.node kind before hint after).keepsLambda
      (.node kind before (hintFor kind hint) after)
      (Part.node kind before hint after).wantsHint := by
  cases kind with
  | param name => exact leaveDefinition_eq before hint after rfl (by simp)
  | function name => exact leaveDefinition_eq before hint after rfl (by simp)
  | lambda =>
    have hhint : hintFor .lambda hint = hint := by simp [hintFor, wants]
    have hwants : (Part.node .lambda before hint after).wantsHint = false :=
      wantsHint_eq_false rfl
    rw [hhint, hwants]
    exact leaveLambda_eq before hint after
  | text written | parameters | imported package name | other label =>
    simp only [hintFor, wants, wantsHint, Part.kind, Bool.and_false, Bool.false_eq_true, if_false]
    exact pure_eq_settled _

end

namespace Part

/-- No lambda in a tree gets a parameter with a hint. -/
def allows (t : Part) : Bool := t.nodes.all fun n => n.hinted.keepsLambda

/-- A hint is missing somewhere in a tree. -/
def isOpen (t : Part) : Bool := t.nodes.any wantsHint

theorem allows_eq (t : Part) : t.allows = (t.hinted.keepsLambda && t.parts.all allows) := by
  unfold allows
  rw [nodes_eq, List.all_cons, List.all_flatMap]

theorem isOpen_eq (t : Part) : t.isOpen = (t.wantsHint || t.parts.any isOpen) := by
  unfold isOpen
  rw [nodes_eq, List.any_cons, List.any_flatMap]

end Part

section
variable {ps : List Part} {hint : Option Part}

theorem visitAll_eq (h : ∀ p ∈ ps, visit p = settled p.allows p.hinted p.isOpen) :
    visitAll ps = settled (ps.all allows) (ps.map hinted) (ps.any isOpen) := by
  induction ps with
  | nil => exact pure_eq_settled []
  | cons p rest ih =>
    obtain ⟨hp, hrest⟩ := List.forall_mem_cons.mp h
    rw [visitAll, hp, ih hrest, settled_bind, settled_bind, pure_eq_settled, after_settled,
      after_settled, Bool.and_true, Bool.or_false]
    rfl

theorem visitHint_eq (h : ∀ p ∈ hint.toList, visit p = settled p.allows p.hinted p.isOpen) :
    visitHint hint =
      settled (hint.toList.all allows) (hint.map hinted) (hint.toList.any isOpen) := by
  cases hint with
  | none => exact pure_eq_settled none
  | some p =>
    rw [visitHint, h p (by simp), settled_bind, pure_eq_settled, after_settled]
    simp

end

/-- A pass over a tree adds the hints that are wanted and notes whether there were any, unless a
lambda stands in its way. -/
theorem visit_eq (t : Part) : visit t = settled t.allows t.hinted t.isOpen := by
  induction t using Part.induction with
  | node t ih =>
    obtain ⟨kind, before, hint, after⟩ := t
    simp only [parts, List.mem_append, or_imp, forall_and] at ih
    rw [visit, visitAll_eq ih.1.1, visitHint_eq ih.1.2, visitAll_eq ih.2, settled_bind,
      settled_bind, settled_bind, leave_eq, after_settled, after_settled, after_settled]
    -- a lambda has no place for a hint, so it is rebuilt as the lambda of the tree with hints
    have hkeeps : (Part.node kind (before.map hinted) (hint.map hinted)
        (after.map hinted)).keepsLambda = (hinted (.node kind before hint after)).keepsLambda := by
      by_cases hkind : kind = .lambda
      · subst hkind
        rw [hinted_node]
        simp [hintFor, wants]
      · refine Eq.trans (keepsLambda_of_ne ?_) (keepsLambda_of_ne ?_).symm
        · exact hkind
        · rwa [kind_hinted]
    have hwants : (Part.node kind (before.map hinted) (hint.map hinted)
        (after.map hinted)).wantsHint = (Part.node kind before hint after).wantsHint := by
      simp [wantsHint, Part.hint, Part.kind]
    rw [hkeeps, hwants, allows_eq, isOpen_eq, hinted_node]
    congr 1
    · simp only [parts, List.all_append]
      ac_rfl
    · simp only [parts, List.any_append]
      ac_rfl

namespace Part

/-! ## Complete trees -/

/-- What is in the tree with hints: the parts of the tree with their hints, and new hints. -/
theorem mem_nodes_hinted {t n : Part} (h : n ∈ t.hinted.nodes) :
    (∃ m ∈ t.nodes, n = m.hinted) ∨ n ∈ anyHint.nodes := by
  induction t using Part.induction with
  | node t ih =>
    rw [nodes_eq, List.mem_cons, List.mem_flatMap] at h
    rcases h with rfl | ⟨p, hp, hn⟩
    · exact .inl ⟨t, mem_nodes_self t, rfl⟩
    have hold : ∀ q ∈ t.parts, n ∈ q.hinted.nodes →
        (∃ m ∈ t.nodes, n = m.hinted) ∨ n ∈ anyHint.nodes := by
      intro q hq hn
      exact (ih q hq hn).imp_left fun ⟨m, hm, heq⟩ => ⟨m, mem_nodes_of_part hq hm, heq⟩
    cases hwants : t.wantsHint with
    | false =>
      rw [parts_hinted hwants] at hp
      obtain ⟨q, hq, rfl⟩ := List.mem_map.mp hp
      exact hold q hq hn
    | true =>
      obtain ⟨kind, before, hint, after⟩ := t
      obtain ⟨hnone, hkind⟩ := Bool.and_eq_true_iff.mp hwants
      obtain rfl : hint = none := Option.isNone_iff_eq_none.mp hnone
      have hadded : hintFor kind (Option.map hinted none) = some anyHint := if_pos hkind
      rw [hinted_node, hadded] at hp
      simp only [parts, Option.toList_some, List.mem_append, List.mem_map, List.mem_singleton] at hp
      rcases hp with (⟨q, hq, rfl⟩ | rfl) | ⟨q, hq, rfl⟩
      · exact hold q (by simp [parts, hq]) hn
      · exact .inr hn
      · exact hold q (by simp [parts, hq]) hn

theorem complete_anyHint : anyHint.Complete :=
  complete_iff.mpr (by decide)

/-- No hint is missing in the tree with hints. -/
theorem complete_hinted {t : Part} (h : t.allows = true) : t.hinted.Complete := by
  intro n hn
  rcases mem_nodes_hinted hn with ⟨m, hm, rfl⟩ | hnew
  · exact ⟨wantsHint_hinted m, List.all_eq_true.mp h m hm⟩
  · exact complete_anyHint n hnew

/-- A tree in which no hint is missing is the tree with hints. -/
theorem hinted_eq_self {t : Part} (h : ∀ n ∈ t.nodes, n.wantsHint = false) : t.hinted = t := by
  induction t using Part.induction with
  | node t ih =>
    have hparts : ∀ p ∈ t.parts, p.hinted = p := fun p hp =>
      ih p hp fun n hn => h n (mem_nodes_of_part hp hn)
    have hself := h t (mem_nodes_self t)
    obtain ⟨kind, before, hint, after⟩ := t
    simp only [parts, List.mem_append, or_imp, forall_and] at hparts
    have hhint : hint.map hinted = hint := by
      cases hint with
      | none => rfl
      | some p => exact congrArg some (hparts.1.2 p (by simp))
    have hkeep : hintFor kind hint = hint := if_neg (Bool.eq_false_iff.mp hself)
    rw [hinted_node, List.map_congr_left hparts.1.1, List.map_congr_left hparts.2, hhint, hkeep,
      List.map_id', List.map_id']

/-- A pass over a complete tree changes nothing. -/
theorem Complete.visit_eq {t : Part} (h : t.Complete) : visit t = settled true t false := by
  have hself : ∀ n ∈ t.nodes, n.hinted = n := fun n hn =>
    hinted_eq_self fun m hm => (h m (mem_nodes_trans hn hm)).1
  have hallows : t.allows = true := List.all_eq_true.mpr fun n hn => by
    rw [hself n hn]
    exact (h n hn).2
  have hopen : t.isOpen = false := List.any_eq_false.mpr fun n hn =>
    Bool.eq_false_iff.mp (h n hn).1
  rw [TypeHints.visit_eq, hallows, hself t (mem_nodes_self t), hopen]

/-! ## Taking new hints out again -/

/-- One tree is another one with the general type in places where a hint was wanted. -/
inductive OnlyHinted : Part → Part → Prop where
  | kept {kind : Kind} {before before' : List Part} {hint hint' : Option Part}
      {after after' : List Part} : List.Forall₂ OnlyHinted before before' →
      Option.Rel OnlyHinted hint hint' → List.Forall₂ OnlyHinted after after' →
      OnlyHinted (.node kind before hint after) (.node kind before' hint' after')
  | added {kind : Kind} {before before' after after' : List Part} : wants kind = true →
      List.Forall₂ OnlyHinted before before' → List.Forall₂ OnlyHinted after after' →
      OnlyHinted (.node kind before none after) (.node kind before' (some anyHint) after')

theorem onlyHinted_hinted (t : Part) : OnlyHinted t t.hinted := by
  induction t using Part.induction with
  | node t ih =>
    obtain ⟨kind, before, hint, after⟩ := t
    simp only [parts, List.mem_append, or_imp, forall_and] at ih
    have hall : ∀ ps : List Part, (∀ p ∈ ps, OnlyHinted p p.hinted) →
        List.Forall₂ OnlyHinted ps (ps.map hinted) := fun ps h =>
      List.forall₂_map_right_iff.mpr (List.forall₂_same.mpr h)
    rw [hinted_node]
    cases hint with
    | some p =>
      exact .kept (hall _ ih.1.1) (.some (ih.1.2 p (by simp))) (hall _ ih.2)
    | none =>
      unfold hintFor
      split_ifs with hadd
      · exact .added (Bool.and_eq_true_iff.mp hadd).2 (hall _ ih.1.1) (hall _ ih.2)
      · exact .kept (hall _ ih.1.1) .none (hall _ ih.2)

mutual

/-- Takes the hints out of a tree that an older tree does not have. -/
def unhint : Part → Part → Part
  | .node _ oldBefore oldHint oldAfter, .node kind before hint after =>
    .node kind (unhintAll oldBefore before) (unhintHint oldHint hint) (unhintAll oldAfter after)

def unhintAll : List Part → List Part → List Part
  | old :: olds, p :: rest => unhint old p :: unhintAll olds rest
  | _, ps => ps

def unhintHint : Option Part → Option Part → Option Part
  | some old, some p => some (unhint old p)
  | _, _ => none

end

theorem unhintAll_eq {olds ps : List Part} (hps : List.Forall₂ OnlyHinted olds ps)
    (h : ∀ old ∈ olds, ∀ p, OnlyHinted old p → unhint old p = old) :
    unhintAll olds ps = olds := by
  induction hps with
  | nil => rfl
  | cons hp _ ih =>
    obtain ⟨hold, holds⟩ := List.forall_mem_cons.mp h
    rw [unhintAll, hold _ hp, ih holds]

/-- Without its new hints a tree is what it was. -/
theorem OnlyHinted.unhint_eq {old t : Part} (h : OnlyHinted old t) : unhint old t = old := by
  induction old using Part.induction generalizing t with
  | node old ih =>
    cases h with
    | @kept kind before before' hint hint' after after' hbefore hhint hafter =>
      simp only [parts, List.mem_append] at ih
      rw [unhint, unhintAll_eq hbefore fun p hp q hq => ih p (.inl (.inl hp)) hq,
        unhintAll_eq hafter fun p hp q hq => ih p (.inr hp) hq]
      cases hhint with
      | none => rfl
      | some hp => rw [unhintHint, ih _ (by simp) hp]
    | @added kind before before' after after' _ hbefore hafter =>
      simp only [parts, List.mem_append] at ih
      rw [unhint, unhintAll_eq hbefore fun p hp q hq => ih p (.inl (.inl hp)) hq,
        unhintAll_eq hafter fun p hp q hq => ih p (.inr hp) hq]
      rfl

end Part

end DesignLens.TypeHints
