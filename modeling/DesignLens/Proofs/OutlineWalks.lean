import DesignLens.Ranking.Outline
import Mathlib.Data.List.Lex

/-!
# Walks through an outline

The nodes of an outline are listed in pre-order: each node before its children, and all that is
below a node before the next sibling of it. On places this is the order of a dictionary. A walk that
can tell the nodes apart visits them in this order, each once, and comes back to the node from which
it started (`walksThrough_succ`), because a walk along the children of a node ends on the last of
them and goes up from there (`walksAlong_succ`).
-/

namespace DesignLens.Ranking

/-! ## Nodes in pre-order -/

/-- The node at a place. -/
def Outline.node? (t : Outline) : Place → Option Outline
  | [] => some t
  | i :: p => t.children[i]?.bind fun child => child.node? p

def Outline.mark? (t : Outline) (p : Place) : Option Mark := (t.node? p).map Outline.mark

/-- All nodes of an outline by place and mark, each before its children and before everything to the
right of it. -/
structure Outline.IsPreorder (t : Outline) (nodes : List (Place × Mark)) : Prop where
  complete : ∀ p m, (p, m) ∈ nodes ↔ t.mark? p = some m
  ordered : nodes.Pairwise fun a b => List.Lex (· < ·) a.1 b.1

mutual

/-- The nodes of an outline that stands at a place. -/
def Outline.nodesAt (place : Place) : Outline → List (Place × Mark)
  | .node m children => (place, m) :: Outline.nodesInRow place 0 children

/-- The nodes of the children of a place from the child with the given number on. -/
def Outline.nodesInRow (place : Place) : Nat → List Outline → List (Place × Mark)
  | _, [] => []
  | i, t :: rest => t.nodesAt (place ++ [i]) ++ Outline.nodesInRow place (i + 1) rest

end

def Outline.nodes (t : Outline) : List (Place × Mark) := t.nodesAt []

mutual

theorem Outline.mem_nodesAt_iff (place p : Place) (m : Mark) : ∀ t : Outline,
    (p, m) ∈ t.nodesAt place ↔ ∃ q, p = place ++ q ∧ t.mark? q = some m
  | .node m' children => by
    rw [nodesAt, List.mem_cons, Prod.mk.injEq, mem_nodesInRow_iff]
    constructor
    · rintro (⟨rfl, rfl⟩ | ⟨j, child, q, hchild, rfl, hq⟩)
      · exact ⟨[], by simp, rfl⟩
      · refine ⟨j :: q, by simp, ?_⟩
        rw [mark?, node?, Outline.children, hchild]
        exact hq
    · rintro ⟨_ | ⟨j, q⟩, rfl, hq⟩
      · rw [mark?, node?, Option.map_some, Option.some.injEq] at hq
        exact Or.inl ⟨by simp, hq.symm⟩
      · rw [mark?, node?, Outline.children] at hq
        cases hchild : children[j]? with
        | none =>
          rw [hchild] at hq
          cases hq
        | some child =>
          rw [hchild, Option.bind_some] at hq
          exact Or.inr ⟨j, child, q, hchild, by simp, hq⟩

theorem Outline.mem_nodesInRow_iff (place p : Place) (m : Mark) (i : Nat) :
    ∀ row : List Outline, (p, m) ∈ Outline.nodesInRow place i row ↔
      ∃ j child q, row[j]? = some child ∧ p = place ++ (i + j) :: q ∧ child.mark? q = some m
  | [] => by simp [nodesInRow]
  | t :: rest => by
    rw [nodesInRow, List.mem_append, mem_nodesAt_iff, mem_nodesInRow_iff]
    constructor
    · rintro (⟨q, rfl, hq⟩ | ⟨j, child, q, hchild, rfl, hq⟩)
      · exact ⟨0, t, q, rfl, by simp, hq⟩
      · exact ⟨j + 1, child, q, hchild, by simp [Nat.add_assoc, Nat.add_comm 1], hq⟩
    · rintro ⟨_ | j, child, q, hchild, rfl, hq⟩
      · rw [List.getElem?_cons_zero, Option.some.injEq] at hchild
        exact Or.inl ⟨q, by simp, hchild ▸ hq⟩
      · exact Or.inr ⟨j, child, q, hchild, by simp [Nat.add_assoc, Nat.add_comm 1], hq⟩

end

theorem lex_below (place : Place) (i : Nat) (q : Place) :
    List.Lex (· < ·) place (place ++ i :: q) := by
  have h : List.Lex (· < ·) (place ++ []) (place ++ i :: q) :=
    List.Lex.append_left (· < ·) List.Lex.nil place
  rwa [List.append_nil] at h

theorem lex_beside (place : Place) {i j : Nat} (h : i < j) (p q : Place) :
    List.Lex (· < ·) (place ++ i :: p) (place ++ j :: q) :=
  List.Lex.append_left (· < ·) (List.Lex.rel h) place

mutual

theorem Outline.ordered_nodesAt (place : Place) : ∀ t : Outline,
    (t.nodesAt place).Pairwise fun a b => List.Lex (· < ·) a.1 b.1
  | .node m children => by
    rw [nodesAt, List.pairwise_cons]
    refine ⟨?_, ordered_nodesInRow place 0 children⟩
    rintro ⟨p, m'⟩ hp
    obtain ⟨j, child, q, -, rfl, -⟩ := (mem_nodesInRow_iff ..).mp hp
    exact lex_below place (0 + j) q

theorem Outline.ordered_nodesInRow (place : Place) (i : Nat) : ∀ row : List Outline,
    (Outline.nodesInRow place i row).Pairwise fun a b => List.Lex (· < ·) a.1 b.1
  | [] => List.Pairwise.nil
  | t :: rest => by
    rw [nodesInRow, List.pairwise_append]
    refine ⟨ordered_nodesAt (place ++ [i]) t, ordered_nodesInRow place (i + 1) rest, ?_⟩
    rintro ⟨p, m⟩ hp ⟨p', m'⟩ hp'
    obtain ⟨q, rfl, -⟩ := (mem_nodesAt_iff ..).mp hp
    obtain ⟨j, child, q', -, rfl, -⟩ := (mem_nodesInRow_iff ..).mp hp'
    rw [List.append_assoc]
    exact lex_beside place (by omega) q q'

end

theorem Outline.isPreorder_nodes (t : Outline) : t.IsPreorder t.nodes where
  complete p m := by
    rw [nodes, mem_nodesAt_iff]
    simp
  ordered := ordered_nodesAt [] t

/-- Identities that tell the nodes of an outline apart are all different along its nodes. -/
theorem Outline.IsPreorder.nodup_map {ι : Type} {identity : Place → ι} {t : Outline}
    {nodes : List (Place × Mark)} (h : t.IsPreorder nodes)
    (distinct : ∀ p q, (t.node? p).isSome → (t.node? q).isSome → identity p = identity q → p = q) :
    (nodes.map fun n => identity n.1).Nodup := by
  have hthere : ∀ n ∈ nodes, (t.node? n.1).isSome := by
    intro n hn
    have hmark := (h.complete n.1 n.2).mp hn
    rw [mark?] at hmark
    rw [← Option.isSome_map, hmark]
    rfl
  refine List.pairwise_map.mpr (h.ordered.imp_of_mem fun {a b} ha hb hlex heq => ?_)
  rw [distinct a.1 b.1 (hthere a ha) (hthere b hb) heq] at hlex
  exact List.lex_irrefl Nat.lt_irrefl b.1 hlex

theorem Outline.size_pos : ∀ t : Outline, 0 < t.size
  | .node _ children => by
    rw [size]
    omega

/-! ## What a walk visits -/

/-- The nodes of the outline under a cursor. -/
def Cursor.nodes (c : Cursor) : List (Place × Mark) := c.here.nodesAt c.place

namespace Walk

variable {ι : Type} (identity : Place → ι) (text : String)

/-- A walk after it has visited some more nodes. -/
def record (w : Walk ι) (nodes : List (Place × Mark)) : Walk ι :=
  { w with
    visited := w.visited ++ nodes.map fun n => identity n.1
    found := w.found ++ nodes.filterMap fun n => n.2.word? text }

/-- The nodes have not been visited yet and can be told apart. -/
def Fresh (w : Walk ι) (nodes : List (Place × Mark)) : Prop :=
  (w.visited ++ nodes.map fun n => identity n.1).Nodup

/-- A walk that has moved on to a child of the node under the cursor. -/
def onChild (w : Walk ι) (t : Outline) (s : Step) : Walk ι :=
  { w with cursor := ⟨t, s :: w.cursor.way⟩ }

variable {identity text}

theorem place_onChild (w : Walk ι) (t : Outline) (s : Step) :
    (w.onChild t s).cursor.place = w.cursor.place ++ [s.before.length] := by
  simp [onChild, Cursor.place]

theorem record_append (w : Walk ι) (first rest : List (Place × Mark)) :
    w.record identity text (first ++ rest) =
      (w.record identity text first).record identity text rest := by
  simp [record]

theorem record_cons (w : Walk ι) (n : Place × Mark) (rest : List (Place × Mark)) :
    w.record identity text (n :: rest) =
      (w.record identity text [n]).record identity text rest :=
  record_append w [n] rest

theorem visit_eq_record (w : Walk ι) :
    w.visit identity text = w.record identity text [(w.cursor.place, w.cursor.here.mark)] := by
  cases h : w.cursor.here.mark.word? text <;> simp [visit, record, h]

theorem Fresh.left {w : Walk ι} {first rest : List (Place × Mark)}
    (h : w.Fresh identity (first ++ rest)) : w.Fresh identity first := by
  unfold Fresh at h ⊢
  rw [List.map_append, ← List.append_assoc] at h
  exact (List.nodup_append.mp h).1

theorem Fresh.right {w : Walk ι} {first rest : List (Place × Mark)}
    (h : w.Fresh identity (first ++ rest)) :
    (w.record identity text first).Fresh identity rest := by
  unfold Fresh at h ⊢
  rwa [List.map_append, ← List.append_assoc] at h

theorem Fresh.tail {w : Walk ι} {n : Place × Mark} {rest : List (Place × Mark)}
    (h : w.Fresh identity (n :: rest)) : (w.record identity text [n]).Fresh identity rest :=
  Fresh.right (show w.Fresh identity ([n] ++ rest) from h)

theorem Fresh.not_visited {w : Walk ι} {n : Place × Mark} {rest : List (Place × Mark)}
    (h : w.Fresh identity (n :: rest)) : identity n.1 ∉ w.visited := by
  intro hmem
  have hdisjoint := (List.nodup_append.mp h).2.2
  exact hdisjoint _ hmem _ List.mem_cons_self rfl

/-! ## The walk comes back -/

variable [DecidableEq ι] (identity text)

/-- With so much fuel a walk through a node visits the nodes under the cursor in pre-order and comes
back. -/
def WalksThrough (fuel : Nat) : Prop :=
  ∀ w : Walk ι, 2 * w.cursor.here.size ≤ fuel + 1 → w.Fresh identity w.cursor.nodes →
    through identity text fuel w = w.record identity text w.cursor.nodes

/-- With so much fuel a walk along the children of a node, from one of them on, visits the nodes of
these children in pre-order and leads back to the node. -/
def WalksAlong (fuel : Nat) : Prop :=
  ∀ (w : Walk ι) (t : Outline) (s : Step),
    w.cursor.here = .node s.mark (s.before.reverse ++ t :: s.after) →
    2 * Outline.sizes (t :: s.after) ≤ fuel →
    w.Fresh identity (Outline.nodesInRow w.cursor.place s.before.length (t :: s.after)) →
    (along identity text fuel (w.onChild t s)).moveUp =
      w.record identity text (Outline.nodesInRow w.cursor.place s.before.length (t :: s.after))

variable {identity text}

theorem through_of_not_visited {fuel : Nat} {w : Walk ι}
    (h : identity w.cursor.place ∉ w.visited) :
    through identity text (fuel + 1) w =
      match w.cursor.firstChild? with
      | none => w.visit identity text
      | some child =>
        (along identity text fuel { w.visit identity text with cursor := child }).moveUp := by
  rw [through, if_neg h]
  rfl

theorem walksThrough_succ {fuel : Nat} (halong : WalksAlong identity text fuel) :
    WalksThrough identity text (fuel + 1) := by
  rintro ⟨⟨⟨m, children⟩, way⟩, visited, found⟩ hfuel hfresh
  rw [Cursor.nodes, Outline.nodesAt] at hfresh ⊢
  rw [through_of_not_visited hfresh.not_visited, visit_eq_record]
  cases children with
  | nil => rfl
  | cons t rest =>
    have hsize : 2 * Outline.sizes (t :: rest) ≤ fuel := by
      simp only [Outline.size] at hfuel
      omega
    exact (halong _ t ⟨m, [], rest⟩ rfl hsize hfresh.tail).trans (record_cons ..).symm

theorem walksAlong_succ {fuel : Nat} (hthrough : WalksThrough identity text fuel)
    (halong : WalksAlong identity text fuel) : WalksAlong identity text (fuel + 1) := by
  intro w t s hhere hfuel hfresh
  rw [Outline.sizes] at hfuel
  rw [Outline.nodesInRow] at hfresh ⊢
  have hpos := t.size_pos
  have hnodes : (w.onChild t s).cursor.nodes = t.nodesAt (w.cursor.place ++ [s.before.length]) := by
    rw [Cursor.nodes, place_onChild]
    rfl
  have hfirst : through identity text fuel (w.onChild t s) =
      (w.onChild t s).record identity text (t.nodesAt (w.cursor.place ++ [s.before.length])) := by
    rw [← hnodes]
    refine hthrough _ ?_ (hnodes ▸ hfresh.left)
    show 2 * t.size ≤ fuel + 1
    omega
  rw [along, hfirst, record_append]
  obtain ⟨m, before, after⟩ := s
  cases after with
  | nil =>
    -- The child was the last one: going up puts the row of children together again.
    obtain ⟨⟨here, way⟩, visited, found⟩ := w
    dsimp only at hhere
    subst hhere
    simp [onChild, record, moveUp, Cursor.nextSibling?, Cursor.parent?, Outline.nodesInRow]
  | cons next after =>
    -- The next sibling has one more child before it, so that its number fits the rest of the row.
    refine halong (w.record identity text _) next ⟨m, t :: before, after⟩ ?_ ?_ hfresh.right
    · rw [List.reverse_cons, List.append_assoc]
      exact hhere
    · dsimp only at hfuel ⊢
      omega

theorem walks (fuel : Nat) : WalksThrough identity text fuel ∧ WalksAlong identity text fuel := by
  induction fuel with
  | zero =>
    -- Every outline has a node, so this is too little fuel for any of them.
    constructor
    · intro w hfuel
      have hpos := w.cursor.here.size_pos
      omega
    · intro w t s hhere hfuel
      have hpos := t.size_pos
      rw [Outline.sizes] at hfuel
      omega
  | succ fuel ih => exact ⟨walksThrough_succ ih.2, walksAlong_succ ih.1 ih.2⟩

end Walk

/-! ## The words that are found -/

theorem Mark.word?_eq (text : String) (m : Mark) :
    m.word? text =
      if m.label ∈ [some "identifier", some "string", some "comment"] then
        some (Text.lower (Text.slice m.start m.stop text))
      else none := by
  unfold Mark.word?
  cases m.label <;> simp

theorem filterMap_word? (text : String) (nodes : List (Place × Mark)) :
    (nodes.filterMap fun n => n.2.word? text) =
      (nodes.filter fun n => n.2.label ∈ [some "identifier", some "string", some "comment"]).map
        fun n => Text.lower (Text.slice n.2.start n.2.stop text) := by
  induction nodes with
  | nil => rfl
  | cons n rest ih =>
    rw [List.filterMap_cons, List.filter_cons, Mark.word?_eq, ih]
    by_cases h : n.2.label ∈ [some "identifier", some "string", some "comment"]
    · rw [if_pos h, if_pos (decide_eq_true h), List.map_cons]
    · rw [if_neg h, if_neg (by simpa using h)]

section

variable {ι : Type} [DecidableEq ι] {identity : Place → ι}

/-- A walk through an outline whose nodes can be told apart visits every node once in pre-order,
ends by itself, and leaves the cursor on the root. Its words are the marked names, strings and
comments in this order; a node whose label cannot be told has none, but the nodes below it are
visited. -/
theorem Outline.walk_in_preorder (t : Outline) (text : String)
    (distinct : ∀ p q, (t.node? p).isSome → (t.node? q).isSome → identity p = identity q → p = q) :
    let named := t.nodes.filter fun n =>
      n.2.label ∈ [some "identifier", some "string", some "comment"]
    t.IsPreorder t.nodes ∧
      (t.walk identity text).visited = t.nodes.map (fun n => identity n.1) ∧
      (t.walk identity text).visited.Nodup ∧
      (t.walk identity text).cursor = .atRoot t ∧
      (∀ fuel, 2 * t.size ≤ fuel →
        Walk.through identity text fuel (.start t) = t.walk identity text) ∧
      t.words identity text =
        if named.isEmpty then Text.lower text
        else " ".intercalate
          (named.map fun n => Text.lower (Text.slice n.2.start n.2.stop text)) := by
  intro named
  have hnodup := t.isPreorder_nodes.nodup_map distinct
  have hwalk : ∀ fuel, 2 * t.size ≤ fuel → Walk.through identity text fuel (.start t) =
      (Walk.start t).record identity text t.nodes :=
    fun fuel hfuel => (Walk.walks fuel).1 (.start t) (Nat.le_succ_of_le hfuel) hnodup
  have hwhole : t.walk identity text = (Walk.start t).record identity text t.nodes :=
    hwalk _ (Nat.le_refl _)
  refine ⟨t.isPreorder_nodes, ?_, ?_, ?_, ?_, ?_⟩
  · rw [hwhole]
    rfl
  · rw [hwhole]
    exact hnodup
  · rw [hwhole]
    rfl
  · intro fuel hfuel
    rw [hwalk fuel hfuel, hwhole]
  · have hfound : (t.walk identity text).found =
        named.map fun n => Text.lower (Text.slice n.2.start n.2.stop text) := by
      rw [hwhole, ← filterMap_word?]
      rfl
    rw [words, hfound]
    cases named <;> rfl

end

/-- A node without a label between nodes with words, and a string below a name. -/
def sampleOutline : Outline :=
  .node ⟨some "module", some 0, some 3⟩
    [.node ⟨none, some 0, some 3⟩
      [.node ⟨some "identifier", some 0, some 1⟩ [.node ⟨some "string", some 1, some 9⟩ []],
        .node ⟨some "comment", some 2, some 3⟩ []],
      .node ⟨some "identifier", some 1, some 1⟩ []]

theorem walk_in_preorder_sample :
    (∀ p q, (sampleOutline.node? p).isSome → (sampleOutline.node? q).isSome →
      id p = id q → p = q) ∧
    (sampleOutline.walk id "ABC").visited = [[], [0], [0, 0], [0, 0, 0], [0, 1], [1]] ∧
    (sampleOutline.walk id "ABC").cursor = .atRoot sampleOutline ∧
    words (some sampleOutline) "ABC" = "a bc c " := by
  have h := sampleOutline.walk_in_preorder "ABC" fun p q _ _ (heq : id p = id q) => heq
  refine ⟨fun p q _ _ heq => heq, h.2.1, h.2.2.2.1, ?_⟩
  exact h.2.2.2.2.2.trans (by decide)

end DesignLens.Ranking
