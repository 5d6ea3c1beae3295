import DesignLens.Failure

/-!
# Trees that keep the layout

The tree of a text in which nothing of the text is lost: tokens, blanks and comments are parts like
all others. A parameter and a function have a place for a hint, with parts before it and after it.
-/

namespace DesignLens.TypeHints

/-- What a part of a text is. -/
inductive Kind where
  /-- A token, blanks or a comment. -/
  | text (chars : List Char)
  | param (name : String)
  | function (name : String)
  | lambda
  /-- The parameters of a function or a lambda. -/
  | parameters
  /-- A name that is imported from a package. -/
  | imported (package name : String)
  | other (label : String)
  deriving DecidableEq, Repr

inductive Part where
  | node (kind : Kind) (before : List Part) (hint : Option Part) (after : List Part)

namespace Part

def kind : Part → Kind
  | node kind _ _ _ => kind

def hint : Part → Option Part
  | node _ _ hint _ => hint

/-- The parts of a part in reading order. -/
def parts : Part → List Part
  | node _ before hint after => before ++ hint.toList ++ after

def withHint : Part → Part → Part
  | node kind before _ after, hint => node kind before (some hint) after

def isParam (p : Part) : Bool :=
  match p.kind with
  | .param _ => true
  | _ => false

/-- The parameters of a function or lambda itself. -/
def ownParameters (t : Part) : List Part :=
  (t.parts.filter fun p => p.kind == .parameters).flatMap fun ps => ps.parts.filter isParam

/-! ## Equality -/

/-- What passes from the parts of every part to the part holds of all trees. -/
theorem induction {motive : Part → Prop}
    (node : ∀ t : Part, (∀ p ∈ t.parts, motive p) → motive t) (t : Part) : motive t := by
  refine @Part.rec motive (fun ps => ∀ p ∈ ps, motive p) (fun h => ∀ p ∈ h.toList, motive p)
    ?_ ?_ ?_ ?_ ?_ t
  · intro kind before hint after hbefore hhint hafter
    refine node _ fun p hp => ?_
    rcases List.mem_append.mp hp with hp | hp
    · exact (List.mem_append.mp hp).elim (hbefore p) (hhint p)
    · exact hafter p hp
  · exact fun p hp => absurd hp List.not_mem_nil
  · intro p rest hp hrest q hq
    rcases List.mem_cons.mp hq with rfl | hq
    · exact hp
    · exact hrest q hq
  · exact fun p hp => absurd hp List.not_mem_nil
  · intro p hp q hq
    rw [List.mem_singleton.mp hq]
    exact hp

mutual

/-- Whether two trees are the same. -/
def same : Part → Part → Bool
  | .node kind before hint after, .node kind' before' hint' after' =>
    decide (kind = kind') && sameAll before before' && sameHint hint hint' && sameAll after after'

def sameAll : List Part → List Part → Bool
  | [], [] => true
  | p :: ps, q :: qs => same p q && sameAll ps qs
  | _, _ => false

def sameHint : Option Part → Option Part → Bool
  | none, none => true
  | some p, some q => same p q
  | _, _ => false

end

theorem sameAll_iff {ps qs : List Part} (h : ∀ p ∈ ps, ∀ q, same p q = true ↔ p = q) :
    sameAll ps qs = true ↔ ps = qs := by
  induction ps generalizing qs with
  | nil => cases qs <;> simp [sameAll]
  | cons p ps ih =>
    cases qs with
    | nil => simp [sameAll]
    | cons q qs =>
      rw [sameAll, Bool.and_eq_true, h p List.mem_cons_self q,
        ih fun r hr => h r (List.mem_cons_of_mem p hr), List.cons.injEq]

theorem sameHint_iff {hint hint' : Option Part}
    (h : ∀ p ∈ hint.toList, ∀ q, same p q = true ↔ p = q) :
    sameHint hint hint' = true ↔ hint = hint' := by
  cases hint <;> cases hint' <;> simp_all [sameHint]

theorem same_iff (s t : Part) : same s t = true ↔ s = t := by
  induction s using Part.induction generalizing t with
  | node s ih =>
    obtain ⟨kind, before, hint, after⟩ := s
    obtain ⟨kind', before', hint', after'⟩ := t
    simp only [parts, List.mem_append] at ih
    rw [same, Bool.and_eq_true, Bool.and_eq_true, Bool.and_eq_true, decide_eq_true_iff,
      sameAll_iff fun p hp => ih p (.inl (.inl hp)), sameHint_iff fun p hp => ih p (.inl (.inr hp)),
      sameAll_iff fun p hp => ih p (.inr hp), Part.node.injEq, and_assoc, and_assoc]

instance : DecidableEq Part := fun s t => decidable_of_iff _ (same_iff s t)

end Part

end DesignLens.TypeHints
