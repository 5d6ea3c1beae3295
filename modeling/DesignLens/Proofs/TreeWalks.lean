import DesignLens.Proofs.JoinedPrograms

/-!
# Walks with a queue

A walk level by level is what comes out of a queue from which the first node is taken and to which
its parts are added: `visits_iff`. It comes to the nodes that it starts with and to everything
below them, and to nothing else: `mem_walkLevels_iff`.
-/

namespace DesignLens.Source.Node

/-- The order in which nodes leave a queue if the first one is taken out again and again and its
parts are put at the end. -/
inductive Visits : List Node → List Node → Prop where
  | done : Visits [] []
  | next {n : Node} {rest order : List Node} :
      Visits (rest ++ n.children) order → Visits (n :: rest) (n :: order)

/-- The parts of the nodes at the front of a queue end up behind all the others. -/
theorem walkLevels_append (front back : List Node) :
    walkLevels (front ++ back) = front ++ walkLevels (back ++ front.flatMap children) := by
  induction hk : total (front ++ back) using Nat.strongRecOn generalizing front back with
  | ind k ih =>
    subst hk
    cases front with
    | nil => simp
    | cons n front =>
      have hlt := total_children_lt n
      have hall : total (front ++ back ++ n.children) < total (n :: front ++ back) := by
        simp only [List.cons_append, total_cons, total_append]
        omega
      have hrest : total (front ++ (back ++ n.children)) < total (n :: front ++ back) := by
        rwa [← List.append_assoc]
      calc walkLevels (n :: (front ++ back))
          = n :: (front ++ back) ++
              walkLevels (n.children ++ (front ++ back).flatMap children) := by
            rw [walkLevels_eq, List.flatMap_cons]
        _ = n :: walkLevels (front ++ back ++ n.children) := by
            rw [ih _ hall (front ++ back) n.children rfl, List.cons_append]
        _ = n :: (front ++ walkLevels (back ++ n.children ++ front.flatMap children)) := by
            rw [List.append_assoc, ih _ hrest front (back ++ n.children) rfl]
        _ = n :: front ++ walkLevels (back ++ (n :: front).flatMap children) := by
            rw [List.cons_append, List.flatMap_cons, List.append_assoc]

theorem walkLevels_cons (n : Node) (rest : List Node) :
    walkLevels (n :: rest) = n :: walkLevels (rest ++ n.children) := by
  have h := walkLevels_append [n] rest
  rwa [List.flatMap_singleton] at h

theorem visits_walkLevels (queue : List Node) : Visits queue (walkLevels queue) := by
  induction hk : total queue using Nat.strongRecOn generalizing queue with
  | ind k ih =>
    subst hk
    cases queue with
    | nil =>
      rw [walkLevels]
      exact .done
    | cons n rest =>
      have hlt := total_children_lt n
      rw [walkLevels_cons]
      refine .next (ih _ ?_ _ rfl)
      rw [total_append, total_cons]
      omega

/-- The order in which nodes leave a queue is that of the walk. -/
theorem visits_iff {queue order : List Node} : Visits queue order ↔ order = walkLevels queue := by
  refine ⟨fun h => ?_, fun h => h ▸ visits_walkLevels queue⟩
  induction h with
  | done => rw [walkLevels]
  | next _ ih => rw [walkLevels_cons, ← ih]

/-- One of the given nodes, or a part of a part, and so on, of one of them. -/
inductive Within (roots : List Node) : Node → Prop where
  | root {n : Node} : n ∈ roots → Within roots n
  | part {n child : Node} : Within roots n → child ∈ n.children → Within roots child

theorem Within.of_parts {roots : List Node} {n : Node} (h : Within (roots.flatMap children) n) :
    Within roots n := by
  induction h with
  | root hroot =>
    obtain ⟨parent, hparent, hchild⟩ := List.mem_flatMap.mp hroot
    exact .part (.root hparent) hchild
  | part _ hchild ih => exact .part ih hchild

theorem mem_walkLevels_iff {roots : List Node} {n : Node} :
    n ∈ walkLevels roots ↔ Within roots n := by
  constructor
  · intro h
    induction hk : total roots using Nat.strongRecOn generalizing roots with
    | ind k ih =>
      subst hk
      rw [walkLevels_eq] at h
      rcases List.mem_append.mp h with h | h
      · exact .root h
      · -- There is a level below, so there is a node above it.
        have hne : roots ≠ [] := by
          rintro rfl
          simp [walkLevels] at h
        exact (ih _ (total_flatMap_children_lt hne) h rfl).of_parts
  · intro h
    induction h with
    | root hroot => exact mem_walkLevels_of_mem hroot
    | part _ hchild ih => exact mem_walkLevels_of_child ih hchild

end DesignLens.Source.Node

namespace DesignLens.Source

/-- A text whose program passes a test has a program. -/
theorem exists_program {text : String} (P : Program → Bool)
    (h : (Program.parse text).toOption.any P = true) :
    ∃ p, Program.parse text = .ok p ∧ P p = true := by
  cases hparse : Program.parse text with
  | error fault =>
    rw [hparse] at h
    cases h
  | ok p =>
    rw [hparse] at h
    exact ⟨p, rfl, h⟩

end DesignLens.Source
