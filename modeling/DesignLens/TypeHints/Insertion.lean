import DesignLens.Source.Token

/-!
# Insertions

An insertion puts a text at a place of another text. Several of them are applied at once: their
places are those of the text before any of them.
-/

namespace DesignLens.TypeHints

structure Insertion where
  place : Nat
  text : String
  deriving DecidableEq, Repr

/-- Puts an item before the first one that it does not come after. -/
def insertSorted {α : Type} (le : α → α → Bool) (a : α) : List α → List α
  | [] => [a]
  | b :: rest => if le a b then a :: b :: rest else b :: insertSorted le a rest

/-- Items in order; those that are equal in the order stay as they are. -/
def sortedBy {α : Type} (le : α → α → Bool) (items : List α) : List α :=
  items.foldr (insertSorted le) []

/-- Applies insertions in the order of their places, to what follows a place. -/
def insertFrom (start : Nat) : List Insertion → List Char → List Char
  | [], cs => cs
  | i :: rest, cs =>
    cs.take (i.place - start) ++ i.text.toList ++
      insertFrom i.place rest (cs.drop (i.place - start))

/-- Applies insertions to a text; of two at one place the first comes first. -/
def insertAll (insertions : List Insertion) (cs : List Char) : List Char :=
  insertFrom 0 (sortedBy (fun a b => a.place ≤ b.place) insertions) cs

end DesignLens.TypeHints
