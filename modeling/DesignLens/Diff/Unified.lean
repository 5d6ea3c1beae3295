import DesignLens.Diff.Matching
import DesignLens.Text.Blank

/-!
# Unified differences

The difference of two texts as hunks of changed lines with up to three lines of context around them.
Lines keep their own ends; the lines that head the difference and each hunk have none.
-/

namespace DesignLens.Diff

inductive Change where
  | equal
  | replace
  | delete
  | insert
  deriving DecidableEq, Repr

/-- Lines `i₁` up to `i₂` of the first text become lines `j₁` up to `j₂` of the second. -/
structure Edit where
  change : Change
  i₁ : Nat
  i₂ : Nat
  j₁ : Nat
  j₂ : Nat
  deriving DecidableEq, Repr

/-- What happens between two blocks, if anything. -/
def gap (i j i' j' : Nat) : List Edit :=
  if i < i' && j < j' then [⟨.replace, i, i', j, j'⟩]
  else if i < i' then [⟨.delete, i, i', j, j'⟩]
  else if j < j' then [⟨.insert, i, i', j, j'⟩]
  else []

/-- The edits from the given lines on. -/
def editsFrom (i j : Nat) (aEnd bEnd : Nat) : List Block → List Edit
  | [] => gap i j aEnd bEnd
  | m :: rest =>
    gap i j m.i m.j ++ ⟨.equal, m.i, m.i + m.size, m.j, m.j + m.size⟩ ::
      editsFrom (m.i + m.size) (m.j + m.size) aEnd bEnd rest

def edits (a b : List String) : List Edit := editsFrom 0 0 a.length b.length (blocks a b)

/-- The number of unchanged lines around a change. -/
def context : Nat := 3

/-- Only the last lines of an unchanged stretch. -/
def Edit.keepEnd (e : Edit) : Edit :=
  { e with i₁ := max e.i₁ (e.i₂ - context), j₁ := max e.j₁ (e.j₂ - context) }

/-- Only the first lines of an unchanged stretch. -/
def Edit.keepStart (e : Edit) : Edit :=
  { e with i₂ := min e.i₂ (e.i₁ + context), j₂ := min e.j₂ (e.j₁ + context) }

def trimFirst : List Edit → List Edit
  | e :: rest => (if e.change = .equal then e.keepEnd else e) :: rest
  | [] => []

def trimLast : List Edit → List Edit
  | [e] => [if e.change = .equal then e.keepStart else e]
  | e :: rest => e :: trimLast rest
  | [] => []

/-- Splits edits into hunks at long unchanged stretches; `hunk` holds the current one backwards. -/
def hunksFrom (hunk : List Edit) : List Edit → List (List Edit)
  | [] => if hunk.any fun e => e.change != .equal then [hunk.reverse] else []
  | e :: rest =>
    if e.change = .equal && 2 * context < e.i₂ - e.i₁ then
      (e.keepStart :: hunk).reverse :: hunksFrom [e.keepEnd] rest
    else hunksFrom (e :: hunk) rest

def hunks (a b : List String) : List (List Edit) := hunksFrom [] (trimLast (trimFirst (edits a b)))

/-- A range of lines as the head of a hunk gives it. -/
def rangeText (start stop : Nat) : String :=
  if stop - start = 1 then toString (start + 1)
  else if stop - start = 0 then s!"{start},0"
  else s!"{start + 1},{stop - start}"

def linesBetween (lines : List String) (start stop : Nat) : List String :=
  (lines.drop start).take (stop - start)

def Edit.lines (a b : List String) (e : Edit) : List String :=
  let removed := (linesBetween a e.i₁ e.i₂).map ("-" ++ ·)
  let added := (linesBetween b e.j₁ e.j₂).map ("+" ++ ·)
  match e.change with
  | .equal => (linesBetween a e.i₁ e.i₂).map (" " ++ ·)
  | .delete => removed
  | .insert => added
  | .replace => removed ++ added

def hunkLines (a b : List String) (hunk : List Edit) : List String :=
  match hunk, hunk.getLast? with
  | first :: _, some last =>
    let head := s!"@@ -{rangeText first.i₁ last.i₂} +{rangeText first.j₁ last.j₂} @@"
    head :: hunk.flatMap (Edit.lines a b)
  | _, _ => []

/-- The difference of two texts under the name of a file; the empty text if there is none. -/
def unified (old new name : String) : String :=
  let a := Text.linesWithEnds old
  let b := Text.linesWithEnds new
  match hunks a b with
  | [] => ""
  | found => String.join (s!"--- {name}" :: s!"+++ {name}" :: found.flatMap (hunkLines a b))

end DesignLens.Diff
