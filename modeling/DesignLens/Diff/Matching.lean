/-!
# Matching blocks of two lists of lines

Two lists of lines are matched by their longest common block, the earliest in the first list and
then in the second, and by matching what is left on either side of it in the same way. Blocks grow
only out of lines that are not too frequent in the second list, but then also over frequent ones.
-/

namespace DesignLens.Diff

/-- Lines `i`, …, `i + size - 1` of the first list equal lines `j`, …, `j + size - 1` of the
second. -/
structure Block where
  i : Nat
  j : Nat
  size : Nat
  deriving DecidableEq, Repr

/-- From this number of lines on, frequent lines do not start a block. -/
def frequencyThreshold : Nat := 200

/-- Whether a line occurs too often among the lines of a long list. -/
def isFrequent (b : List String) (line : String) : Bool :=
  frequencyThreshold ≤ b.length && b.length / 100 + 1 < b.countP (· == line)

/-- The places in the second list where a line may start a block. -/
def placesOf (b : List (String × Nat)) (frequent : Bool) (line : String) : List Nat :=
  if frequent then [] else (b.filter fun entry => entry.1 == line).map Prod.snd

structure Texts where
  a : Array String
  b : Array String
  /-- For each line of the first list its places in the second one. -/
  places : Array (List Nat)

def Texts.ofLines (a b : List String) : Texts :=
  let numbered := b.zipIdx
  ⟨a.toArray, b.toArray,
    (a.map fun line => placesOf numbered (isFrequent b line) line).toArray⟩

/-- A part of each list: from a first line up to but not including a last one. -/
structure Window where
  alo : Nat
  ahi : Nat
  blo : Nat
  bhi : Nat
  deriving DecidableEq, Repr

/-- The best block so far, and the lengths of the blocks that end in the line before, by their last
place in the second list. -/
structure Progress where
  best : Block
  runs : List (Nat × Nat)

/-- The length of the block that ends right before a place. -/
def runBefore (runs : List (Nat × Nat)) (j : Nat) : Nat :=
  match j with
  | 0 => 0
  | k + 1 => ((runs.find? fun r => r.1 == k).map Prod.snd).getD 0

/-- Takes one line of the first list into account. -/
def Progress.advance (t : Texts) (w : Window) (p : Progress) (i : Nat) : Progress :=
  let places := ((t.places[i]?).getD []).filter fun j => w.blo ≤ j && j < w.bhi
  let runs := places.map fun j => (j, runBefore p.runs j + 1)
  let best := runs.foldl
    (fun best r => if best.size < r.2 then ⟨i + 1 - r.2, r.1 + 1 - r.2, r.2⟩ else best) p.best
  ⟨best, runs⟩

/-- Extends a block backwards over equal lines, at most as many as the first number says. -/
def extendBack (t : Texts) : Nat → Block → Block
  | n + 1, ⟨i + 1, j + 1, size⟩ =>
    if t.a[i]? == t.b[j]? then extendBack t n ⟨i, j, size + 1⟩ else ⟨i + 1, j + 1, size⟩
  | _, block => block

/-- Extends a block forwards over equal lines, at most as many as the first number says. -/
def extendForward (t : Texts) : Nat → Block → Block
  | n + 1, block =>
    if t.a[block.i + block.size]? == t.b[block.j + block.size]? then
      extendForward t n { block with size := block.size + 1 }
    else block
  | 0, block => block

/-- The longest common block of two parts. -/
def longest (t : Texts) (w : Window) : Block :=
  let rows := (List.range (w.ahi - w.alo)).map (· + w.alo)
  let best := (rows.foldl (Progress.advance t w) ⟨⟨w.alo, w.blo, 0⟩, []⟩).best
  let best := extendBack t (min (best.i - w.alo) (best.j - w.blo)) best
  extendForward t (min (w.ahi - (best.i + best.size)) (w.bhi - (best.j + best.size))) best

/-- The matching blocks of two parts in order. Each level of the recursion takes at least one line
off the first part, so as many levels as it has lines are enough. -/
def blocksIn (t : Texts) : Nat → Window → List Block
  | 0, _ => []
  | levels + 1, w =>
    if w.alo < w.ahi && w.blo < w.bhi then
      let m := longest t w
      if m.size = 0 then []
      else
        blocksIn t levels ⟨w.alo, m.i, w.blo, m.j⟩ ++
          m :: blocksIn t levels ⟨m.i + m.size, w.ahi, m.j + m.size, w.bhi⟩
    else []

/-- Joins blocks that follow each other without a gap. -/
def joinBlocks : List Block → List Block
  | x :: y :: rest =>
    if x.i + x.size = y.i && x.j + x.size = y.j then
      joinBlocks (⟨x.i, x.j, x.size + y.size⟩ :: rest)
    else x :: joinBlocks (y :: rest)
  | blocks => blocks
termination_by blocks => blocks.length

/-- The matching blocks of two lists of lines. -/
def blocks (a b : List String) : List Block :=
  let t := Texts.ofLines a b
  joinBlocks (blocksIn t a.length ⟨0, a.length, 0, b.length⟩)

end DesignLens.Diff
