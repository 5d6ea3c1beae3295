import DesignLens.Source.Classic
import DesignLens.TypeHints.Editor
import DesignLens.TypeHints.Import

/-!
# An editor for the classic grammar

A small editor for texts that keep to the classic grammar. Its trees tell definitions, parameters
and lambdas apart from the text around them, and nothing else.
-/

namespace DesignLens.TypeHints

open Source

/-! ## Reading -/

/-- A stretch of a text that becomes a part: where it starts and stops, where its hint belongs, and
where the hint that it has stops. -/
structure Mark where
  kind : Kind
  start : Nat
  slot : Nat
  hintStop : Option Nat
  stop : Nat

/-- A stretch without a place for a hint. -/
def Mark.plain (kind : Kind) (start stop : Nat) : Mark := ⟨kind, start, stop, none, stop⟩

/-- The place after the last character before a position. -/
def placeAfter (layout : Layout) (position : Nat) : Nat := layout.place (position - 1) + 1

/-- All parameters of a list of parameters. -/
def allParameters (ps : Parameters) : List Parameter :=
  ps.positionalOnly ++ ps.positional ++ ps.star.toList ++ ps.keywordOnly ++ ps.doubleStar.toList

def Mark.ofParameter (layout : Layout) (p : Parameter) : Mark :=
  let slot := placeAfter layout p.nameSpan.stop
  let hintStop := p.typeHint.map fun e => placeAfter layout e.span.stop
  ⟨.param p.name, layout.place p.nameSpan.start, slot, hintStop, hintStop.getD slot⟩

/-- The stretches that a node of the syntax tree gives rise to. -/
def marksOf (layout : Layout) : Node → List Mark
  | .stmt (.functionDef d) =>
    ⟨.function d.name, layout.place d.span.start, placeAfter layout d.signatureEnd,
        d.returns.map fun e => placeAfter layout e.span.stop, placeAfter layout d.span.stop⟩ ::
      (allParameters d.parameters).map (.ofParameter layout)
  | .expr (.lambda span ps body) =>
    .plain .lambda (layout.place span.start) (placeAfter layout span.stop) ::
      .plain .parameters (layout.place span.start) (layout.place body.span.start) ::
        (allParameters ps).map (.ofParameter layout)
  | .stmt (.importFrom _ (some package) names _) =>
    names.map fun n => .plain (.imported package n.name) (layout.place n.span.start)
      (placeAfter layout n.span.stop)
  | _ => []

def isWordChar (c : Char) : Bool := c.isAlphanum || c == '_'

/-- Characters in words, other characters one by one. -/
def words : List Char → List (List Char)
  | [] => []
  | c :: rest =>
    match words rest with
    | (d :: word) :: more =>
      if isWordChar c && isWordChar d then (c :: d :: word) :: more else [c] :: (d :: word) :: more
    | more => [c] :: more

/-- The parts of characters in which nothing is marked. -/
def phrase (cs : List Char) : List Part :=
  (words cs).map fun word => .node (.text word) [] none []

def stretch (cs : List Char) (start stop : Nat) : List Part :=
  phrase ((cs.drop start).take (stop - start))

/-- What stands before a hint that has no sign of its own. -/
def hintSign : Kind → List Char
  | .param _ => [':', ' ']
  | _ => [' ', '-', '>', ' ']

/-- A hint with the sign before it. The general type is told apart from all others. -/
def hintPart (kind : Kind) (chars : List Char) (parts : List Part) : Part :=
  if chars == hintSign kind ++ ['A', 'n', 'y'] then anyHint else .node (.other "hint") parts none []

/-- The parts of a stretch, with its marks in the order of their starts, the longer one first. A
part takes the marks inside it, so that there are fewer left for what is in it and after it. -/
def partsBetween (cs : List Char) : Nat → Nat → Nat → List Mark → List Part
  | 0, start, stop, _ => stretch cs start stop
  | _, start, stop, [] => stretch cs start stop
  | fuel + 1, start, stop, m :: rest =>
    let inside := rest.takeWhile fun n => n.start < m.stop
    let hintStop := m.hintStop.getD m.slot
    let written := (cs.drop m.slot).take (hintStop - m.slot)
    let before := partsBetween cs fuel m.start m.slot (inside.filter fun n => n.stop ≤ m.slot)
    let hint := partsBetween cs fuel m.slot hintStop
      (inside.filter fun n => m.slot ≤ n.start && n.stop ≤ hintStop)
    let after := partsBetween cs fuel hintStop m.stop (inside.filter fun n => hintStop ≤ n.start)
    stretch cs start m.start ++
      .node m.kind before (m.hintStop.map fun _ => hintPart m.kind written hint) after ::
        partsBetween cs fuel m.stop stop (rest.drop inside.length)

def treeOf (p : Program) : Part :=
  let nodes := Node.walkLevels (Node.stmts p.module.body)
  let marks := sortedBy (fun a b => a.start < b.start || a.start == b.start && b.stop ≤ a.stop)
    (nodes.flatMap (marksOf p.layout))
  let written := p.layout.written
  .node (.other "Module") (partsBetween written (marks.length + 1) 0 written.length marks) none []

/-- The program of a text, if it keeps to the classic grammar. -/
def editable? (text : String) : Option Program :=
  (Program.parse text).toOption.filter Program.isClassic

/-! ## Printing -/

mutual

/-- The characters of a part. -/
def Part.chars : Part → List Char
  | .node kind before hint after =>
    (match kind with
      | .text chars => chars
      | _ => []) ++ charsAll before ++ charsHint (hintSign kind) hint ++ charsAll after

def Part.charsAll : List Part → List Char
  | [] => []
  | p :: rest => p.chars ++ charsAll rest

def Part.charsHint (sign : List Char) : Option Part → List Char
  | none => []
  | some p => (if p.kind == anyHint.kind then sign else []) ++ p.chars

end

def Part.written (t : Part) : String := String.ofList t.chars

/-! ## The editor -/

/-- The tree with the import: the text is printed, the import is put into it, and it is read
again. -/
def withImport (t : Part) : Option Part := do
  let p ← editable? t.written
  let text := String.ofList (insertAll (importInsertions p) p.layout.written)
  return treeOf (← editable? text)

def Editor.classic : Editor where
  parse text := (editable? text).map treeOf
  print := Part.written
  addImport t := .ok ((withImport t).getD t)

end DesignLens.TypeHints
