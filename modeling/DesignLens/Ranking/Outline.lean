import DesignLens.Text.Case
import DesignLens.Text.Search

/-!
# Words of a text by its outline

An outline is a tree whose nodes mark stretches of a text. It is read through a cursor, which stands
on one node at a time and moves to the first child, to the next sibling or to the parent. A walk
through the outline moves one cursor about, remembers the nodes that it has visited by their
identity and passes over those that it meets again. On each node that it visits it finds a word if
the node marks a name, a string or a comment.
-/

namespace DesignLens.Ranking

/-- What a node says: a label, unless it cannot be told, and a stretch of the text. -/
structure Mark where
  label : Option String
  start : Option Int
  stop : Option Int
  deriving DecidableEq, Repr

inductive Outline where
  | node (mark : Mark) (children : List Outline)

def Outline.mark : Outline → Mark
  | .node m _ => m

def Outline.children : Outline → List Outline
  | .node _ children => children

mutual

/-- The number of nodes. -/
def Outline.size : Outline → Nat
  | .node _ children => 1 + Outline.sizes children

def Outline.sizes : List Outline → Nat
  | [] => 0
  | t :: rest => t.size + Outline.sizes rest

end

/-- A way down from a node to one of its children: the children before it, last first, and the
children after it. -/
structure Step where
  mark : Mark
  before : List Outline
  after : List Outline

/-- A node and the way to it, last step first. -/
structure Cursor where
  here : Outline
  way : List Step

namespace Cursor

def atRoot (t : Outline) : Cursor := ⟨t, []⟩

def firstChild? (c : Cursor) : Option Cursor :=
  match c.here with
  | .node m (t :: rest) => some ⟨t, ⟨m, [], rest⟩ :: c.way⟩
  | .node _ [] => none

def nextSibling? (c : Cursor) : Option Cursor :=
  match c.way with
  | ⟨m, before, t :: after⟩ :: way => some ⟨t, ⟨m, c.here :: before, after⟩ :: way⟩
  | _ => none

def parent? (c : Cursor) : Option Cursor :=
  match c.way with
  | s :: way => some ⟨.node s.mark (s.before.reverse ++ c.here :: s.after), way⟩
  | [] => none

end Cursor

/-- Where a node stands: the numbers of the children on the way down to it from the root. -/
abbrev Place := List Nat

def Cursor.place (c : Cursor) : Place := (c.way.map fun s => s.before.length).reverse

/-- The text of a mark in lower case, if it is a name, a string or a comment. -/
def Mark.word? (text : String) (m : Mark) : Option String :=
  if m.label.any ["identifier", "string", "comment"].contains then
    some (Text.lower (Text.slice m.start m.stop text))
  else none

/-- A walk on its way: the cursor, the identities of the nodes visited so far and the words found on
them. -/
structure Walk (ι : Type) where
  cursor : Cursor
  visited : List ι
  found : List String

namespace Walk

variable {ι : Type}

def start (t : Outline) : Walk ι := ⟨.atRoot t, [], []⟩

/-- Goes back to the parent; at the root the cursor stays. -/
def moveUp (w : Walk ι) : Walk ι := { w with cursor := w.cursor.parent?.getD w.cursor }

variable [DecidableEq ι] (identity : Place → ι) (text : String)

/-- Visits the node under the cursor. -/
def visit (w : Walk ι) : Walk ι :=
  { w with
    visited := w.visited ++ [identity w.cursor.place]
    found := w.found ++ (w.cursor.here.mark.word? text).toList }

mutual

/-- Walks through the node under the cursor, unless it has been visited before. The walk ends when
the fuel does. -/
def through : Nat → Walk ι → Walk ι
  | 0, w => w
  | fuel + 1, w =>
    if identity w.cursor.place ∈ w.visited then w
    else
      let w := w.visit identity text
      match w.cursor.firstChild? with
      | none => w
      | some child => (along fuel { w with cursor := child }).moveUp

/-- Walks through the node under the cursor and the siblings after it. -/
def along : Nat → Walk ι → Walk ι
  | 0, w => w
  | fuel + 1, w =>
    let w := through fuel w
    match w.cursor.nextSibling? with
    | none => w
    | some next => along fuel { w with cursor := next }

end

end Walk

section

variable {ι : Type} [DecidableEq ι] (identity : Place → ι)

/-- The walk through a whole outline. Two steps per node are enough to see all of them. -/
def Outline.walk (t : Outline) (text : String) : Walk ι :=
  Walk.through identity text (2 * t.size) (.start t)

/-- The words found on a walk, or the whole text in lower case if there are none. -/
def Outline.words (t : Outline) (text : String) : String :=
  match (t.walk identity text).found with
  | [] => Text.lower text
  | found => " ".intercalate found

end

/-- The words of a text in lower case: those that its outline marks, or the whole text if there is
no outline or it marks nothing. Every node is told from the others by its place. -/
def words (outline : Option Outline) (text : String) : String :=
  match outline with
  | none => Text.lower text
  | some t => t.words id text

end DesignLens.Ranking
