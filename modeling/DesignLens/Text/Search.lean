import DesignLens.Text.Blank

/-!
# Looking for a text in a text
-/

namespace DesignLens.Text

/-- Whether the needle occurs anywhere. The empty text occurs everywhere. -/
def occursIn (needle : List Char) : List Char → Bool
  | [] => needle.isEmpty
  | c :: rest => needle.isPrefixOf (c :: rest) || occursIn needle rest

def occurs (needle text : String) : Bool := occursIn needle.toList text.toList

def startsWith (start text : String) : Bool := start.toList.isPrefixOf text.toList

def endsWith (ending text : String) : Bool := ending.toList.isSuffixOf text.toList

/-- The pieces of a text between the occurrences of a needle that is not empty, found from the left
without overlap. `skip` characters of an occurrence are still to be passed over; `piece` holds the
current piece backwards. -/
def piecesFrom (needle : List Char) : Nat → List Char → List Char → List (List Char)
  | _, piece, [] => [piece.reverse]
  | skip + 1, piece, _ :: rest => piecesFrom needle skip piece rest
  | 0, piece, c :: rest =>
    if needle.isPrefixOf (c :: rest) then
      piece.reverse :: piecesFrom needle (needle.length - 1) [] rest
    else piecesFrom needle 0 (c :: piece) rest

def pieces (needle text : String) : List String :=
  (piecesFrom needle.toList 0 [] text.toList).map String.ofList

def count (needle text : String) : Nat := (pieces needle text).length - 1

def replaceAll (needle replacement text : String) : String :=
  replacement.intercalate (pieces needle text)

/-- What stands before the first occurrence, or the whole text. -/
def before (needle text : String) : String := (pieces needle text).headD ""

/-- A position counted from the end if it is negative, kept inside a text of the given length. -/
def clampPosition (length : Nat) (i : Int) : Nat :=
  if i < 0 then ((length : Int) + i).toNat else min i.toNat length

/-- The part of a text between two positions; a missing position stands for the start or the end. -/
def slice (start stop : Option Int) (s : String) : String :=
  let cs := s.toList
  let first := (start.map (clampPosition cs.length)).getD 0
  let last := (stop.map (clampPosition cs.length)).getD cs.length
  String.ofList ((cs.drop first).take (last - first))

/-- Ascending order of texts, character by character. -/
def sort (texts : List String) : List String := texts.mergeSort fun a b => decide (a ≤ b)

/-- The different texts of a list in ascending order. -/
def sortedSet (texts : List String) : List String := sort texts.eraseDups

end DesignLens.Text
