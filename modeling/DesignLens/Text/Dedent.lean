import DesignLens.Text.Search

/-!
# Removing common indentation

The blanks and tabs that all lines start with are removed. Lines with nothing else on them do not
count and become empty.
-/

namespace DesignLens.Text

def isIndent (c : Char) : Bool := c == ' ' || c == '\t'

def indentOf (line : List Char) : List Char := line.takeWhile isIndent

def commonStart : List Char → List Char → List Char
  | a :: as, b :: bs => if a = b then a :: commonStart as bs else []
  | _, _ => []

/-- What all of several lists start with. -/
def commonStartOfAll : List (List Char) → List Char
  | [] => []
  | first :: rest => rest.foldl commonStart first

def dropStart (start line : List Char) : List Char :=
  if start.isPrefixOf line then line.drop start.length else line

def dedent (text : String) : String :=
  let lines := (pieces "\n" text).map fun line =>
    if line.toList.all isIndent then [] else line.toList
  let margin := commonStartOfAll ((lines.filter (!·.isEmpty)).map indentOf)
  "\n".intercalate (lines.map fun line => String.ofList (dropStart margin line))

end DesignLens.Text
