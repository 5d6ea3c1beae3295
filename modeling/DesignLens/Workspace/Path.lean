import DesignLens.Text.Search

/-!
# Paths

A path is a sequence of names. Empty names and single points between slashes have no meaning and are
dropped; double points are kept.
-/

namespace DesignLens.Workspace

structure Path where
  absolute : Bool
  parts : List String
  deriving DecidableEq, Repr

namespace Path

def ofString (s : String) : Path :=
  ⟨Text.startsWith "/" s, (Text.pieces "/" s).filter fun part => part != "" && part != "."⟩

def toString (p : Path) : String :=
  let names := "/".intercalate p.parts
  if p.absolute then "/" ++ names else if p.parts.isEmpty then "." else names

/-- The last name; the empty text if there is none. -/
def name (p : Path) : String := p.parts.getLastD ""

/-- The path without its last name. -/
def parent (p : Path) : Path := ⟨p.absolute, p.parts.dropLast⟩

def child (p : Path) (name : String) : Path := ⟨p.absolute, p.parts ++ [name]⟩

/-- A second path seen from a first one. -/
def join (p q : Path) : Path := if q.absolute then q else ⟨p.absolute, p.parts ++ q.parts⟩

/-- The path that goes on from the path of a place to a place below it. -/
def onward (p : Path) (place below : List String) : Path :=
  ⟨p.absolute, p.parts ++ below.drop place.length⟩

/-- The part of a name from its last point on. A point at the start or at the end of the name does
not count. -/
def suffixOf (name : String) : String :=
  let back := name.toList.reverse
  let ending := back.takeWhile (· != '.')
  let front := (back.drop ending.length).drop 1
  if ending.isEmpty || front.isEmpty then "" else String.ofList ('.' :: ending.reverse)

def suffix (p : Path) : String := suffixOf p.name

end Path

end DesignLens.Workspace
