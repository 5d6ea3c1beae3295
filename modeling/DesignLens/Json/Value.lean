import DesignLens.Number.Binary64
import DesignLens.Table

/-!
# JSON values

A JSON value with its numbers as they were written: whole numbers are exact, all others are binary
floating point numbers. The fields of an object keep their order and have different names.
-/

namespace DesignLens

inductive Json where
  | null
  | bool (b : Bool)
  | int (n : Int)
  | float (x : Number.Binary64)
  | str (s : String)
  | arr (items : List Json)
  | obj (fields : List (String × Json))
  deriving Repr

instance : Inhabited Json := ⟨.null⟩

namespace Json

/-- The value of a field, if this is an object with that field. -/
def field? (name : String) : Json → Option Json
  | .obj fields => Table.find? name fields
  | _ => none

def strings (ss : List String) : Json := .arr (ss.map .str)

/-- A text, or nothing. -/
def ofOption (s : Option String) : Json := s.elim .null .str

def nat (n : Nat) : Json := .int n

/-- Whether a value counts as true in a condition: empty values and zeros do not. -/
def truthy : Json → Bool
  | .null => false
  | .bool b => b
  | .int n => n ≠ 0
  | .float x => !x.isZero
  | .str s => !s.isEmpty
  | .arr items => !items.isEmpty
  | .obj fields => !fields.isEmpty

end Json

end DesignLens
