import DesignLens.Failure
import DesignLens.Json.Writer

/-!
# Values of unknown shape

Values that come from outside may have any shape. These functions use a value as a sequence, as a
record or as a text, and say in the usual words why that is not possible.
-/

namespace DesignLens.Json

/-- The name of the type of a value. -/
def typeName : Json → String
  | .null => "NoneType"
  | .bool _ => "bool"
  | .int _ => "int"
  | .float _ => "float"
  | .str _ => "str"
  | .arr _ => "list"
  | .obj _ => "dict"

def isObject : Json → Bool
  | .obj _ => true
  | _ => false

def isArray : Json → Bool
  | .arr _ => true
  | _ => false

/-- The text, if the value is one. -/
def text? : Json → Option String
  | .str s => some s
  | _ => none

/-- The single characters of a text. -/
def characters (s : String) : List Json := s.toList.map fun c => .str (String.singleton c)

/-- What a value yields one after another: items, characters or field names. -/
def elements (v : Json) : Except Failure (List Json) :=
  match v with
  | .arr items => .ok items
  | .str s => .ok (characters s)
  | .obj fields => .ok (fields.map fun f => .str f.1)
  | _ => .error (.wrongType s!"'{v.typeName}' object is not iterable")

/-- The objects among the things that a value yields. -/
def objects (v : Json) : Except Failure (List Json) :=
  v.elements.map fun items => items.filter isObject

/-- The value of a field or a default; only objects can be asked. -/
def get (v : Json) (name : String) (default : Json) : Except Failure Json :=
  match v with
  | .obj fields => .ok ((Table.find? name fields).getD default)
  | _ => .error (.noAttribute s!"'{v.typeName}' object has no attribute 'get'")

/-- The value of a field of an object, or a default for want of the field. -/
def fieldD (v : Json) (name : String) (default : Json) : Json := (v.field? name).getD default

/-- The first of two values if it counts as true. -/
def orElse (v other : Json) : Json := if v.truthy then v else other

/-- The number of things in a collection. -/
def size (v : Json) : Except Failure Nat :=
  match v with
  | .arr items => .ok items.length
  | .str s => .ok s.length
  | .obj fields => .ok fields.length
  | _ => .error (.wrongType s!"object of type '{v.typeName}' has no len()")

/-- The fields of an object, asked for by the word that only objects know. -/
def fieldsBy (v : Json) (word : String) : Except Failure (List (String × Json)) :=
  match v with
  | .obj fields => .ok fields
  | _ => .error (.noAttribute s!"'{v.typeName}' object has no attribute '{word}'")

/-- The front of a sequence: its first items or its first characters. -/
def front (n : Nat) (v : Json) : Except Failure Json :=
  match v with
  | .arr items => .ok (.arr (items.take n))
  | .str s => .ok (.str (String.ofList (s.toList.take n)))
  | .obj _ => .error (.wrongType "unhashable type: 'slice'")
  | _ => .error (.wrongType s!"'{v.typeName}' object is not subscriptable")

/-- The first items of a sequence. -/
def firstItems (n : Nat) (v : Json) : Except Failure (List Json) := v.front n >>= elements

/-- A pair in a sequence of pairs, as a field; `i` is its place. -/
def pairField (i : Nat) (item : Json) : Except Failure (String × Json) :=
  match item.elements with
  | .error _ =>
    .error (.wrongType s!"cannot convert dictionary update sequence element #{i} to a sequence")
  | .ok [key, value] =>
    if key.isArray || key.isObject then
      .error (.wrongType s!"unhashable type: '{key.typeName}'")
    else .ok (key.shown, value)
  | .ok others =>
    .error (.badValue (s!"dictionary update sequence element #{i} has length {others.length}; " ++
      "2 is required"))

/-- The fields of a copy of a value: an object's own, or those that a sequence of pairs gives. -/
def record (v : Json) : Except Failure (List (String × Json)) :=
  match v with
  | .obj fields => .ok fields
  | _ => do
    let items ← v.elements
    return Table.ofList (← items.zipIdx.mapM fun (item, i) => pairField i item)

/-- The text at place `i` of a sequence of texts. -/
def itemText (item : Json) (i : Nat) : Except Failure String :=
  match item with
  | .str s => .ok s
  | _ => .error (.wrongType s!"sequence item {i}: expected str instance, {item.typeName} found")

/-- Texts joined with a separator; every item has to be a text. -/
def joinTexts (separator : String) (items : List Json) : Except Failure String := do
  let texts ← items.zipIdx.mapM fun (item, i) => item.itemText i
  return separator.intercalate texts

end DesignLens.Json
