import DesignLens.Catalog.Shipped
import DesignLens.Json.Reader
import DesignLens.Json.Traits
import DesignLens.Text.Search
import DesignLens.Workspace.Content

/-!
# Looking things up in a catalogue

A catalogue is a JSON document that may be missing, unreadable or of any shape. What cannot be made
sense of is passed over: looking something up never fails.
-/

namespace DesignLens

open Workspace

/-- The document of a catalogue, if there is one. -/
structure Catalog where
  document : Option (Except Failure Json)

namespace Catalog

def shipped : Catalog := ⟨some (.ok shippedValue)⟩

def ofContent (content : Option Content) : Catalog :=
  ⟨content.map fun c => do
    let text ← c.read
    (Json.read text).mapError fun fault => .badValue (fault.message text)⟩

/-- The fields of the document; a document of another shape has none. -/
def value (c : Catalog) : Json :=
  match c.document with
  | some (.ok (.obj fields)) => .obj fields
  | _ => .obj []

/-- The objects in the list of patterns. -/
def patternItems (c : Catalog) : List Json :=
  ((c.value.fieldD "patterns" (.arr [])).objects.toOption).getD []

def isArchitecture (item : Json) : Bool :=
  Text.lower (item.fieldD "category" (.str "")).shown == "architecture"

def patterns (c : Catalog) : List Json := c.patternItems.filter fun item => !isArchitecture item

def architectures (c : Catalog) : List Json := c.patternItems.filter isArchitecture

/-- A text that is not blank, trimmed. -/
def trimmedText? (v : Json) : Option String :=
  v.text?.bind fun s => if (Text.trim s).isEmpty then none else some (Text.trim s)

/-- The refactoring techniques by name, address and hint. -/
def techniques (c : Catalog) : List Json :=
  let items := ((c.value.fieldD "refactorings" (.arr [])).objects.toOption).getD []
  items.map fun item =>
    let shownField (name : String) : Json := .str (item.fieldD name (.str "")).shown
    let hint := ((item.field? "prompt_hint").bind trimmedText?).toList
    .obj ([("name", shownField "name"), ("url", shownField "url")] ++
      hint.map fun h => ("prompt_hint", .str h))

/-- A name without case, with single blanks for underscores, hyphens and runs of blanks. -/
def plainName (name : String) : String :=
  " ".intercalate (Text.words
    (Text.replaceAll "-" " " (Text.replaceAll "_" " " (Text.lower name))))

/-- Short names and the names under which the catalogue has them. -/
def longNames : Table String :=
  [("clean", "clean architecture"), ("layered", "layered architecture"),
    ("three tier", "3 tier"), ("hexagonal", "hexagonal architecture"),
    ("event driven", "event driven architecture")]

def plainField (item : Json) (name : String) : String :=
  Text.lower (Text.trim ((item.fieldD name .null).orElse (.str "")).shown)

/-- The first entry with a name. The category counts only if it is more than the words `pattern` and
`architecture`, which all entries are. -/
def find? (c : Catalog) (name category : String) : Option Json :=
  let wanted := plainName name
  let wanted := (Table.find? wanted longNames).getD wanted
  let category := Text.lower (Text.trim category)
  let anyCategory := ["", "pattern", "architecture"].contains category
  match c.value.field? "patterns" with
  | some (.arr items) => (items.filter Json.isObject).find? fun item =>
      plainName (plainField item "name") == wanted &&
        (anyCategory || plainField item "category" == category)
  | _ => none

/-- What the steps give up to the first one that fails. -/
def untilFailure : List (Except Failure (List String)) → List String
  | .ok texts :: rest => texts ++ untilFailure rest
  | _ => []

/-- The texts of a reference list; other items are passed over. -/
def referenceTexts (item : Json) : Except Failure (List String) :=
  (item.fieldD "refs" (.arr [])).elements.map fun items => items.filterMap Json.text?

def isRefactoring (item : Json) : Bool :=
  Text.lower (Text.trim (item.fieldD "category" (.str "")).shown) == "refactoring"

/-- The references on refactoring that the catalogue gives, in its order. -/
def foundReferences (c : Catalog) : List String :=
  let listed (field : String) : Except Failure (List Json) :=
    ((c.value.fieldD field .null).orElse (.arr [])).objects
  match listed "patterns" with
  | .error _ => []
  | .ok items =>
    untilFailure ((items.filter isRefactoring).map referenceTexts ++
      [(listed "refactorings").map fun ts => ts.map fun t => (t.fieldD "url" (.str "")).shown])

def fallbackReferences : List String :=
  ["https://refactoring.guru/refactoring/techniques", "https://refactoring.com/catalog/"]

/-- Adds a reference that is not empty and not there yet. -/
def addReference (refs : List String) (ref : String) : List String :=
  if ref.isEmpty || refs.contains ref then refs else refs ++ [ref]

/-- How many references are given unless a number is asked for. -/
def usualLimit : Int := 3

/-- At least one reference on refactoring, and no more than the limit beyond that. -/
def references (c : Catalog) (limit : Int) : List String :=
  ((c.foundReferences ++ fallbackReferences).foldl addReference []).take (max 1 limit).toNat

/-- The first reference on refactoring. -/
def mainReference (c : Catalog) : String := (c.references 1).headD ""

end Catalog

end DesignLens
