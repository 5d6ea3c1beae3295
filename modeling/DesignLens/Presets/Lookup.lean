import DesignLens.Json.Reader
import DesignLens.Json.Traits
import DesignLens.Presets.Shipped
import DesignLens.Workspace.Content

/-!
# Looking presets up

Presets are prompts or single steps, each with an identifier, a name and a body. A document of
presets may be missing, unreadable or of any shape: what is no preset is passed over.
-/

namespace DesignLens

open Workspace

/-- The two kinds of presets. -/
inductive PresetKind where
  | prompts
  | subruns
  deriving DecidableEq, Repr

def PresetKind.word : PresetKind → String
  | .prompts => "prompts"
  | .subruns => "subruns"

def PresetKind.ofWord? (word : String) : Option PresetKind :=
  [PresetKind.prompts, .subruns].find? fun k => k.word == word

structure Presets where
  document : Option Json

namespace Presets

def shipped : Presets := ⟨some shippedValue⟩

def ofContent (content : Option Content) : Presets :=
  ⟨content.bind fun c =>
    match c.read with
    | .ok text => (Json.read text).toOption
    | .error _ => none⟩

/-- The presets of a kind. -/
def items (p : Presets) (kind : PresetKind) : List Json :=
  match p.document.bind (Json.field? kind.word) with
  | some (.arr found) => found.filter Json.isObject
  | _ => []

def shownField (item : Json) (name : String) : String := (item.fieldD name (.str "")).shown

/-- The presets of a kind by identifier and name. -/
def listing (p : Presets) (kind : PresetKind) : List (String × String) :=
  (p.items kind).map fun item => (shownField item "id", shownField item "name")

/-- The body of the first preset with an identifier. -/
def body? (p : Presets) (kind : PresetKind) (id : String) : Option String :=
  ((p.items kind).find? fun item => shownField item "id" == id).map fun item =>
    shownField item "body"

end Presets

end DesignLens
