import DesignLens.Json.Traits
import DesignLens.Text.Blank

/-!
# Generators of scaffolds

A generator writes the code to start from. It is given what the catalogue says, if anything, and may
fail or have nothing to offer. Most generators always write the same lines; a few start with a
description and references from the catalogue.
-/

namespace DesignLens.Scaffold

abbrev Generator : Type := Option Json → Except Failure (Option String)

/-- Code that is kept ready for a name. There is none, so everything is generated. -/
def readySnippet? (_ : String) : Option String := none

/-- Always the same lines. -/
def fixed (lines : List String) : Generator := fun _ => .ok (some ("\n".intercalate lines))

/-- The description in a catalogue entry. -/
def description (entry : Json) (fallback : String) : String :=
  (((entry.fieldD "intent" .null).orElse (entry.fieldD "description" .null)).orElse
    (.str fallback)).shown

/-- Comment lines with the references of a catalogue entry. -/
def referenceComment (entry : Json) : Except Failure String := do
  let refs := entry.fieldD "refs" .null
  if refs.truthy then
    let items ← refs.elements
    return "\n# References:\n" ++ "\n".intercalate (items.map fun r => "# - " ++ r.shown)
  else return ""

/-- Lines that start with a description of the catalogue, or with another one for want of it. -/
def described (fallback : String) (lines : List String) : Generator := fun entry => do
  let entry := (entry.getD .null).orElse (.obj [])
  let refs ← referenceComment entry
  let opening := "\"\"\"" ++ description entry fallback ++ refs ++ "\"\"\"\n\n"
  return some (Text.trim (opening ++ "\n".intercalate lines))

end DesignLens.Scaffold
