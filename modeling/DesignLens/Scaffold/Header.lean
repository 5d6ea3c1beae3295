import DesignLens.Catalog.Lookup
import DesignLens.Text.Case

/-!
# Headers of scaffolds

A scaffold starts with a text that says what it is, how to work it into existing code, what has to
stay as it is, and where to read more.
-/

namespace DesignLens.Scaffold

/-- What a header is about. The parts may have any shape; an empty one stands for its default. -/
structure Brief where
  name : String
  category : String
  refs : Json
  contract : Json
  tools : Json
  complexity : Json
  refactoringRefs : Json
  hint : Json

def steps : List String :=
  ["1) Map roles to your code (Target/Adapter/etc.)",
    "2) Extract/define the client-facing interface (keep API stable)",
    "3) Implement adapter and delegate to existing impl",
    "4) Wire via a small seam; avoid broad rewrites",
    "5) Run unit tests and ruff; commit minimal diffs"]

def defaultTools : Json :=
  .strings ["ast", "parso", "libcst", "astroid", "RedBaron", "tree-sitter", "py_compile"]

def defaultHint : String :=
  "Keep public API stable, propose minimal seam, limit diff; validate with tests + " ++
    "ast/libcst/py_compile"

/-- A line with up to two references, if there are any. -/
def referenceLine (lead : String) (refs : Json) : Except Failure (List String) := do
  if refs.truthy then
    let shown ← refs.firstItems 2 >>= Json.joinTexts ", "
    return ["Cross-ref " ++ lead ++ ": " ++ shown]
  else return []

def complexityText (level loc defs : String) : String :=
  "Complexity: " ++ level ++ " (LOC=" ++ loc ++ "; defs=" ++ defs ++ ") — prefer small seams; " ++
    "consider Strangler Fig/Branch-by-Abstraction"

/-- A line about the size of the code at hand, if its level is known. -/
def complexityLine (complexity : Json) : Except Failure (List String) := do
  let complexity := complexity.orElse (.obj [])
  let level ← complexity.get "level" .null
  let level := Text.lower (level.orElse (.str "")).shown
  let loc := ((← complexity.get "loc" .null).orElse (.str "?")).shown
  let defs := ((← complexity.get "defs" .null).orElse (.str "?")).shown
  if ["low", "medium", "high"].contains level then
    return [complexityText level loc defs]
  else return []

/-- The lines of a header in their order. -/
def headerLines (title category inputs outputs tools hint : String)
    (complexity patternLine refactoringLine : List String) : List String :=
  ["Boilerplate Scaffold: " ++ title ++ " (" ++ category ++ ")"] ++ steps ++
    ["Contract: inputs=" ++ inputs ++ "; outputs=" ++ outputs, "Validation: " ++ tools] ++
    complexity ++ ["Prompt: " ++ hint] ++ patternLine ++ refactoringLine

/-- Lines between triple quotes. -/
def docstring (lines : List String) : String :=
  "\"\"\"\n" ++ "\n".intercalate lines ++ "\n\"\"\""

def header (catalog : Catalog) (b : Brief) : Except Failure String := do
  let title := Text.title (Text.replaceAll "_" " " b.name)
  let refactoringRefs := b.refactoringRefs.orElse (.strings (catalog.references 2))
  let contract := b.contract.orElse (.obj [])
  let inputs := ((← contract.get "inputs" .null).orElse (.str "Public inputs unchanged")).shown
  let outputs := ((← contract.get "outputs" .null).orElse (.str "Behavior unchanged")).shown
  let tools ← (b.tools.orElse defaultTools).elements >>= Json.joinTexts ", "
  let complexity ← complexityLine b.complexity
  let hint := (b.hint.orElse (.str defaultHint)).shown
  let patternLine ← referenceLine "Pattern" b.refs
  let refactoringLine ← referenceLine "Refactoring" refactoringRefs
  return docstring (headerLines title b.category inputs outputs tools hint complexity patternLine
    refactoringLine)

end DesignLens.Scaffold
