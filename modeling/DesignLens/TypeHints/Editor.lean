import DesignLens.TypeHints.Tree

/-!
# Adding type hints

Every parameter without a hint, except `self` and `cls`, and every function without a result type,
except `__init__`, gets the most general type as its hint. The tree of a text is rebuilt bottom up,
and on leaving a part it is decided whether a hint is added. Parameters of lambdas cannot have
hints, so a lambda with a parameter that gets one cannot be rebuilt. A text that cannot be read, or
that needs nothing, is left alone.

How a text is read, how a tree is printed and where an import is put are not decided here.
-/

namespace DesignLens.TypeHints

/-- A pass over a tree knows whether it has changed anything, and may fail. -/
abbrev Pass : Type → Type := StateT Bool (Except Failure)

/-- The most general type as a hint. -/
def anyHint : Part :=
  .node (.other "Annotation") [.node (.text ['A', 'n', 'y']) [] none []] none []

/-- A definition that is left without a hint gets the general one, unless its name is exempt. -/
def leaveDefinition (exempt : List String) (name : String) (updated : Part) : Pass Part := do
  if updated.hint.isNone && !exempt.contains name then
    set true
    return updated.withHint anyHint
  else return updated

def leaveParam : String → Part → Pass Part := leaveDefinition ["self", "cls"]

def leaveFunction : String → Part → Pass Part := leaveDefinition ["__init__"]

def lambdaFailure : Failure :=
  ⟨.named "CSTValidationError", "Lambda params cannot have type annotations."⟩

/-- A lambda is not rebuilt with a parameter that has a hint. -/
def leaveLambda (updated : Part) : Pass Part :=
  if updated.ownParameters.any fun p => p.hint.isSome then throw lambdaFailure else return updated

def leave (updated : Part) : Pass Part :=
  match updated.kind with
  | .param name => leaveParam name updated
  | .function name => leaveFunction name updated
  | .lambda => leaveLambda updated
  | _ => return updated

mutual

/-- Rebuilds a part from its parts, which are rebuilt first. -/
def visit : Part → Pass Part
  | .node kind before hint after => do
    let before ← visitAll before
    let hint ← visitHint hint
    let after ← visitAll after
    leave (.node kind before hint after)

def visitAll : List Part → Pass (List Part)
  | [] => return []
  | p :: rest => do
    let p ← visit p
    let rest ← visitAll rest
    return p :: rest

def visitHint : Option Part → Pass (Option Part)
  | none => return none
  | some p => do
    let p ← visit p
    return some p

end

/-- What reads texts into trees, prints trees, and imports the general type where it is needed. -/
structure Editor where
  parse : String → Option Part
  print : Part → String
  addImport : Part → Except Failure Part

namespace Editor

/-- Adds hints to a text: whether it was changed, and the text after it. -/
def add (e : Editor) (source : String) : Except Failure (Bool × String) :=
  match e.parse source with
  | none => .ok (false, source)
  | some t => do
    let (t, changed) ← (visit t).run false
    if changed then
      let t ← e.addImport t
      return (true, e.print t)
    else return (false, source)

/-- Adds hints again and again, each time to what came out before. -/
def addRepeatedly (e : Editor) : Nat → String → Except Failure (List (Bool × String))
  | 0, _ => .ok []
  | n + 1, source => do
    let (changed, out) ← e.add source
    let rest ← e.addRepeatedly n out
    return (changed, out) :: rest

end Editor

end DesignLens.TypeHints
