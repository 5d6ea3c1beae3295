import DesignLens.Detection.Finding
import DesignLens.Detection.Reading

/-!
# Structural patterns

Detectors for patterns that say how objects are put together.

Three patterns wrap another object and are recognised alike: the attribute that the initialiser
assigns last is the wrapped object, and another method has to use it. A proxy looks for the first
such method, an adapter counts them, a decorator asks whether there is one.
-/

namespace DesignLens.Detection

open Source

/-- The attribute that the initialisers of a class assign last. -/
def wrappedAttribute? (c : ClassDef) : Option String :=
  ((initializers c).flatMap assignedDirectly).getLast?

def proxy : Detector := perClass fun layout c =>
  match wrappedAttribute? c with
  | none => []
  | some attr =>
    match (otherMethods c).find? (mentions layout s!"self.{attr}.") with
    | none => []
    | some _ =>
      [⟨"Proxy", hundredths 65, s!"Class {c.name} delegates to real subject via self.{attr}"⟩]

def adapter : Detector := perClass fun layout c =>
  match wrappedAttribute? c with
  | none => []
  | some attr =>
    let uses := (otherMethods c).countP (mentions layout s!"self.{attr}.")
    report (1 ≤ uses)
      ⟨"Adapter", hundredths 60, s!"Class {c.name} delegates to adaptee via self.{attr}"⟩

def decorator : Detector := perClass fun layout c =>
  match wrappedAttribute? c with
  | none => []
  | some attr =>
    report ((otherMethods c).any (mentions layout s!"self.{attr}."))
      ⟨"Decorator", hundredths 65,
        s!"Class {c.name} delegates to wrapped component via self.{attr}"⟩

/-- The first of the given names, in their order, that an initialiser mentions as an attribute with
the given ending; a later initialiser that mentions one takes precedence. -/
def mentionedAttribute? (layout : Layout) (names : List String) (ending : String) (c : ClassDef) :
    Option String :=
  ((initializers c).filterMap fun m =>
    names.find? fun name => mentions layout s!"self.{name}{ending}" m).getLast?

def implementorNames : List String := ["implementor", "impl", "driver", "backend"]

/-- A class that hands its work on to an implementor, looked for under the given names in order. -/
def bridgeAmong (names : List String) : Detector := perClass fun layout c =>
  match mentionedAttribute? layout names " =" c with
  | none => []
  | some attr =>
    report ((otherMethods c).any (mentions layout s!"self.{attr}."))
      ⟨"Bridge", hundredths 60, s!"Class {c.name} delegates to implementor via self.{attr}"⟩

def bridge : Detector := bridgeAmong implementorNames

def childrenNames : List String := ["children", "nodes", "elements", "items"]

/-- Whether a part of a tree runs over the given attribute of `self`. -/
def runsOver (attr : String) : Node → Bool
  | .stmt (.for_ _ false _ iterable _ _) => selfAttribute? iterable == some attr
  | .expr (.listComp _ _ (first :: _)) | .expr (.generator _ _ (first :: _)) =>
    selfAttribute? first.iterable == some attr
  | _ => false

/-- A class that keeps children, looked for under the given names in order, and runs over them. -/
def compositeAmong (names : List String) : Detector := perClass fun layout c =>
  match mentionedAttribute? layout names "" c with
  | none => []
  | some attr =>
    report ((otherMethods c).any fun m => (partsOf m).any (runsOver attr))
      ⟨"Composite", hundredths 60, s!"Class {c.name} iterates self.{attr} and calls child ops"⟩

def composite : Detector := compositeAmong childrenNames

/-- The names that a statement at the top of a module binds to dictionary displays. -/
def dictionaryName? : Stmt → Option String
  | .assign _ (.name _ id :: _) (.dict ..) => some id
  | .hintedAssign _ (.name _ id) _ (some (.dict ..)) _ => some id
  | _ => none

/-- A function that keeps what it makes in a dictionary of its module. -/
def flyweight : Detector := fun layout body =>
  let caches := body.filterMap dictionaryName?
  ((functionsOf body).find? fun f =>
      mentionsAny layout caches f && mentionsAll layout [" in ", "[", "]", "return "] f).toList.map
    fun f =>
      ⟨"Flyweight", hundredths 55, s!"Function {f.name} appears to use a cache for instances"⟩

/-- Whether a function calls at least two different names. -/
def callsSeveral (f : FunctionDef) : Bool := 2 ≤ ((calleesIn f).filterMap nameOf?).eraseDups.length

/-- A function, or a public method, that calls several others. -/
def facade : Detector := perStatement fun _ s =>
  match s with
  | .classDef c =>
    ((methods c).find? fun m => !Text.startsWith "_" m.name && callsSeveral m).toList.map fun m =>
      ⟨"Facade", hundredths 60, s!"Class {c.name}.{m.name} orchestrates multiple calls"⟩
  | .functionDef f =>
    report (!f.isAsync && callsSeveral f)
      ⟨"Facade", hundredths 55, s!"Function {f.name} orchestrates multiple calls"⟩
  | _ => []

end DesignLens.Detection
