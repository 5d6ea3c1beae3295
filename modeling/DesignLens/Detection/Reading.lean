import DesignLens.Text.Case
import DesignLens.Text.Search
import DesignLens.Source.Syntax

/-!
# What detectors read

Views of classes and functions that several detectors share. Only plain functions count here;
functions that run asynchronously are passed over.
-/

namespace DesignLens.Detection

open Source

def classesOf (body : List Stmt) : List ClassDef :=
  body.filterMap fun s =>
    match s with
    | .classDef c => some c
    | _ => none

def functionsOf (body : List Stmt) : List FunctionDef :=
  body.filterMap fun s =>
    match s with
    | .functionDef d => if d.isAsync then none else some d
    | _ => none

def methods (c : ClassDef) : List FunctionDef := functionsOf c.body

def methodNames (c : ClassDef) : List String := (methods c).map (·.name)

def methodsNamed (names : List String) (c : ClassDef) : List FunctionDef :=
  (methods c).filter fun m => names.contains m.name

def initializers (c : ClassDef) : List FunctionDef := methodsNamed ["__init__"] c

def otherMethods (c : ClassDef) : List FunctionDef :=
  (methods c).filter fun m => m.name != "__init__"

/-- Whether a class has a method of every one of the given names. -/
def hasMethods (names : List String) (c : ClassDef) : Bool := names.all (methodNames c).contains

/-- The text of a function from its keyword on. -/
def textOf (layout : Layout) (f : FunctionDef) : String := layout.segment f.span

def mentions (layout : Layout) (needle : String) (f : FunctionDef) : Bool :=
  Text.occurs needle (textOf layout f)

def mentionsAny (layout : Layout) (needles : List String) (f : FunctionDef) : Bool :=
  needles.any fun needle => mentions layout needle f

def mentionsAll (layout : Layout) (needles : List String) (f : FunctionDef) : Bool :=
  needles.all fun needle => mentions layout needle f

/-- Every part of a function, level by level. -/
def partsOf (f : FunctionDef) : List Node := (Node.stmt (.functionDef f)).walk

/-- The name of an attribute of `self`. -/
def selfAttribute? : Expr → Option String
  | .attribute _ (.name _ "self") attr => some attr
  | _ => none

def targetsOf : Stmt → List Expr
  | .assign _ targets _ => targets
  | _ => []

/-- Whether one of the statements assigns to one of the given names. -/
def assignsTo (names : List String) (body : List Stmt) : Bool :=
  body.any fun s => (targetsOf s).any fun t =>
    match t with
    | .name _ id => names.contains id
    | _ => false

/-- The attributes of `self` that a statement assigns. -/
def attributesAssigned (s : Stmt) : List String := (targetsOf s).filterMap selfAttribute?

/-- The attributes of `self` that the statements of a function assign, not counting statements
inside other statements. -/
def assignedDirectly (f : FunctionDef) : List String := f.body.flatMap attributesAssigned

/-- The attributes of `self` that are assigned anywhere in a function. -/
def assignedAnywhere (f : FunctionDef) : List String :=
  (partsOf f).flatMap fun part =>
    match part with
    | .stmt s => attributesAssigned s
    | _ => []

/-- The function called by each call in a function. -/
def calleesIn (f : FunctionDef) : List Expr :=
  (partsOf f).filterMap fun part =>
    match part with
    | .expr (.call _ function _ _) => some function
    | _ => none

def nameOf? : Expr → Option String
  | .name _ id => some id
  | _ => none

/-- The part of a dotted name before its first point. -/
def topModule (name : String) : String := Text.before "." name

/-- The modules that each import statement of a body names, up to the first point. -/
def importedModules (body : List Stmt) : List String :=
  body.flatMap fun s =>
    match s with
    | .import_ _ names => names.map fun n => topModule n.name
    | .importFrom _ (some module) _ _ => [topModule module]
    | _ => []

end DesignLens.Detection
