import DesignLens.Detection.Finding
import DesignLens.Detection.Reading
import DesignLens.Table

/-!
# Behavioural patterns

Detectors for patterns that say how objects work together.
-/

namespace DesignLens.Detection

open Source

/-- A class that keeps a strategy and calls it. The attribute that is assigned last anywhere in an
initialiser is taken for the strategy. -/
def strategy : Detector := perClass fun layout c =>
  match ((initializers c).flatMap assignedAnywhere).getLast? with
  | none => []
  | some attr =>
    report ((otherMethods c).any (mentions layout s!"self.{attr}("))
      ⟨"Strategy", hundredths 65, s!"Class {c.name} invokes strategy via self.{attr}(...)"⟩

def observer : Detector := perClass fun layout c =>
  report (hasMethods ["attach", "detach", "notify"] c &&
      Text.occurs "observers" ("\n".intercalate ((methods c).map (textOf layout))))
    ⟨"Observer", hundredths 70, s!"Class {c.name} manages observers with attach/detach/notify"⟩

def command : Detector := perClass fun _ c =>
  let invokers := Text.sortedSet
    ((methodNames c).filter ["execute", "run", "invoke", "do"].contains)
  let shown := "\x7b" ++ ", ".intercalate (invokers.map Text.quoted) ++ "\x7d"
  report (!invokers.isEmpty)
    ⟨"Command", hundredths 55, s!"Class {c.name} defines an invoker method {shown}"⟩

/-- Whether a function picks a method out of a dictionary display, or compares its first parameter
with one value after another. -/
def dispatches (layout : Layout) (f : FunctionDef) : Bool :=
  mentionsAll layout ["\x7d[", "](", "self.", "\x7b"] f ||
    match f.parameters.positional with
    | [] => false
    | p :: _ =>
      mentionsAny layout [s!"if {p.name} ==", s!"elif {p.name} ==", s!"match {p.name}:"] f

def catalog : Detector := perStatement fun layout s =>
  match s with
  | .classDef c =>
    ((methods c).find? (dispatches layout)).toList.map fun m =>
      ⟨"Catalog", hundredths 60, s!"{c.name}.{m.name} dispatches to specialized methods"⟩
  | .functionDef f =>
    report (!f.isAsync && dispatches layout f)
      ⟨"Catalog", hundredths 55, s!"Function {f.name} dispatches via catalog mapping"⟩
  | _ => []

def chainingMethod : Detector := perClass fun layout c =>
  let fluent := (otherMethods c).countP (mentions layout "return self")
  report (2 ≤ fluent)
    ⟨"Chaining Method", hundredths 65, s!"Class {c.name} has {fluent} methods returning self"⟩

def chainOfResponsibility : Detector := perClass fun layout c =>
  let links := mentionsAny layout ["self.next", "self.successor"]
  report ((methodsNamed ["set_next", "next", "successor", "__init__"] c).any links &&
      (methods c).any fun m => mentions layout ".handle(" m && links m)
    ⟨"Chain of Responsibility", hundredths 60,
      s!"Class {c.name} links handlers and delegates to next"⟩

def iterator : Detector := perClass fun _ c =>
  report (hasMethods ["__iter__", "__next__"] c)
    ⟨"Iterator", hundredths 70, s!"Class {c.name} defines __iter__ and __next__"⟩

/-- The first class that registers and notifies, in a text that notifies somewhere. -/
def mediator : Detector := fun layout body =>
  ((classesOf body).find? fun c =>
      hasMethods ["register", "notify"] c && Text.occurs ".notify(" layout.text &&
        Text.occurs c.name layout.text).toList.map fun c =>
    ⟨"Mediator", hundredths 55,
      s!"Mediator class {c.name} with register/notify used by colleagues"⟩

def memento : Detector := perClass fun layout c =>
  report ((methodsNamed ["save", "get_memento"] c).any
        (mentionsAny layout ["__dict__", "copy.copy", "copy.deepcopy", "dict("]) &&
      (methodsNamed ["restore", "set_memento"] c).any
        (mentionsAny layout ["__dict__.update", "setattr(", "for k, v in"]))
    ⟨"Memento", hundredths 65, s!"Class {c.name} provides save/restore state methods"⟩

def publishSubscribe : Detector := perClass fun layout c =>
  report ((methodsNamed ["publish", "emit"] c).any
      (mentionsAny layout ["for", ".append", ".remove", "listeners", "subscribers"]))
    ⟨"Publish-Subscribe", hundredths 60,
      s!"Class {c.name} exposes subscribe/unsubscribe and publish"⟩

def registration : Detector := perClass fun _ c =>
  report (hasMethods ["__init_subclass__"] c &&
      assignsTo ["REGISTRY", "registry", "_registry"] c.body)
    ⟨"Registry", hundredths 65,
      s!"Class {c.name} defines __init_subclass__ and a registry container"⟩

def specification : Detector := perClass fun _ c =>
  report (hasMethods ["is_satisfied_by"] c &&
      !(methodsNamed ["__and__", "__or__", "__invert__", "and_", "or_", "not_"] c).isEmpty)
    ⟨"Specification", hundredths 65,
      s!"Class {c.name} defines is_satisfied_by and boolean combinators"⟩

def state : Detector := perClass fun layout c =>
  report ((initializers c).any (mentions layout "self.state") &&
      (otherMethods c).any (mentions layout "self.state."))
    ⟨"State", hundredths 65, s!"Class {c.name} delegates operations to current state"⟩

/-- The number of calls of methods of `self` in a function. -/
def ownCalls (f : FunctionDef) : Nat := ((calleesIn f).filterMap selfAttribute?).length

def templateMethod : Detector := perClass fun _ c =>
  ((methodsNamed ["process", "template", "run"] c).find? fun m => 2 ≤ ownCalls m).toList.map
    fun m =>
      ⟨"Template Method", hundredths 60,
        s!"Class {c.name}.{m.name} orchestrates multiple self.* calls"⟩

def visitor : Detector := perClass fun layout c =>
  report ((methodsNamed ["accept"] c).any (mentions layout ".visit_"))
    ⟨"Visitor", hundredths 60, s!"Class {c.name}.accept calls visitor.visit_*"⟩

/-- The attributes of `self` through which a method forwards, as far as words of its text show. -/
def forwardedTo (layout : Layout) (m : FunctionDef) : List String :=
  (Text.words (textOf layout m)).filterMap fun word =>
    if Text.startsWith "self." word then
      match Text.pieces "." word with
      | _ :: attr :: _ :: _ => some attr
      | _ => none
    else none

/-- A class in which methods of two names forward to one attribute. -/
def delegation : Detector := perClass fun layout c =>
  let forwards := (otherMethods c).flatMap fun m =>
    (forwardedTo layout m).map fun attr => (attr, m.name)
  report (forwards.any fun a => forwards.any fun b => a.1 == b.1 && a.2 != b.2)
    ⟨"Delegation Pattern", hundredths 55,
      s!"Class {c.name} forwards multiple methods to a delegate"⟩

/-- What the initialisers of a class show about injected objects: the parameters seen so far and the
attributes that were assigned one of them. -/
structure Injection where
  parameters : List String
  attributes : List String

/-- Takes one initialiser into account. -/
def Injection.extend (i : Injection) (m : FunctionDef) : Injection :=
  let known := i.parameters ++ (m.parameters.positional.drop 1).map (·.name)
  let found := (partsOf m).flatMap fun part =>
    match part with
    | .stmt (.assign _ targets (.name _ id)) =>
      if known.contains id then targets.filterMap selfAttribute? else []
    | _ => []
  ⟨known, i.attributes ++ found⟩

def injectedAttributes (c : ClassDef) : List String :=
  ((initializers c).foldl Injection.extend ⟨[], []⟩).attributes

def usesInjected (layout : Layout) (c : ClassDef) : Bool :=
  let uses := (injectedAttributes c).flatMap fun a => [s!"self.{a}.", s!"self.{a}("]
  (otherMethods c).any (mentionsAny layout uses)

/-- Classes that are given objects and use them in other methods. -/
def dependencyInjection : Detector := fun layout body =>
  let names := ((classesOf body).filter (usesInjected layout)).map (·.name)
  report (!names.isEmpty)
    ⟨"Dependency Injection", hundredths 60,
      "Classes with injected dependencies: " ++ ", ".intercalate names⟩

/-- Whether a text speaks of a blackboard and of an empty or new dictionary. -/
def hasBlackboard (text : String) : Bool :=
  Text.occurs "blackboard" text && (Text.occurs "=\x7b" text || Text.occurs "= \x7b\x7d" text)

def blackboard : Detector := fun layout _ =>
  let text := layout.text
  let writers := (Text.words text).countP fun word =>
    Text.occurs ".append(" word || Text.occurs "]=" word
  report (hasBlackboard text && 2 ≤ writers)
    ⟨"Blackboard", hundredths 40, "Central blackboard with multiple writers"⟩

def graphSearch : Detector := fun layout _ =>
  let text := Text.lower layout.text
  let mentionsOne (words : List String) : Bool := words.any fun word => Text.occurs word text
  report (mentionsOne ["bfs", "dfs", "dijkstra", "a_star", "a*", "bellman_ford"] &&
      mentionsOne ["queue", "stack", "deque"])
    ⟨"Graph Search", hundredths 35, "Search algorithm names with queue/stack usage"⟩

def hierarchicalStateMachine : Detector := fun layout _ =>
  let text := Text.lower layout.text
  let all (words : List String) : Bool := words.all fun word => Text.occurs word text
  report ((all ["class state"] || all ["class base_state"]) &&
      all ["def enter(", "def exit(", "parent", "child"])
    ⟨"Hierarchical State Machine (HSM)", hundredths 35,
      "State base with enter/exit and parent/child references"⟩

end DesignLens.Detection
