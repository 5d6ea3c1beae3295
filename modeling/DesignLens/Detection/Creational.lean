import DesignLens.Detection.Finding
import DesignLens.Detection.Reading
import DesignLens.Table

/-!
# Creational patterns

Detectors for patterns that say how objects come into being.
-/

namespace DesignLens.Detection

open Source

/-- A class that keeps an instance and makes its instances itself. -/
def singleton : Detector := perClass fun _ c =>
  report (assignsTo ["_instance", "_inst", "instance"] c.body && hasMethods ["__new__"] c)
    ⟨"Singleton", hundredths 70, s!"Class {c.name} defines instance holder and __new__"⟩

/-- A function with the name of a factory that calls a class of its module. -/
def factory : Detector := fun layout body =>
  let makers := (classesOf body).map fun c => c.name ++ "("
  (functionsOf body).flatMap fun f =>
    report (["factory", "create"].contains (Text.lower f.name) && mentionsAny layout makers f)
      ⟨"Factory", hundredths 60, s!"Function {f.name} returns instances of module classes"⟩

/-- The names whose calls a function returns. -/
def returnedCalls (f : FunctionDef) : List String :=
  (partsOf f).filterMap fun part =>
    match part with
    | .stmt (.return_ _ (some (.call _ (.name _ id) _ _))) => some id
    | _ => none

/-- A function that returns calls of different names. -/
def factoryMethod : Detector := perFunction fun _ f =>
  report (2 ≤ (returnedCalls f).eraseDups.length)
    ⟨"Factory Method", hundredths 60, s!"Function {f.name} returns multiple concrete types"⟩

/-- The classes among the given ones that a function returns instances of. -/
def productsOf (layout : Layout) (classNames : List String) (f : FunctionDef) : List String :=
  classNames.filter fun name => mentions layout s!"return {name}(" f

/-- A class with several `create_` methods for several products. -/
def abstractFactory : Detector := fun layout body =>
  let classNames := ((classesOf body).map (·.name)).eraseDups
  (classesOf body).flatMap fun c =>
    let makers := Table.ofList <| (methods c).filterMap fun m =>
      let products := productsOf layout classNames m
      if Text.startsWith "create_" m.name && !products.isEmpty then some (m.name, products)
      else none
    let products := Text.sortedSet (Table.values makers).flatten
    report (2 ≤ makers.length && 2 ≤ products.length)
      ⟨"Abstract Factory", hundredths 65,
        s!"Class '{c.name}' provides multiple factories for {shownTexts products}"⟩

/-- A class with a `build` method, and with setters that return the object or a `build` that calls
something. -/
def builder : Detector := perClass fun layout c =>
  let builds := methodsNamed ["build"] c
  let fluent := (otherMethods c).any (mentions layout "return self")
  let makes := builds.any (mentionsAll layout ["return ", "(", ")"])
  report (!builds.isEmpty && (fluent || makes))
    ⟨"Builder", hundredths 60, s!"Class {c.name} has fluent setters and a build() method"⟩

/-- A class with a method that copies by means of the `copy` module. -/
def prototype : Detector := perClass fun layout c =>
  ((methodsNamed ["clone", "copy"] c).find?
      (mentionsAny layout ["copy.copy(", "copy.deepcopy("])).toList.map fun m =>
    ⟨"Prototype", hundredths 65, s!"Class {c.name} defines {m.name} using copy module"⟩

/-- A class whose instances share one dictionary. -/
def borg : Detector := perClass fun layout c =>
  report (assignsTo ["__shared_state", "_shared_state", "shared_state"] c.body &&
      (initializers c).any (mentionsAll layout ["self.__dict__ =", "shared_state"]))
    ⟨"Borg", hundredths 70, s!"Class {c.name} assigns __dict__ to shared state"⟩

/-- A class with a pool from which objects are taken and to which they return. -/
def pool : Detector := perClass fun layout c =>
  report ((initializers c).any
        (mentionsAny layout ["self.pool =", "self._pool =", "self.objects ="]) &&
      !(methodsNamed ["acquire", "get"] c).isEmpty &&
      !(methodsNamed ["release", "put"] c).isEmpty)
    ⟨"Pool", hundredths 60, s!"Class {c.name} exposes acquire/release with internal pool"⟩

/-- The caching decorators of the `functools` module that are used through it. -/
def cachingDecorator? : Expr → Option String
  | .attribute _ _ name => if ["lru_cache", "cache"].contains name then some name else none
  | _ => none

/-- Properties that keep what they computed, and functions with a caching decorator. -/
def lazyEvaluation : Detector := perStatement fun layout s =>
  match s with
  | .classDef c =>
    (methods c).flatMap fun m => m.decorators.flatMap fun decorator =>
      let isProperty := (nameOf? decorator).any ["cached_property", "property"].contains
      report (isProperty && mentionsAll layout ["hasattr(self,", "setattr(self,"] m)
          ⟨"Lazy Evaluation", hundredths 60, s!"{c.name}.{m.name} lazily caches computed value"⟩ ++
        (cachingDecorator? decorator).toList.map fun name =>
          ⟨"Lazy Evaluation", hundredths 60, s!"Uses functools.{name} for lazy caching"⟩
  | .functionDef f =>
    if f.isAsync then []
    else f.decorators.filterMap cachingDecorator? |>.map fun name =>
      ⟨"Lazy Evaluation", hundredths 60, s!"Function {f.name} uses functools.{name}"⟩
  | _ => []

end DesignLens.Detection
