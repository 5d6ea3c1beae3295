import DesignLens.Json.Value

/-!
# The catalogue that comes with the library

Patterns and architectures with a description, references and a hint, and the refactorings that the
references lead to.
-/

namespace DesignLens.Catalog

def entry (name category description : String) (refs : List String) (more : Table Json) : Json :=
  .obj ([("name", .str name), ("category", .str category), ("description", .str description),
    ("refs", .strings refs)] ++ more)

def hint (text : String) : Table Json := [("prompt_hint", .str text)]

def technique (name url hint : String) : Json :=
  .obj [("name", .str name), ("url", .str url), ("prompt_hint", .str hint)]

def shippedPatterns : List Json :=
  [entry "Singleton" "Creational"
      "Ensure a class has only one instance and provide a global point of access."
      ["https://refactoring.guru/design-patterns/singleton",
        "https://www.geeksforgeeks.org/python/singleton-pattern-in-python-a-complete-guide/"]
      (hint "Enforce single instance; hide constructor; provide accessor; avoid globals"),
    entry "Observer" "Behavioral"
      ("Define a one-to-many dependency so that when one object changes state, all dependents " ++
      "are notified.")
      ["https://refactoring.guru/design-patterns/observer",
        "https://github.com/faif/python-patterns/tree/master/patterns/behavioral/observer.py"]
      (hint "Decouple subject and observers; notify subscribers; avoid direct calls"),
    entry "Factory Method" "Creational"
      ("Define an interface for creating an object, but let subclasses alter the type of " ++
      "objects that will be created.")
      ["https://refactoring.guru/design-patterns/factory-method",
        "https://github.com/faif/python-patterns/tree/master/patterns/creational/factory.py"]
      (hint "Create via factory; avoid direct constructors in clients; preserve call sites"),
    entry "Adapter" "Structural"
      ("Allow objects with incompatible interfaces to collaborate by wrapping a class with a " ++
      "compatible interface.")
      ["https://refactoring.guru/design-patterns/adapter",
        "https://github.com/faif/python-patterns/tree/master/patterns/structural/adapter.py"]
      (hint "Stabilize client API with an adapter; delegate to existing impl; keep diff tiny" ++
        [("contract", .obj
            [("inputs", .str "Stable Target interface; client calls unchanged"),
              ("outputs", .str "Same behavior via Adaptee; no observable changes")])]),
    entry "Strategy" "Behavioral"
      "Define a family of algorithms, encapsulate each one, and make them interchangeable."
      ["https://refactoring.guru/design-patterns/strategy",
        "https://github.com/faif/python-patterns/tree/master/patterns/behavioral/strategy.py"]
      (hint "Extract algorithm interface; inject at seam; no public API change"),
    entry "Layered Architecture" "Architecture"
      ("Organize system into presentation, application, domain, and infrastructure layers with " ++
      "strict or relaxed dependencies.")
      ["https://martinfowler.com/bliki/PresentationDomainDataLayering.html",
        "https://martinfowler.com/architecture/"]
      (hint ("Separate presentation/application/domain/infrastructure; depend inward; avoid " ++
            "cross-layer leaks")),
    entry "Hexagonal Architecture" "Architecture"
      ("Ports and adapters isolate the domain from external concerns, enabling easy " ++
      "substitution of UIs and infrastructure.")
      ["https://alistair.cockburn.us/hexagonal-architecture/",
        "https://tsh.io/blog/hexagonal-architecture/"]
      (hint "Isolate domain via ports/adapters; inject adapters; keep domain pure"),
    entry "Clean Architecture" "Architecture"
      ("Entities, use-cases, and interface adapters arranged in concentric layers with " ++
      "dependency rule pointing inward.")
      ["https://8thlight.com/blog/uncle-bob/2012/08/13/the-clean-architecture.html",
        "https://github.com/jasontaylordev/CleanArchitecture"]
      (hint "Entities/use-cases/adapters; dependencies point inward; keep boundaries explicit"),
    entry "Microservices" "Architecture"
      ("An approach to developing a single application as a suite of small services, each " ++
      "running in its own process and communicating with lightweight mechanisms.")
      ["https://martinfowler.com/articles/microservices.html",
        "https://microservices.io/patterns/microservices.html"]
      (hint "Split by bounded context; independent services; lightweight APIs; avoid shared DB"),
    entry "Event-Driven Architecture" "Architecture"
      ("A style built around asynchronous event production, detection, consumption, and " ++
      "reaction.")
      ["https://martinfowler.com/articles/201701-event-driven.html",
        "https://learn.microsoft.com/azure/architecture/guide/architecture-styles/event-driven"]
      (hint "Decouple producers/consumers with events; async handlers; stable event contracts"),
    entry "CQRS" "Architecture"
      ("Command Query Responsibility Segregation separates read and write models for " ++
      "scalability and clarity.")
      ["https://martinfowler.com/bliki/CQRS.html",
        "https://learn.microsoft.com/azure/architecture/patterns/cqrs"]
      (hint "Separate commands and queries; isolate write and read models; keep models thin"),
    entry "Bridge" "Structural"
      "Decouple an abstraction from its implementation so the two can vary independently."
      ["https://refactoring.guru/design-patterns/bridge",
        "https://github.com/faif/python-patterns/blob/master/patterns/structural/bridge.py"]
      (hint ("Separate Abstraction from Implementor; inject Implementor; keep Abstraction API " ++
            "stable")),
    entry "Composite" "Structural"
      "Compose objects into tree structures to represent part-whole hierarchies."
      ["https://refactoring.guru/design-patterns/composite",
        "https://github.com/faif/python-patterns/blob/master/patterns/structural/composite.py"]
      (hint ("Unify Leaf and Composite under Component; clients treat them uniformly; keep " ++
            "operation names consistent")),
    entry "Decorator" "Structural"
      "Attach additional responsibilities to an object dynamically as wrappers."
      ["https://refactoring.guru/design-patterns/decorator",
        "https://github.com/faif/python-patterns/blob/master/patterns/structural/decorator.py"]
      (hint "Wrap Component; forward call then add behavior; do not modify Component interface"),
    entry "Facade" "Structural"
      "Provide a unified interface to a set of interfaces in a subsystem."
      ["https://refactoring.guru/design-patterns/facade",
        "https://github.com/faif/python-patterns/blob/master/patterns/structural/facade.py"]
      (hint "Introduce a thin facade; do not leak subsystem details; keep client API stable"),
    entry "Flyweight" "Structural"
      "Use sharing to support large numbers of fine-grained objects efficiently."
      ["https://refactoring.guru/design-patterns/flyweight",
        "https://github.com/faif/python-patterns/blob/master/patterns/structural/flyweight.py"]
      (hint "Share intrinsic state; externalize extrinsic; reuse via cache"),
    entry "Front Controller" "Structural"
      "Centralize request handling by routing and common processing in a single controller."
      ["https://martinfowler.com/eaaCatalog/frontController.html",
        "https://github.com/faif/python-patterns/blob/master/patterns/structural/front_controller.py"]
      (hint "Centralize request handling; route to handlers; share pre/post processing"),
    entry "MVC" "Structural"
      ("Separate concerns into Model, View, and Controller to improve modularity and " ++
      "testability.")
      ["https://martinfowler.com/eaaDev/uiArchs.html",
        "https://github.com/faif/python-patterns/blob/master/patterns/structural/mvc.py"]
      (hint ("Separate concerns; keep view passive; controller mediates; avoid coupling; " ++
            "preserve public API")),
    entry "Proxy" "Structural"
      "Provide a surrogate or placeholder for another object to control access to it."
      ["https://refactoring.guru/design-patterns/proxy",
        "https://github.com/faif/python-patterns/blob/master/patterns/structural/proxy.py"]
      (hint ("Introduce a surrogate keeping Subject API stable; intercept for " ++
            "caching/logging/security")),
    entry "3-tier" "Structural"
      "Layer an application into presentation, logic, and data tiers (example structure)."
      ["https://martinfowler.com/bliki/PresentationDomainDataLayering.html",
        "https://github.com/faif/python-patterns/blob/master/patterns/structural/3-tier.py"]
      (hint "Presentation, logic, data tiers; interfaces between tiers; no backdoor coupling"),
    entry "Chain of Responsibility" "Behavioral"
      "Pass requests along a chain of handlers until one handles it."
      ["https://refactoring.guru/design-patterns/chain-of-responsibility",
        "https://github.com/faif/python-patterns/blob/master/patterns/behavioral/chain_of_responsibility.py"]
      (hint ("Link handlers; pass request along until handled; add handlers without modifying " ++
            "clients")),
    entry "Chaining Method" "Behavioral"
      "Return self from methods to allow call chaining in a fluent interface."
      ["https://martinfowler.com/bliki/FluentInterface.html",
        "https://github.com/faif/python-patterns/blob/master/patterns/behavioral/chaining_method.py"]
      (hint "Return self for fluent API; keep steps small; avoid surprising side effects"),
    entry "Command" "Behavioral"
      "Encapsulate a request as an object, allowing parameterization and queuing."
      ["https://refactoring.guru/design-patterns/command",
        "https://github.com/faif/python-patterns/blob/master/patterns/behavioral/command.py"]
      (hint "Encapsulate actions as objects; invoker queues/executes; decouple from receiver"),
    entry "Iterator" "Behavioral"
      "Provide a way to access elements of an aggregate object sequentially."
      ["https://refactoring.guru/design-patterns/iterator",
        "https://github.com/faif/python-patterns/blob/master/patterns/behavioral/iterator.py"]
      (hint "Provide sequential access; hide collection internals; use iterator protocol"),
    entry "Mediator" "Behavioral"
      "Define an object that encapsulates how a set of objects interact."
      ["https://refactoring.guru/design-patterns/mediator",
        "https://github.com/faif/python-patterns/blob/master/patterns/behavioral/mediator.py"]
      (hint "Encapsulate interactions in mediator; components communicate only via mediator"),
    entry "Memento" "Behavioral"
      "Capture and externalize an object's internal state so it can be restored later."
      ["https://refactoring.guru/design-patterns/memento",
        "https://github.com/faif/python-patterns/blob/master/patterns/behavioral/memento.py"]
      (hint "Snapshot state for restore; keep originator encapsulated; small memento objects"),
    entry "Publish-Subscribe" "Behavioral"
      "Publish events to multiple subscribers decoupled from the publisher."
      ["https://martinfowler.com/eaaDev/Observers.html",
        "https://github.com/faif/python-patterns/blob/master/patterns/behavioral/publish_subscribe.py"]
      (hint ("Introduce an event bus; decouple publishers and subscribers; no direct calls; " ++
            "keep topics stable")),
    entry "Registry" "Behavioral"
      "Keep a central registry of objects or services for lookup."
      ["https://martinfowler.com/eaaCatalog/Registry.html",
        "https://github.com/faif/python-patterns/blob/master/patterns/behavioral/registry.py"]
      (hint "Central lookup API; explicit register/get; avoid implicit globals"),
    entry "Servant" "Behavioral"
      "Provide functionality common to a group of classes via a shared servant object."
      ["https://martinfowler.com/eaaCatalog/ServiceLocator.html",
        "https://github.com/faif/python-patterns/blob/master/patterns/behavioral/servant.py"]
      (hint ("Extract shared functionality into a Servant; inject where needed; do not change " ++
            "client APIs")),
    entry "Specification" "Behavioral"
      "Combine business rules by chaining specifications as predicates."
      ["https://martinfowler.com/apsupp/spec.pdf",
        "https://github.com/faif/python-patterns/blob/master/patterns/behavioral/specification.py"]
      (hint "Compose predicates with and/or/not; side-effect-free domain rules"),
    entry "State" "Behavioral"
      "Allow an object to alter its behavior when its internal state changes."
      ["https://refactoring.guru/design-patterns/state",
        "https://github.com/faif/python-patterns/blob/master/patterns/behavioral/state.py"]
      (hint "Encapsulate states as objects; context delegates; explicit transitions"),
    entry "Template Method" "Behavioral"
      "Define the skeleton of an algorithm in a base operation, deferring steps to subclasses."
      ["https://refactoring.guru/design-patterns/template-method",
        "https://github.com/faif/python-patterns/blob/master/patterns/behavioral/template.py"]
      (hint "Define algorithm skeleton in base; override steps in subclasses"),
    entry "Visitor" "Behavioral"
      "Represent an operation to be performed on elements of an object structure."
      ["https://refactoring.guru/design-patterns/visitor",
        "https://github.com/faif/python-patterns/blob/master/patterns/behavioral/visitor.py"]
      (hint "Separate operations from structures; accept/visit; double-dispatch"),
    entry "Abstract Factory" "Creational"
      ("Provide an interface for creating families of related objects without specifying their " ++
      "concrete classes.")
      ["https://refactoring.guru/design-patterns/abstract-factory",
        "https://github.com/faif/python-patterns/blob/master/patterns/creational/abstract_factory.py"]
      (hint "Create families of related products; hide concrete classes; keep client decoupled"),
    entry "Builder" "Creational"
      "Separate the construction of a complex object from its representation."
      ["https://refactoring.guru/design-patterns/builder",
        "https://github.com/faif/python-patterns/blob/master/patterns/creational/builder.py"]
      (hint "Separate construction from representation; stepwise assemble; final build"),
    entry "Factory" "Creational"
      "Provide a method to create objects without exposing the creation logic."
      ["https://refactoring.guru/design-patterns/factory-method",
        "https://github.com/faif/python-patterns/blob/master/patterns/creational/factory.py"]
      (hint "Expose factory to create products; hide creation logic; keep client decoupled"),
    entry "Prototype" "Creational"
      "Create new objects by copying an existing object (prototype)."
      ["https://refactoring.guru/design-patterns/prototype",
        "https://github.com/faif/python-patterns/blob/master/patterns/creational/prototype.py"]
      (hint "Clone existing instance; deep copy as needed; avoid constructors"),
    entry "Object Pool" "Creational"
      "Reuse a set of initialized objects kept ready to use."
      ["https://martinfowler.com/eaaCatalog/Pool.html",
        "https://github.com/faif/python-patterns/blob/master/patterns/creational/pool.py"]
      (hint "Reuse pooled instances; acquire/release API; pre-initialize if needed"),
    entry "Borg" "Creational"
      "Share state across instances by assigning to the __dict__ of each instance."
      ["https://github.com/faif/python-patterns/blob/master/patterns/creational/borg.py",
        "https://www.oreilly.com/library/view/python-cookbook/0596001673/ch05s23.html"]
      (hint "Share state via shared __dict__; many instances, single state"),
    entry "Lazy Evaluation" "Creational"
      "Defer computation until the value is needed."
      ["https://martinfowler.com/bliki/LazyLoad.html",
        "https://github.com/faif/python-patterns/blob/master/patterns/creational/lazy_evaluation.py"]
      (hint "Defer computation until needed; cache the result; idempotent access"),
    entry "Blackboard" "Other"
      "Collaboratively solve problems using a shared global memory (blackboard)."
      ["https://en.wikipedia.org/wiki/Blackboard_(design_pattern)",
        "https://github.com/faif/python-patterns/blob/master/patterns/other/blackboard.py"]
      (hint "Shared knowledge base; contributors post partial results; coordinator resolves"),
    entry "Graph Search" "Other"
      "Implement search algorithms over graph structures (example algorithmic pattern)."
      ["https://en.wikipedia.org/wiki/Graph_traversal",
        "https://github.com/faif/python-patterns/blob/master/patterns/other/graph_search.py"]
      (hint "Scaffold BFS/DFS traversal; pure functions; deterministic iteration"),
    entry "Refactoring Techniques" "Refactoring"
      "General catalog of refactoring techniques and best practices."
      ["https://refactoring.guru/refactoring/techniques",
        "https://refactoring.com/catalog/",
        "https://www.codesee.io/learning-center/code-refactoring"] []]

def shippedTechniques : List Json :=
  [technique "Extract Function"
      "https://refactoring.com/catalog/extractFunction.html"
      "Isolate a cohesive block into a named function; pure if possible; keep behavior",
    technique "Inline Function"
      "https://refactoring.com/catalog/inlineFunction.html"
      "Replace trivial function calls with body at call sites; simplify; preserve behavior",
    technique "Change Function Declaration"
      "https://refactoring.com/catalog/changeFunctionDeclaration.html"
      "Rename/reorder parameters or add defaults; maintain backward compatibility",
    technique "Extract Class"
      "https://refactoring.com/catalog/extractClass.html"
      "Move responsibilities to a new class; single responsibility; delegate to preserve API",
    technique "Move Function"
      "https://refactoring.com/catalog/moveFunction.html"
      "Relocate function to a more appropriate module/class; update imports; keep behavior",
    technique "Move Field"
      "https://refactoring.com/catalog/moveField.html"
      "Relocate state to its rightful owner; adjust accessors; maintain invariants",
    technique "Encapsulate Variable"
      "https://refactoring.com/catalog/encapsulateVariable.html"
      "Replace direct variable access with getter/setter; enforce invariants",
    technique "Encapsulate Collection"
      "https://refactoring.com/catalog/encapsulateCollection.html"
      "Hide collection behind add/remove/iterate API; don’t expose mutable internals",
    technique "Decompose Conditional"
      "https://refactoring.com/catalog/decomposeConditional.html"
      "Extract condition and branches into named functions; improve readability",
    technique "Consolidate Conditional Expression"
      "https://refactoring.com/catalog/consolidateConditionalExpression.html"
      "Combine equivalent outcomes; simplify branching without changing behavior",
    technique "Replace Temp with Query"
      "https://refactoring.com/catalog/replaceTempWithQuery.html"
      "Replace temporary variables with a query method; keep intent clear; watch performance",
    technique "Replace Conditional with Polymorphism"
      "https://refactoring.com/catalog/replaceConditionalWithPolymorphism.html"
      "Eliminate if/else by introducing polymorphic types/strategies; stable interface",
    technique "Introduce Parameter Object"
      "https://refactoring.com/catalog/introduceParameterObject.html"
      "Group related parameters into a value object; reduce long parameter lists",
    technique "Replace Constructor with Factory Function"
      "https://refactoring.com/catalog/replaceConstructorWithFactoryFunction.html"
      "Provide a named factory; hide complex construction; make intent explicit",
    technique "Replace Loop with Pipeline"
      "https://refactoring.com/catalog/replaceLoopWithPipeline.html"
      "Use map/filter/reduce/comprehensions; keep steps clear; preserve order/behavior",
    technique "Split Loop"
      "https://refactoring.com/catalog/splitLoop.html"
      "Separate loops by concern; simpler loops; keep overall complexity acceptable",
    technique "Split Variable"
      "https://refactoring.com/catalog/splitVariable.html"
      "Use distinct variables for distinct purposes; avoid reuse that obscures intent",
    technique "Slide Statements"
      "https://refactoring.com/catalog/slideStatements.html"
      "Move statements to maximize locality and remove duplicates; no behavior change",
    technique "Substitute Algorithm"
      "https://refactoring.com/catalog/substituteAlgorithm.html"
      "Replace with a clearer algorithm; maintain observed behavior; add tests",
    technique "Replace Magic Literal"
      "https://refactoring.com/catalog/replaceMagicLiteral.html"
      "Introduce named constants/enums for unexplained literals; improve readability"]

def shippedValue : Json :=
  .obj [("patterns", .arr shippedPatterns), ("refactorings", .arr shippedTechniques)]

end DesignLens.Catalog
