import DesignLens.Table

/-!
# What the detectors look for

A line about each detector, by its name.
-/

namespace DesignLens.Detection

def summaries : Table String :=
  [("Singleton",
      "Detect Singleton: class with __new__ storing a single _instance."),
    ("Strategy",
      "Detect Strategy: class storing a strategy and calling it later."),
    ("Observer",
      "Detect Observer: Subject with attach/detach/notify managing observers."),
    ("Factory",
      "Detect simple Factory functions (alias of Factory Method heuristics)."),
    ("Factory Method",
      "Detect Factory Method: function selecting and returning different classes."),
    ("Abstract Factory",
      "Detect Abstract Factory by multiple create_* methods constructing different products."),
    ("Builder",
      "Detect Builder: fluent setters and a build() method creating a product."),
    ("Prototype",
      "Detect Prototype: clone method returning a shallow/deep copy."),
    ("Borg",
      "Detect Borg (shared state singleton) implementation."),
    ("Pool",
      "Detect Object Pool: acquire/release from internal pool/list."),
    ("Lazy Evaluation",
      "Detect Lazy Evaluation: cached_property or lru_cache or manual lazy @property."),
    ("Bridge",
      "Detect Bridge: Abstraction has a reference to Implementor and delegates work."),
    ("Composite",
      "Detect Composite: manages a list of children and iterates to call child ops."),
    ("Proxy",
      "Detect Proxy: class holding a real subject and delegating calls."),
    ("Adapter",
      "Detect Adapter: class translating method names to adaptee's API."),
    ("Flyweight",
      "Detect Flyweight: module-level cache reused in a factory function."),
    ("Front Controller",
      "Detect Front Controller."),
    ("Decorator",
      "Detect Decorator: a wrapper class delegating to a contained component."),
    ("Command",
      "Detect Command: a class encapsulating an action via execute/run."),
    ("Catalog",
      "Detect Catalog: general dispatcher calling specialized methods."),
    ("Chaining Method",
      "Detect Chaining Method: multiple methods returning self for fluent API."),
    ("Chain of Responsibility",
      "Detect Chain of Responsibility: handlers linked and call next.handle."),
    ("Iterator",
      "Detect Iterator: class implementing __iter__ and __next__."),
    ("Iterator (Alt)",
      "Detect Iterator: class implementing __iter__ and __next__."),
    ("Mediator",
      "Detect Mediator: class with register/notify and colleagues calling it."),
    ("Memento",
      "Detect Memento: save/restore of object state."),
    ("Facade",
      "Detect Facade: a simplified interface orchestrating multiple subsystems."),
    ("Publish-Subscribe",
      "Detect Publish-Subscribe pattern."),
    ("Registry",
      "Detect Registry: track subclasses via __init_subclass__ or class-level list."),
    ("Specification",
      "Detect Specification pattern signals."),
    ("State",
      "Detect State pattern: Context delegates to self.state.* methods."),
    ("Template Method",
      "Detect Template Method: method orchestrating steps on self."),
    ("Template",
      "Detect Template Method: method orchestrating steps on self."),
    ("Visitor",
      "Detect Visitor: element classes with accept(visitor) calling visit_*."),
    ("Dependency Injection",
      "Detect Dependency Injection."),
    ("Delegation Pattern",
      "Detect Delegation Pattern."),
    ("Blackboard",
      "Detect Blackboard pattern (very heuristic)."),
    ("Graph Search",
      "Detect Graph Search (heuristic and broad)."),
    ("Hierarchical State Machine",
      "Detect Hierarchical State Machine (HSM) (heuristic)."),
    ("Layered Architecture",
      "Detect classic Layered Architecture signals."),
    ("Hexagonal Architecture",
      "Heuristic Hexagonal Architecture detector."),
    ("Clean Architecture",
      "Detect Clean Architecture hints."),
    ("3-Tier Architecture",
      "Detect 3-Tier Architecture (Controller-Service-Repository) wiring."),
    ("Repository",
      "Detect Repository pattern."),
    ("Service Layer",
      "Detect Service Layer pattern."),
    ("Unit of Work",
      "Detect Unit of Work pattern."),
    ("Message Bus",
      "Detect Message Bus pattern."),
    ("Domain Events",
      "Detect Domain Events pattern."),
    ("CQRS",
      "Detect CQRS (Command Query Responsibility Segregation).")]

end DesignLens.Detection
