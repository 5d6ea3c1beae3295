import DesignLens.Detection.Creational
import DesignLens.Detection.Structural
import DesignLens.Detection.Behavioural
import DesignLens.Detection.Architectural

/-!
# All detectors

Each detector under the name by which it is asked for. Two detectors have a second name.
-/

namespace DesignLens.Detection

def detectors : Table Detector :=
  [("Singleton", singleton),
    ("Strategy", strategy),
    ("Observer", observer),
    ("Factory", factory),
    ("Factory Method", factoryMethod),
    ("Abstract Factory", abstractFactory),
    ("Builder", builder),
    ("Prototype", prototype),
    ("Borg", borg),
    ("Pool", pool),
    ("Lazy Evaluation", lazyEvaluation),
    ("Bridge", bridge),
    ("Composite", composite),
    ("Proxy", proxy),
    ("Adapter", adapter),
    ("Flyweight", flyweight),
    ("Front Controller", frontController),
    ("Model-View-Controller (MVC)", modelViewController),
    ("Decorator", decorator),
    ("Command", command),
    ("Catalog", catalog),
    ("Chaining Method", chainingMethod),
    ("Chain of Responsibility", chainOfResponsibility),
    ("Iterator", iterator),
    ("Iterator (Alt)", iterator),
    ("Mediator", mediator),
    ("Memento", memento),
    ("Facade", facade),
    ("Publish-Subscribe", publishSubscribe),
    ("Registry", registration),
    ("Specification", specification),
    ("State", state),
    ("Template Method", templateMethod),
    ("Template", templateMethod),
    ("Visitor", visitor),
    ("Dependency Injection", dependencyInjection),
    ("Delegation Pattern", delegation),
    ("Blackboard", blackboard),
    ("Graph Search", graphSearch),
    ("Hierarchical State Machine", hierarchicalStateMachine),
    ("Layered Architecture", layered),
    ("Hexagonal Architecture", hexagonal),
    ("Clean Architecture", clean),
    ("3-Tier Architecture", threeTier),
    ("Repository", repository),
    ("Service Layer", serviceLayer),
    ("Unit of Work", unitOfWork),
    ("Message Bus", messageBus),
    ("Domain Events", domainEvents),
    ("CQRS", commandsAndQueries)]

end DesignLens.Detection
