import DesignLens.Scaffold.Creational
import DesignLens.Scaffold.Structural
import DesignLens.Scaffold.Behavioural
import DesignLens.Scaffold.Architectural

/-!
# All generators

The generators of scaffolds by canonical name. A name that stands in both tables is a pattern.
-/

namespace DesignLens.Scaffold

def patternGenerators : Table Generator :=
  [("abstract_factory", Creational.abstractFactory),
    ("adapter", Structural.adapter),
    ("blackboard", Behavioural.blackboard),
    ("borg", Creational.borg),
    ("bridge", Structural.bridge),
    ("builder", Creational.builder),
    ("catalog", Behavioural.catalog),
    ("chain_of_responsibility", Behavioural.chainOfResponsibility),
    ("chaining_method", Behavioural.chainingMethod),
    ("command", Behavioural.command),
    ("composite", Structural.composite),
    ("decorator", Structural.decorator),
    ("delegation_pattern", Structural.delegationPattern),
    ("dependency_injection", Structural.dependencyInjection),
    ("facade", Structural.facade),
    ("facade_function", Structural.facadeFunction),
    ("factory", Creational.factory),
    ("factory_method", Creational.factoryMethod),
    ("flyweight", Structural.flyweight),
    ("front_controller", Structural.frontController),
    ("mvc", Structural.mvc),
    ("publish_subscribe", Behavioural.publishSubscribe),
    ("graph_search", Behavioural.graphSearch),
    ("hsm", Behavioural.hsm),
    ("iterator", Behavioural.iterator),
    ("lazy_evaluation", Creational.lazyEvaluation),
    ("mediator", Behavioural.mediator),
    ("memento", Behavioural.memento),
    ("observer", Behavioural.observer),
    ("pool", Creational.pool),
    ("prototype", Creational.prototype),
    ("proxy", Structural.proxy),
    ("registry", Behavioural.registry),
    ("singleton", Creational.singleton),
    ("specification", Behavioural.specification),
    ("state", Behavioural.state),
    ("strategy", Behavioural.strategy),
    ("template_method", Behavioural.templateMethod),
    ("visitor", Behavioural.visitor),
    ("servant", Behavioural.servant)]

def architectureGenerators : Table Generator :=
  [("cqrs", Architectural.cqrs),
    ("domain_events", Architectural.domainEvents),
    ("message_bus", Architectural.messageBus),
    ("repository", Architectural.repository),
    ("service_layer", Architectural.serviceLayer),
    ("unit_of_work", Architectural.unitOfWork),
    ("clean", Architectural.clean),
    ("hexagonal", Architectural.hexagonal),
    ("layered", Architectural.layered),
    ("mvc", Architectural.mvc),
    ("three_tier", Architectural.threeTier)]

/-- Patterns and architectures in one table; of two generators with one name the architecture's
counts. -/
def generators : Table Generator := Table.overlay patternGenerators architectureGenerators

end DesignLens.Scaffold
