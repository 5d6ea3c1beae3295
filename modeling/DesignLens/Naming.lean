import DesignLens.Table
import DesignLens.Text.Case
import DesignLens.Text.Search

/-!
# Names and their spellings

A pattern, architecture or refactoring is known by one canonical name. Other spellings lead to it
through the tables here, after trimming and lower case; a spelling that no table has is canonical
itself.
-/

namespace DesignLens.Naming

/-- Spellings of architectures and of their building blocks. -/
def architectureAliases : Table String :=
  [("hexagonal architecture", "hexagonal"),
    ("layered architecture", "layered"),
    ("clean architecture", "clean"),
    ("3-tier architecture", "three_tier"),
    ("three-tier architecture", "three_tier"),
    ("3 tier", "three_tier"),
    ("3-tier", "three_tier"),
    ("three tier", "three_tier"),
    ("model-view-controller (mvc)", "mvc"),
    ("mvc", "mvc"),
    ("service layer", "service_layer"),
    ("unit of work", "unit_of_work"),
    ("message bus", "message_bus"),
    ("domain events", "domain_events"),
    ("repository", "repository"),
    ("cqrs", "cqrs")]

/-- Spellings of patterns. -/
def patternAliases : Table String :=
  [("abstract factory", "abstract_factory"),
    ("factory method", "factory_method"),
    ("factory-method", "factory_method"),
    ("adapter", "adapter"),
    ("bridge", "bridge"),
    ("builder", "builder"),
    ("chain of responsibility", "chain_of_responsibility"),
    ("composite", "composite"),
    ("decorator", "decorator"),
    ("facade", "facade"),
    ("facade function", "facade_function"),
    ("flyweight", "flyweight"),
    ("iterator", "iterator"),
    ("mediator", "mediator"),
    ("memento", "memento"),
    ("observer", "observer"),
    ("prototype", "prototype"),
    ("proxy", "proxy"),
    ("singleton", "singleton"),
    ("state", "state"),
    ("strategy", "strategy"),
    ("template method", "template_method"),
    ("visitor", "visitor"),
    ("blackboard", "blackboard"),
    ("borg", "borg"),
    ("catalog", "catalog"),
    ("chaining method", "chaining_method"),
    ("command", "command"),
    ("graph search", "graph_search"),
    ("hsm", "hsm"),
    ("lazy evaluation", "lazy_evaluation"),
    ("pool", "pool"),
    ("publish-subscribe", "publish_subscribe"),
    ("publish subscribe", "publish_subscribe"),
    ("pubsub", "publish_subscribe"),
    ("registry", "registry"),
    ("specification", "specification")]

/-- Spellings of refactorings. -/
def refactoringAliases : Table String :=
  [("strangler fig", "strangler_fig"),
    ("branch by abstraction", "branch_by_abstraction"),
    ("extract method", "extract_method"),
    ("inline variable", "inline_variable"),
    ("introduce parameter object", "introduce_parameter_object"),
    ("replace conditional with polymorphism", "replace_conditional_with_polymorphism")]

/-- All spellings; the names of the three tables are different. -/
def aliases : Table String := architectureAliases ++ patternAliases ++ refactoringAliases

def normal (name : String) : String := Text.lower (Text.trim name)

/-- The canonical name by a table of spellings. -/
def resolve (table : Table String) (name : String) : String :=
  (Table.find? (normal name) table).getD (normal name)

def canonical (name : String) : String := resolve aliases name

def canonicalArchitecture (name : String) : String := resolve architectureAliases name

def canonicalPattern (name : String) : String := resolve patternAliases name

def canonicalRefactoring (name : String) : String := resolve refactoringAliases name

/-- The letters and digits of a text in lower case. -/
def simplify (s : String) : String :=
  String.ofList ((Text.lower s).toList.filter Text.isAlphanumeric)

end DesignLens.Naming
