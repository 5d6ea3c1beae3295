import DesignLens.Detection.Finding
import DesignLens.Detection.Reading
import DesignLens.Table

/-!
# Architectures

Detectors for the styles in which whole programs are laid out. Most of them add up signals: words of
the text, names of classes, and calls from one role to another.
-/

namespace DesignLens.Detection

open Source

/-- The words of a list that occur in a text. -/
def hits (words : List String) (text : String) : List String :=
  words.filter fun word => Text.occurs word text

def mentionsOneOf (words : List String) (text : String) : Bool := !(hits words text).isEmpty

/-- The number of conditions that hold. -/
def score (signals : List Bool) : Nat := signals.countP id

/-- The last of the given roles with which a name ends. -/
def roleOf? (roles : List String) (name : String) : Option String :=
  (roles.filter fun role => Text.endsWith role name).getLast?

/-- Whether a method of a class in one tier calls the tier below it. -/
def callsDown (layout : Layout) (role : String) (controllerCalls serviceCalls : List String)
    (m : FunctionDef) : Bool :=
  (role == "Controller" && mentionsAny layout controllerCalls m) ||
    (role == "Service" && mentionsAny layout serviceCalls m)

def layerWords : List String :=
  ["presentation", "ui", "application", "service", "domain", "infrastructure", "persistence",
    "data"]

def tiers : List String := ["Service", "Repository", "Controller"]

def layered : Detector := fun layout body =>
  let layers := Text.sort (hits layerWords layout.text)
  let classNames := ((classesOf body).map (·.name)).eraseDups
  let roles := Text.sort (classNames.filterMap (roleOf? tiers))
  let wiring := ((classesOf body).map fun c =>
    match roleOf? tiers c.name with
    | none => 0
    | some role => (methods c).countP
        (callsDown layout role [".Service(", ".service", "self.service."]
          [".Repository(", ".repository", "self.repository."])).foldr (· + ·) 0
  let signals := score [!layers.isEmpty, !roles.isEmpty, 0 < wiring]
  report (2 ≤ signals)
    ⟨"Layered Architecture", graded (signals - 2),
      s!"Layers {shownTexts layers} with roles {shownTexts roles} and wiring={wiring}"⟩

/-- The names of the classes that a class is derived from. -/
def baseNames (c : ClassDef) : List String :=
  c.bases.filterMap fun b =>
    match b with
    | .name _ id => some id
    | .attribute _ _ name => some name
    | _ => none

/-- The calls `module.function` in a function whose module is one of the given ones. -/
def callsInto (modules : List String) (f : FunctionDef) : Nat :=
  (calleesIn f).countP fun callee =>
    match callee with
    | .attribute _ (.name _ id) _ => modules.contains id
    | _ => false

def hexagonal : Detector := fun _ body =>
  let classes := classesOf body
  let bases := Table.ofList (classes.map fun c => (c.name, baseNames c))
  let ports := Table.keys (bases.filter fun entry =>
    entry.2.any ["Protocol", "ABC", "abstractmethod"].contains)
  let isAdapter (c : ClassDef) : Bool :=
    mentionsOneOf ["Adapter", "Repository", "Gateway"] c.name ||
      (!ports.contains c.name && ((Table.find? c.name bases).getD []).any ports.contains)
  let adapters := classes.filter isAdapter
  let calls := (adapters.map fun c =>
    ((methods c).map (callsInto (importedModules body))).foldr (· + ·) 0).foldr (· + ·) 0
  let signals := score [!ports.isEmpty, !adapters.isEmpty, 0 < calls]
  let portNames := shownTexts (Text.sort ports)
  let adapterNames := shownTexts (adapters.map (·.name))
  report (2 ≤ signals)
    ⟨"Hexagonal Architecture", graded (signals - 2),
      s!"Ports {portNames} with adapters {adapterNames} and {calls} external call(s)"⟩

def standardModules : List String :=
  ["typing", "dataclasses", "abc", "pathlib", "datetime", "uuid", "re", "collections", "math",
    "itertools", "functools", "json"]

def clean : Detector := fun layout body =>
  let text := Text.lower layout.text
  let cleanHits := Text.sort <| hits
    ["use_case", "usecase", "interactor", "entities", "adapters", "boundaries", "gateway"] text
  let domainHits := Text.sort (hits ["entity", "entities", "value_object", "aggregate"] text)
  let foreign := (importedModules body).countP fun m => !standardModules.contains m
  let signals := score [!cleanHits.isEmpty, !domainHits.isEmpty, foreign == 0]
  let cleanShown := shownTexts cleanHits
  let domainShown := shownTexts domainHits
  report (2 ≤ signals)
    ⟨"Clean Architecture", graded (signals - 2),
      s!"Signals {cleanShown} / domain {domainShown} / external_imports={foreign}"⟩

/-- Of classes with one name only the last counts. -/
def threeTier : Detector := fun layout body =>
  let classes := Table.ofList ((classesOf body).map fun c => (c.name, c))
  let roles := Text.sort ((Table.keys classes).filterMap (roleOf? tiers))
  let wiring := (classes.map fun (name, c) =>
    match roleOf? tiers name with
    | none => 0
    | some role => (methods c).countP
        (callsDown layout role ["Service(", ".service", "self.service."]
          ["Repository(", ".repository", "self.repository."])).foldr (· + ·) 0
  report (2 ≤ score [!roles.isEmpty, 0 < wiring])
    ⟨"3-Tier Architecture", hundredths 65,
      s!"Roles {shownTexts roles} with wiring steps={wiring}"⟩

/-- The part that a class plays, by the ending of its name. -/
def viewRole? (name : String) : Option String :=
  let plays (endings : List String) : Bool := endings.any fun e => Text.endsWith e name
  if plays ["Controller", "Presenter"] then some "Controller"
  else if plays ["View", "Template", "Renderer"] then some "View"
  else if plays ["Model", "Entity"] then some "Model"
  else none

def modelViewController : Detector := fun layout body =>
  let roles := (classesOf body).filterMap fun c => viewRole? c.name
  let wiring := (((classesOf body).filter fun c => viewRole? c.name == some "Controller").map
    fun c => (methods c).countP fun m =>
      mentionsAny layout ["Model(", "self.model"] m &&
        mentionsAny layout ["View(", "self.view", "render("] m).foldr (· + ·) 0
  let signals := score
    [roles.contains "Model", roles.contains "View" || Text.occurs "render(" layout.text,
      roles.contains "Controller", 0 < wiring]
  let rolesShown := shownTexts (Text.sortedSet roles)
  report (3 ≤ signals)
    ⟨"Model-View-Controller (MVC)", graded (signals - 3),
      s!"Roles present {rolesShown}, controller wiring={wiring}"⟩

/-- Whether a dictionary display leads from constants to names or attributes. -/
def isRouteMap (entries : List DictEntry) : Bool :=
  (entries.any fun e =>
    match e.key with
    | some (.constant ..) => true
    | _ => false) &&
  entries.any fun e =>
    match e.value with
    | .name .. | .attribute .. => true
    | _ => false

/-- What a module shows about its routes: whether there are any, and the name of the last route
map. -/
structure Routes where
  present : Bool
  name : Option String

def Routes.extend (layout : Layout) (r : Routes) : Stmt → Routes
  | .assign _ targets (.dict _ entries) =>
    if isRouteMap entries then
      match targets with
      | .name _ id :: _ => ⟨true, some id⟩
      | _ => ⟨true, r.name⟩
    else r
  | .classDef c =>
    if (initializers c).any (mentionsAll layout ["self.routes", "\x7b", "\x7d"]) then
      ⟨true, r.name⟩
    else r
  | _ => r

def isDispatcher (layout : Layout) (routeMap : Option String) (f : FunctionDef) : Bool :=
  ["handle", "dispatch", "route", "process_request"].contains f.name &&
    (routeMap.any (fun name => mentions layout name f) ||
      mentionsAny layout [".routes", ".get("] f)

def frontController : Detector := fun layout body =>
  let routes := body.foldl (Routes.extend layout) ⟨false, none⟩
  let functions := functionsOf body ++ (classesOf body).flatMap methods
  let dispatchers := functions.countP (isDispatcher layout routes.name)
  let shown := routes.name.getD "None"
  report (routes.present && 0 < dispatchers)
    ⟨"Front Controller", hundredths 65,
      s!"Routing table '{shown}' with {dispatchers} dispatcher(s)"⟩

def repository : Detector := perClass fun layout c =>
  report ((Text.endsWith "Repository" c.name || Text.endsWith "Repo" c.name) &&
      !(methodsNamed ["add", "get", "list"] c).isEmpty &&
      mentionsOneOf ["session", "db", "collection"] (layout.segment c.span))
    ⟨"Repository", hundredths 60, s!"Class {c.name} with CRUD methods and session usage"⟩

/-- Whether a part of a tree is a `with uow` block in which something is committed. -/
def commitsInBlock (layout : Layout) : Node → Bool
  | .stmt (.with_ _ false items body) =>
    (items.any fun item => nameOf? item.context == some "uow") &&
      Text.occurs ".commit(" ("\n".intercalate (body.map fun s => layout.segment s.span))
  | _ => false

/-- A function with a parameter `uow` that enters it and commits. -/
def runsUnit (layout : Layout) (f : FunctionDef) : Bool :=
  (f.parameters.positional.any fun p => p.name == "uow") &&
    (mentionsAll layout ["with uow", ".commit("] f || (partsOf f).any (commitsInBlock layout))

def serviceLayer : Detector := fun layout body =>
  let text := Text.lower layout.text
  if mentionsOneOf ["service", "usecase", "use_case"] text &&
      mentionsOneOf ["uow", "unitofwork", "repository"] text then
    [⟨"Service Layer", hundredths 50, "Service/usecase orchestrating repositories or unit of work"⟩]
  else
    ((functionsOf body).find? (runsUnit layout)).toList.map fun f =>
      ⟨"Service Layer", hundredths 55, s!"Function {f.name} uses uow context and commits"⟩

def unitOfWork : Detector := perClass fun layout c =>
  let name := Text.lower c.name
  report ((name == "unitofwork" || Text.endsWith "uow" name) &&
      hasMethods ["__enter__", "__exit__"] c &&
      mentionsOneOf ["session", "engine", "connection"] (layout.segment c.span) &&
      !(methodsNamed ["begin", "commit", "rollback"] c).isEmpty)
    ⟨"Unit of Work", hundredths 60, s!"{c.name} manages session and transaction lifecycle"⟩

def messageBus : Detector := fun layout _ =>
  let text := Text.lower layout.text
  report (mentionsOneOf
        ["messagebus", "message_bus", "bus =", "handlers = \x7b", "handler_map"] text &&
      mentionsOneOf ["def publish(", "def handle(", "def dispatch("] text)
    ⟨"Message Bus", hundredths 45, "Handlers map with publish/dispatch entrypoint"⟩

def domainEvents : Detector := fun layout _ =>
  let text := Text.lower layout.text
  report (Text.occurs "class" text && Text.occurs "event" text &&
      mentionsOneOf ["emit(", "publish(", ".events.append(", "events = ["] text)
    ⟨"Domain Events", hundredths 45, "Event classes with emit/publish or aggregate events list"⟩

/-- Functions whose names speak of commands or of queries, and what they do. -/
def commandsAndQueries : Detector := fun layout body =>
  let text := Text.lower layout.text
  let handlers (word : String) : List FunctionDef :=
    (functionsOf body).filter fun f => Text.occurs word (Text.lower f.name)
  let commands := handlers "command"
  let queries := handlers "query"
  let hasCommands := !commands.isEmpty ||
    (Text.occurs "command" text && mentionsOneOf ["handle_", "def handle("] text)
  let hasQueries := !queries.isEmpty ||
    (Text.occurs "query" text && mentionsOneOf ["handle_", "get_"] text)
  let mutates := commands.any fun f =>
    mentionsAny layout ["uow", "repo"] f && mentions layout ".add(" f
  let reads := queries.any fun f =>
    mentionsAll layout ["view.", ".get_"] f || mentionsAll layout ["return", "get_"] f
  let bonuses := [(!commands.isEmpty && !queries.isEmpty, 10), (mutates, 5), (reads, 5)]
  let confidence := bonuses.foldl
    (fun total bonus => if bonus.1 then total.add (hundredths bonus.2) else total) (hundredths 40)
  let confidence := if (hundredths 70).lt confidence then hundredths 70 else confidence
  report (hasCommands && hasQueries)
    ⟨"CQRS", confidence, "Detected command and query handlers separation"⟩

end DesignLens.Detection
