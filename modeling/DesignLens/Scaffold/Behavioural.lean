import DesignLens.Scaffold.Generator

/-!
# Behavioural scaffolds

Code to start from for patterns that say how objects work together.
-/

namespace DesignLens.Scaffold.Behavioural

def blackboard : Generator := fixed
  ["class Blackboard:",
    "    def __init__(self) -> None:",
    "        self._data: dict[str, object] = \x7b\x7d",
    "",
    "    def set(self, key: str, value: object) -> None:",
    "        self._data[key] = value",
    "",
    "    def get(self, key: str) -> object | None:",
    "        return self._data.get(key)"]

def catalog : Generator := described "Simple in-memory catalog."
  ["class Catalog:",
    "    def __init__(self) -> None:",
    "        self._items: dict[str, object] = \x7b\x7d",
    "",
    "    def add(self, key: str, item: object) -> None:",
    "        \"\"\"Register an item under a key.\"\"\"",
    "        self._items[key] = item",
    "",
    "    def get(self, key: str) -> object | None:",
    "        \"\"\"Retrieve an item by key, or None if missing.\"\"\"",
    "        return self._items.get(key)",
    "",
    "    def remove(self, key: str) -> None:",
    "        \"\"\"Remove an item if it exists.\"\"\"",
    "        self._items.pop(key, None)",
    "",
    "    def keys(self) -> list[str]:",
    "        return list(self._items.keys())"]

def chainOfResponsibility : Generator := fixed
  ["class Handler:",
    "    def __init__(self, nxt=None): self._nxt = nxt",
    "    def handle(self, req):",
    "        if self._nxt: self._nxt.handle(req)"]

def chainingMethod : Generator := fixed
  ["class Chainable:",
    "    def step(self):",
    "        # do work",
    "        return self"]

def command : Generator := fixed
  ["class Command:  # pragma: no cover - scaffold",
    "    def execute(self) -> None:",
    "        raise NotImplementedError",
    "",
    "",
    "class Invoker:",
    "    def __init__(self) -> None:",
    "        self._queue: list[Command] = []",
    "",
    "    def add(self, cmd: Command) -> None:",
    "        self._queue.append(cmd)",
    "",
    "    def run(self) -> None:",
    "        for c in self._queue:",
    "            c.execute()"]

def graphSearch : Generator := fixed
  ["def bfs(start, neighbors):  # pragma: no cover - scaffold",
    "    from collections import deque",
    "    q = deque([start])",
    "    seen = \x7bstart\x7d",
    "    while q:",
    "        n = q.popleft()",
    "        yield n",
    "        for m in neighbors(n):",
    "            if m not in seen:",
    "                seen.add(m)",
    "                q.append(m)"]

def hsm : Generator := fixed
  ["from __future__ import annotations",
    "",
    "from abc import ABC, abstractmethod",
    "",
    "",
    "class HSMState(ABC):",
    "    @abstractmethod",
    "    def on_event(self, ctx: \"HSM\", event: str) -> \"HSMState\":" ++
      "  # pragma: no cover - scaffold",
    "        return self",
    "",
    "",
    "class HSM:",
    "    def __init__(self, initial: HSMState) -> None:",
    "        self.state = initial",
    "",
    "    def dispatch(self, event: str) -> None:  # pragma: no cover - scaffold",
    "        self.state = self.state.on_event(self, event)"]

def iterator : Generator := fixed
  ["class IterableCollection:",
    "    def __iter__(self):  # pragma: no cover - scaffold",
    "        yield from []"]

def mediator : Generator := fixed
  ["from __future__ import annotations",
    "",
    "",
    "class Mediator:",
    "    def __init__(self) -> None:",
    "        self.a: ComponentA | None = None",
    "        self.b: ComponentB | None = None",
    "",
    "    def notify(self, sender: object, event: str) -> None:  # pragma: no cover - scaffold",
    "        # Simple orchestration example",
    "        if event == \"A_done\" and self.b is not None:",
    "            self.b.react()",
    "",
    "",
    "class ComponentA:",
    "    def __init__(self, mediator: Mediator) -> None:",
    "        self.mediator = mediator",
    "        self.mediator.a = self",
    "",
    "    def act(self) -> None:",
    "        # do work ... then notify mediator",
    "        self.mediator.notify(self, \"A_done\")",
    "",
    "",
    "class ComponentB:",
    "    def __init__(self, mediator: Mediator) -> None:",
    "        self.mediator = mediator",
    "        self.mediator.b = self",
    "",
    "    def react(self) -> None:  # pragma: no cover - scaffold",
    "        # respond to A",
    "        pass"]

def memento : Generator := fixed
  ["class Memento:",
    "    def __init__(self, state): self.state = state"]

def observer : Generator := fixed
  ["from __future__ import annotations",
    "",
    "from typing import Callable, Dict, list",
    "",
    "",
    "class Observable:",
    "    def __init__(self) -> None:",
    "        self._subs: Dict[str, list[Callable]] = \x7b\x7d",
    "",
    "    def subscribe(self, event: str, handler: Callable) -> None:",
    "        self._subs.setdefault(event, []).append(handler)",
    "",
    "    def notify(self, event: str, payload) -> None:  # pragma: no cover - scaffold",
    "        for h in self._subs.get(event, []):",
    "            h(payload)"]

def publishSubscribe : Generator := fixed
  ["from __future__ import annotations",
    "",
    "from typing import Callable, DefaultDict",
    "",
    "",
    "class EventBus:",
    "    def __init__(self) -> None:",
    "        from collections import defaultdict",
    "",
    "        self._subs: DefaultDict[str, list[Callable]] = defaultdict(list)",
    "",
    "    def subscribe(self, topic: str, handler: Callable) -> None:",
    "        self._subs[topic].append(handler)",
    "",
    "    def publish(self, topic: str, payload) -> None:  # pragma: no cover - scaffold",
    "        for h in list(self._subs.get(topic, [])):",
    "            h(payload)"]

def registry : Generator := described "Simple key->value registry with safe access."
  ["from __future__ import annotations",
    "from typing import Generic, TypeVar",
    "",
    "K = TypeVar(\"K\")",
    "V = TypeVar(\"V\")",
    "",
    "",
    "class Registry(Generic[K, V]):",
    "    def __init__(self) -> None:",
    "        self._reg: dict[K, V] = \x7b\x7d",
    "",
    "    def register(self, key: K, val: V) -> None:",
    "        self._reg[key] = val",
    "",
    "    def get(self, key: K) -> V | None:",
    "        return self._reg.get(key)",
    "",
    "    def unregister(self, key: K) -> None:",
    "        self._reg.pop(key, None)",
    "",
    "    def keys(self) -> list[K]:",
    "        return list(self._reg.keys())"]

def servant : Generator := fixed
  ["class Servant:",
    "    def serve(self, target) -> str:  # pragma: no cover - scaffold",
    "        # provide shared functionality for various targets",
    "        return f\"served:\x7btype(target).__name__\x7d\""]

def specification : Generator := fixed
  ["class Specification:",
    "    def is_satisfied_by(self, candidate) -> bool:  # pragma: no cover - scaffold",
    "        raise NotImplementedError"]

def state : Generator := fixed
  ["from __future__ import annotations",
    "",
    "from abc import ABC, abstractmethod",
    "",
    "",
    "class State(ABC):",
    "    @abstractmethod",
    "    def handle(self, ctx: Context) -> None:  # pragma: no cover - scaffold",
    "        ...",
    "",
    "",
    "class Context:",
    "    def __init__(self, state: State) -> None:",
    "        self.state = state",
    "",
    "    def request(self) -> None:  # pragma: no cover - scaffold",
    "        self.state.handle(self)",
    "",
    "",
    "class ConcreteStateA(State):",
    "    def handle(self, ctx: Context) -> None:",
    "        # Transition example A -> B",
    "        ctx.state = ConcreteStateB()",
    "",
    "",
    "class ConcreteStateB(State):",
    "    def handle(self, ctx: Context) -> None:",
    "        # Transition example B -> A",
    "        ctx.state = ConcreteStateA()"]

def strategy : Generator := fixed
  ["from __future__ import annotations",
    "",
    "from abc import ABC, abstractmethod",
    "from typing import Any",
    "",
    "",
    "class Strategy(ABC):",
    "    \"\"\"Abstract strategy defining the algorithm interface.\"\"\"",
    "",
    "    @abstractmethod",
    "    def execute(self, data: Any) -> Any:  # pragma: no cover - scaffold",
    "        raise NotImplementedError",
    "",
    "",
    "class ConcreteStrategyA(Strategy):",
    "    def execute(self, data: Any) -> Any:",
    "        # Example: transform to upper-case string representation",
    "        return str(data).upper()",
    "",
    "",
    "class ConcreteStrategyB(Strategy):",
    "    def execute(self, data: Any) -> Any:",
    "        # Example: reverse string representation",
    "        s = str(data)",
    "        return s[::-1]",
    "",
    "",
    "class Context:",
    "    \"\"\"Holds a strategy and delegates work to it.\"\"\"",
    "",
    "    def __init__(self, strategy: Strategy) -> None:",
    "        self._strategy = strategy",
    "",
    "    def set_strategy(self, strategy: Strategy) -> None:",
    "        self._strategy = strategy",
    "",
    "    def process(self, data: Any) -> Any:",
    "        return self._strategy.execute(data)"]

def templateMethod : Generator := fixed
  ["from abc import ABC, abstractmethod",
    "",
    "",
    "class AbstractWorkflow(ABC):",
    "    def run(self) -> None:",
    "        self.step_one()",
    "        self.step_two()",
    "",
    "    @abstractmethod",
    "    def step_one(self) -> None: ...",
    "",
    "    @abstractmethod",
    "    def step_two(self) -> None: ..."]

def visitor : Generator := fixed
  ["from __future__ import annotations",
    "",
    "from abc import ABC, abstractmethod",
    "",
    "",
    "class Visitor(ABC):",
    "    @abstractmethod",
    "    def visit_element(self, el: Element) -> None:  # pragma: no cover - scaffold",
    "        ...",
    "",
    "",
    "class Element(ABC):",
    "    @abstractmethod",
    "    def accept(self, v: Visitor) -> None: ...",
    "",
    "",
    "class ConcreteElement(Element):",
    "    def accept(self, v: Visitor) -> None:",
    "        v.visit_element(self)"]

end DesignLens.Scaffold.Behavioural
