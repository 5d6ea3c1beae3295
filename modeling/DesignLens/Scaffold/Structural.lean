import DesignLens.Scaffold.Generator

/-!
# Structural scaffolds

Code to start from for patterns that say how objects are put together.
-/

namespace DesignLens.Scaffold.Structural

def adapter : Generator := fixed
  ["class Target:",
    "    def request(self) -> str:  # pragma: no cover - scaffold",
    "        return \"target\"",
    "",
    "",
    "class Adaptee:",
    "    def specific_request(self) -> str:",
    "        return \"adaptee\"",
    "",
    "",
    "class Adapter(Target):",
    "    def __init__(self, adaptee: Adaptee) -> None:",
    "        self._adaptee = adaptee",
    "",
    "    def request(self) -> str:",
    "        return self._adaptee.specific_request()"]

def bridge : Generator := fixed
  ["from abc import ABC, abstractmethod",
    "",
    "",
    "class Implementor(ABC):",
    "    @abstractmethod",
    "    def op_impl(self) -> str: ...",
    "",
    "",
    "class ConcreteImplA(Implementor):",
    "    def op_impl(self) -> str:",
    "        return \"A\"",
    "",
    "",
    "class Abstraction:",
    "    def __init__(self, impl: Implementor) -> None:",
    "        self._impl = impl",
    "",
    "    def op(self) -> str:",
    "        return f\"Abstraction->\" + self._impl.op_impl()"]

def composite : Generator := fixed
  ["from typing import Iterable",
    "",
    "",
    "class Component:",
    "    def op(self) -> str: return \"\"",
    "",
    "",
    "class Leaf(Component):",
    "    def op(self) -> str: return \"leaf\"",
    "",
    "",
    "class Composite(Component):",
    "    def __init__(self, children: Iterable[Component]):",
    "        self.children = list(children)",
    "",
    "    def op(self) -> str:",
    "        return \"+\".join(c.op() for c in self.children)"]

def decorator : Generator := fixed
  ["from typing import Protocol, runtime_checkable",
    "",
    "",
    "@runtime_checkable",
    "class Component(Protocol):",
    "    def op(self) -> str: ...",
    "",
    "",
    "class Concrete(Component):",
    "    def op(self) -> str:",
    "        return \"base\"",
    "",
    "",
    "class Decorator(Component):",
    "    def __init__(self, inner: Component) -> None:",
    "        self._inner = inner",
    "",
    "    def op(self) -> str:",
    "        return self._inner.op()"]

def delegationPattern : Generator := fixed
  ["class Real:",
    "    def op(self) -> str: return \"real\"",
    "",
    "",
    "class Delegator:",
    "    def __init__(self, real: Real): self._real = real",
    "    def op(self) -> str: return self._real.op()"]

def dependencyInjection : Generator := fixed
  ["class Container:",
    "    def __init__(self): self._deps = \x7b\x7d",
    "    def register(self, key: str, dep): self._deps[key] = dep",
    "    def resolve(self, key: str): return self._deps[key]"]

def facade : Generator := fixed
  ["class _SubsystemA:",
    "    def op_a(self) -> str:",
    "        return \"A\"",
    "",
    "",
    "class _SubsystemB:",
    "    def op_b(self) -> str:",
    "        return \"B\"",
    "",
    "",
    "class Facade:",
    "    \"\"\"Simplified interface orchestrating multiple subsystems.\"\"\"",
    "",
    "    def __init__(self) -> None:",
    "        self._a = _SubsystemA()",
    "        self._b = _SubsystemB()",
    "",
    "    def do(self) -> str:",
    "        # Minimal orchestration example",
    "        return f\"\x7bself._a.op_a()\x7d-\x7bself._b.op_b()\x7d\""]

def facadeFunction : Generator := fixed
  ["def facade_function(*args, **kwargs):  # pragma: no cover - scaffold",
    "    \"\"\"A thin facade function orchestrating multiple collaborators.\"\"\"",
    "    # TODO: call into subsystems and aggregate results",
    "    raise NotImplementedError"]

def flyweight : Generator := fixed
  ["# Module-level cache for flyweight instances",
    "_CACHE: dict[str, object] = \x7b\x7d",
    "",
    "",
    "def get_flyweight(key: str) -> object:  # pragma: no cover - scaffold",
    "    # Return cached instance or create and store a new one.",
    "    if key in _CACHE:",
    "        return _CACHE[key]",
    "    obj = object()",
    "    _CACHE[key] = obj",
    "    return obj"]

def frontController : Generator := fixed
  ["class FrontController:",
    "    def __init__(self, dispatcher):",
    "        self.dispatcher = dispatcher",
    "",
    "    def handle(self, request):  # pragma: no cover - scaffold",
    "        # preprocess and dispatch",
    "        return self.dispatcher.dispatch(request)"]

def mvc : Generator := fixed
  ["class Model:",
    "    def __init__(self):",
    "        self._value = 0",
    "",
    "    def get_value(self) -> int:",
    "        return self._value",
    "",
    "    def set_value(self, v: int) -> None:",
    "        self._value = v",
    "",
    "",
    "class View:",
    "    def render(self, value: int) -> str:  # pragma: no cover - scaffold",
    "        return f\"Value: \x7bvalue\x7d\"",
    "",
    "",
    "class Controller:",
    "    def __init__(self, model: Model, view: View) -> None:",
    "        self.model, self.view = model, view",
    "",
    "    def increment(self) -> None:",
    "        self.model.set_value(self.model.get_value() + 1)",
    "",
    "    def show(self) -> str:",
    "        return self.view.render(self.model.get_value())"]

def proxy : Generator := fixed
  ["class Subject:",
    "    def op(self) -> str: return \"real\"",
    "",
    "",
    "class Proxy(Subject):",
    "    def __init__(self, real: Subject) -> None:",
    "        self._real = real",
    "",
    "    def op(self) -> str:",
    "        # access control / caching cross-cutting",
    "        return self._real.op()"]

end DesignLens.Scaffold.Structural
