import DesignLens.Scaffold.Generator

/-!
# Creational scaffolds

Code to start from for patterns that say how objects come into being.
-/

namespace DesignLens.Scaffold.Creational

def abstractFactory : Generator := fixed
  ["from abc import ABC, abstractmethod",
    "",
    "",
    "class AbstractFactory(ABC):",
    "    @abstractmethod",
    "    def create(self): ..."]

def borg : Generator := fixed
  ["class Borg:",
    "    \"\"\"Borg pattern: instances share state via shared __dict__.\"\"\"",
    "",
    "    _shared_state: dict[str, object] = \x7b\x7d",
    "",
    "    def __init__(self) -> None:",
    "        self.__dict__ = self._shared_state",
    "",
    "",
    "class SingletonBorg(Borg):",
    "    \"\"\"A Borg variant providing a convenient default state.\"\"\"",
    "",
    "    def __init__(self, state: str | None = None) -> None:",
    "        super().__init__()",
    "        self.state = state or getattr(self, \"state\", \"default\")",
    "",
    "    def __str__(self) -> str:  # pragma: no cover - scaffold",
    "        return str(getattr(self, \"state\", \"default\"))"]

def builder : Generator := fixed
  ["class Builder:",
    "    def reset(self) -> None: ...",
    "    def step(self) -> None: ...",
    "    def build(self): ..."]

def factory : Generator := described "Factory interface and example implementation."
  ["from __future__ import annotations",
    "from typing import Protocol",
    "",
    "",
    "class Product(Protocol):",
    "    def use(self) -> str: ...",
    "",
    "",
    "class Factory:  # pragma: no cover - scaffold",
    "    def create(self, kind: str) -> Product:",
    "        \"\"\"Create a product by kind.\"\"\"",
    "        raise NotImplementedError",
    "",
    "",
    "class ConcreteA:",
    "    def use(self) -> str:",
    "        return \"A\"",
    "",
    "",
    "class ConcreteB:",
    "    def use(self) -> str:",
    "        return \"B\"",
    "",
    "",
    "class SimpleFactory(Factory):",
    "    def create(self, kind: str) -> Product:",
    "        if kind == \"A\":",
    "            return ConcreteA()",
    "        if kind == \"B\":",
    "            return ConcreteB()",
    "        raise ValueError(f\"unknown kind: \x7bkind\x7d\")"]

def factoryMethod : Generator := fixed
  ["class ProductA: ...",
    "class ProductB: ...",
    "",
    "",
    "def create_product(kind: str):  # pragma: no cover - scaffold",
    "    if kind == \"A\":",
    "        return ProductA()",
    "    elif kind == \"B\":",
    "        return ProductB()",
    "    raise ValueError(f\"Unknown kind: \x7bkind\x7d\")"]

def lazyEvaluation : Generator := fixed
  ["class Lazy:",
    "    def __init__(self, fn): self._fn, self._val, self._done = fn, None, False",
    "    def value(self):",
    "        if not self._done:",
    "            self._val, self._done = self._fn(), True",
    "        return self._val"]

def pool : Generator := fixed
  ["class Pool:",
    "    def __init__(self): self._objs = []",
    "    def acquire(self): return self._objs.pop() if self._objs else object()",
    "    def release(self, obj): self._objs.append(obj)"]

def prototype : Generator := fixed
  ["import copy",
    "",
    "",
    "class Prototype:",
    "    def clone(self):",
    "        return copy.deepcopy(self)"]

def singleton : Generator := fixed
  ["class Singleton:",
    "    _instance = None",
    "",
    "    def __new__(cls, *args, **kwargs):  # pragma: no cover - scaffold",
    "        if cls._instance is None:",
    "            cls._instance = super().__new__(cls)",
    "        return cls._instance"]

end DesignLens.Scaffold.Creational
