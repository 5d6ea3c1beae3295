import DesignLens.Source.Grammar

/-!
# The classic grammar

Tools that edit a text without disturbing its layout know the grammar as it was before pattern
matching. `Program.isClassic` says whether a program keeps to it: no match statements, no groups
of exceptions, no names given inside the parentheses of a `with`, only dotted names and calls of
them as decorators, and stars and assignments inside expressions only where they always were
allowed.
-/

namespace DesignLens.Source

/-- The last character before a position that is neither blank nor a line end. -/
def charBefore (layout : Layout) (position : Nat) : Option Char :=
  (layout.chars.take position).reverse.find? fun c => c != ' ' && c != '\t' && c != '\n'

/-- A name, or an attribute of a dotted name. -/
def isDottedName : Expr → Bool
  | .name .. => true
  | .attribute _ value _ => isDottedName value
  | _ => false

def isClassicDecorator (layout : Layout) (e : Expr) : Bool :=
  charBefore layout e.span.start == some '@' &&
    match e with
    | .call span function _ _ => isDottedName function && function.span.start == span.start
    | _ => isDottedName e

def hasStar : Expr → Bool
  | .starred .. => true
  | _ => false

/-- Whether something stands between parentheses right where it starts. -/
def isOpen (layout : Layout) (e : Expr) : Bool := charBefore layout e.span.start != some '('

/-- An assignment inside an expression without parentheses. -/
def isBareAssignment (layout : Layout) : Expr → Bool
  | .named span target value => isOpen layout (.named span target value)
  | _ => false

/-- The elements of a tuple without parentheses. -/
def bareElements : Expr → List Expr
  | .tuple span (first :: rest) => if first.span.start = span.start then first :: rest else []
  | _ => []

def isClassicIndex (layout : Layout) (index : Expr) : Bool :=
  !isBareAssignment layout index &&
    (bareElements index).all fun e => !hasStar e && !isBareAssignment layout e

def isClassicNode (layout : Layout) : Node → Bool
  | .stmt (.match_ ..) => false
  | .stmt (.try_ _ isStar ..) => !isStar
  | .stmt (.functionDef d) => d.decorators.all (isClassicDecorator layout)
  | .stmt (.classDef d) => d.decorators.all (isClassicDecorator layout)
  | .stmt (.for_ _ _ _ iterable ..) => (bareElements iterable).all fun e => !hasStar e
  | .parameter p => !(p.typeHint.any hasStar)
  | .expr (.subscript _ _ index) => isClassicIndex layout index
  | .expr (.set _ elements) => elements.all fun e => !isBareAssignment layout e
  | .expr (.setComp _ element _) => !isBareAssignment layout element
  | _ => true

/-- Whether a name is given before the brackets close down to a depth. -/
def givesName (depth : Nat) : List Token → Bool
  | [] => false
  | t :: rest => depth < t.depth && (t.is "as" || givesName depth rest)

/-- Whether no `with` has names inside parentheses. -/
def hasClassicWiths : List Token → Bool
  | [] => true
  | t :: rest =>
    !(t.is "with" && (rest.head?.any fun next => next.is "(") && givesName t.depth rest) &&
      hasClassicWiths rest

def Program.isClassic (p : Program) : Bool :=
  (Node.walkLevels (Node.stmts p.module.body)).all (isClassicNode p.layout) &&
    hasClassicWiths (lex p.layout.chars 1).tokens.toList

end DesignLens.Source
