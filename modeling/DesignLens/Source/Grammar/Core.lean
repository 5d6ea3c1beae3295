import DesignLens.Source.Lexer
import DesignLens.Source.Syntax

/-!
# Ordered-choice parsing

The grammar is written as parsers with ordered choice over a sequence of tokens. A rule that the
grammar calls recursively has a name in `Rule`; its body refers to other rules through a family of
parsers, so that no body is recursive itself. Results of most named rules are remembered per
position.

A parser reports success, an ordinary failure, after which the next alternative is tried, or a
fault, which ends the parse. `Input.hints` switches on the rules that only exist to name faults.
-/

namespace DesignLens.Source

/-- The arguments of a call. -/
structure Arguments where
  positional : List Expr
  keywords : List Keyword

/-- The rules that are called recursively or remembered. -/
inductive Rule where
  | statements | simpleStmt | block
  | expression | starExpressions | starExpression | starNamedExpression | namedExpression
  | misusedAssignment
  | disjunction | conjunction | inversion
  | bitwiseOr | bitwiseXor | bitwiseAnd | shift | sum | term | factor
  | awaitPrimary | primary | atom | strings
  | list | tuple | generatorExp | arguments | slices | yieldExpr
  | starTarget | targetWithStarAtom | starTargets | singleTarget | targetPrimary | deleteTarget
  | dottedName | annotatedTarget
  | pattern | closedPattern | starPattern | nameOrAttribute
  deriving DecidableEq, Repr

/-- What a rule yields. -/
abbrev Rule.Out : Rule → Type
  | .statements | .block => List Stmt
  | .simpleStmt => Stmt
  | .arguments => Arguments
  | .dottedName => String
  | .misusedAssignment => Unit
  | .pattern | .closedPattern | .starPattern => Pattern
  | _ => Expr

/-- A place between two tokens. -/
structure Place where
  position : Nat
  /-- The tokens before the place, the last one first. -/
  behind : List Token
  ahead : List Token

/-- The last token before a place that is not layout. -/
def Place.last? (c : Place) : Option Token := c.behind.find? (!·.kind.isLayout)

/-- A remembered result: the value and the place after it, or the knowledge of failure. -/
structure Memo where
  rule : Rule
  result : Option (rule.Out × Place)

/-- Remembered results by position, the furthest position first. -/
abbrev Notes : Type := List (Nat × List Memo)

def Notes.find? (position : Nat) (r : Rule) : Notes → Option Memo
  | [] => none
  | (p, memos) :: rest =>
    bif p.ble position then
      bif position.ble p then memos.find? (·.rule.ctorIdx.beq r.ctorIdx) else none
    else Notes.find? position r rest

def Notes.add (position : Nat) (m : Memo) : Notes → Notes
  | [] => [(position, [m])]
  | (p, memos) :: rest =>
    bif p.ble position then
      bif position.ble p then (p, m :: memos) :: rest else (position, [m]) :: (p, memos) :: rest
    else (p, memos) :: Notes.add position m rest

/-- What a parser reads. -/
structure Input extends Lexed where
  /-- Faults are to be named. -/
  hints : Bool

structure State where
  place : Place
  /-- How many tokens have been asked for so far, in this and the previous pass. -/
  seen : Nat
  notes : Notes

/-- Why a parse was given up. -/
inductive Halt where
  /-- The lexer could not deliver the next token. -/
  | lexical (fault : LexFault)
  /-- The grammar refused the text after asking for `seen` tokens. -/
  | grammatical (fault : Fault) (seen : Nat)

inductive Outcome (α : Type) where
  | ok (value : α) (state : State)
  | fail (state : State)
  | halt (reason : Halt)

def Reader (α : Type) : Type := Input → State → Outcome α

abbrev Family : Type := (r : Rule) → Reader r.Out

namespace Reader

variable {α β : Type}

def pure (a : α) : Reader α := fun _ s => .ok a s

def bind (p : Reader α) (f : α → Reader β) : Reader β := fun input s =>
  match p input s with
  | .ok a s' => f a input s'
  | .fail s' => .fail s'
  | .halt reason => .halt reason

instance : Monad Reader where
  pure := pure
  bind := bind

def fail : Reader α := fun _ s => .fail s

/-- Ordered choice: the second alternative is tried at the same position if the first fails. -/
def orElse (p : Reader α) (q : Unit → Reader α) : Reader α := fun input ⟨place, seen, notes⟩ =>
  match p input ⟨place, seen, notes⟩ with
  | .fail ⟨_, seen, notes⟩ => q () input ⟨place, seen, notes⟩
  | r => r

instance : OrElse (Reader α) := ⟨orElse⟩

/-- The token at the current position; it becomes a token that has been asked for. -/
def peek : Reader Token := fun input ⟨⟨position, behind, ahead⟩, seen, notes⟩ =>
  match ahead with
  | t :: rest => .ok t ⟨⟨position, behind, t :: rest⟩, max seen (position + 1), notes⟩
  | [] =>
    match input.fault with
    | some fault => .halt (.lexical fault)
    | none => .fail ⟨⟨position, behind, []⟩, seen, notes⟩

/-- Takes the next token. -/
def skip : Reader Unit := fun _ ⟨⟨position, behind, ahead⟩, seen, notes⟩ =>
  match ahead with
  | t :: rest => .ok () ⟨⟨position + 1, t :: behind, rest⟩, seen, notes⟩
  | [] => .fail ⟨⟨position, behind, []⟩, seen, notes⟩

/-- Takes the next token if it passes a test. -/
def satisfy (p : Token → Bool) : Reader Token :=
  fun input ⟨⟨position, behind, ahead⟩, seen, notes⟩ =>
    match ahead with
    | t :: rest =>
      bif p t then .ok t ⟨⟨position + 1, t :: behind, rest⟩, max seen (position + 1), notes⟩
      else .fail ⟨⟨position, behind, t :: rest⟩, max seen (position + 1), notes⟩
    | [] =>
      match input.fault with
      | some fault => .halt (.lexical fault)
      | none => .fail ⟨⟨position, behind, []⟩, seen, notes⟩

/-- The given operator or keyword. -/
def tok (text : String) : Reader Token := satisfy (·.is text)

def kind (k : TokenKind) : Reader Token := satisfy (·.kind == k)

def identifier : Reader Token := satisfy (·.isIdentifier)

/-- A name that is only reserved in this place. -/
def softKeyword (text : String) : Reader Token :=
  satisfy fun t => t.isIdentifier && t.spells text

/-- Succeeds where `p` does, without moving. -/
def ahead (p : Reader α) : Reader Unit := fun input ⟨place, seen, notes⟩ =>
  match p input ⟨place, seen, notes⟩ with
  | .ok _ ⟨_, seen, notes⟩ => .ok () ⟨place, seen, notes⟩
  | .fail ⟨_, seen, notes⟩ => .fail ⟨place, seen, notes⟩
  | .halt reason => .halt reason

/-- Succeeds where `p` fails, without moving. -/
def notAhead (p : Reader α) : Reader Unit := fun input ⟨place, seen, notes⟩ =>
  match p input ⟨place, seen, notes⟩ with
  | .ok _ ⟨_, seen, notes⟩ => .fail ⟨place, seen, notes⟩
  | .fail ⟨_, seen, notes⟩ => .ok () ⟨place, seen, notes⟩
  | .halt reason => .halt reason

def optional (p : Reader α) : Reader (Option α) := fun input ⟨place, seen, notes⟩ =>
  match p input ⟨place, seen, notes⟩ with
  | .ok a s => .ok (some a) s
  | .fail ⟨_, seen, notes⟩ => .ok none ⟨place, seen, notes⟩
  | .halt reason => .halt reason

def manyLoop (p : Reader α) : Nat → List α → Reader (List α)
  | 0, acc => pure acc.reverse
  | fuel + 1, acc => fun input ⟨place, seen, notes⟩ =>
    match p input ⟨place, seen, notes⟩ with
    | .ok a s => manyLoop p fuel (a :: acc) input s
    | .fail ⟨_, seen, notes⟩ => .ok acc.reverse ⟨place, seen, notes⟩
    | .halt reason => .halt reason

/-- As many as there are. Every repetition takes a token, so their number is bounded. -/
def many (p : Reader α) : Reader (List α) := fun input s =>
  manyLoop p (input.tokens.size + 1) [] input s

def many1 (p : Reader α) : Reader (List α) := do
  let a ← p
  return a :: (← many p)

/-- One or more, with a separator between them. -/
def sepBy1 (p : Reader α) (separator : String) : Reader (List α) := do
  let a ← p
  return a :: (← many (do discard (tok separator); p))

/-- The first alternative that succeeds. -/
def choice : List (Reader α) → Reader α
  | [] => fail
  | p :: ps => orElse p fun _ => choice ps

/-- Once the first parser has succeeded, the choice is made. -/
def committed (p : Reader α) (q : α → Reader β) (otherwise : Reader β) : Reader β :=
  fun input ⟨place, seen, notes⟩ =>
    match p input ⟨place, seen, notes⟩ with
    | .ok a s => q a input s
    | .fail ⟨_, seen, notes⟩ => otherwise input ⟨place, seen, notes⟩
    | .halt reason => .halt reason

/-- An alternative that is tried only when faults are to be named. -/
def hint (p : Reader α) : Reader α := fun input s =>
  if input.hints then p input s else .fail s

def withoutHints (p : Reader α) : Reader α := fun input s => p { input with hints := false } s

/-- Gives up with a fault on the given line. -/
def raiseAt (cause : Cause) (line : Nat) : Reader α := fun _ s =>
  .halt (.grammatical ⟨cause, some line⟩ s.seen)

/-- Gives up with a fault on the line of the last token that has been asked for. -/
def raiseHere (cause : Cause) : Reader α := fun input s =>
  let line := (input.tokens[s.seen - 1]?).elim 0 (·.span.line)
  .halt (.grammatical ⟨cause, some line⟩ s.seen)

/-- The given operator or keyword, or a fault. -/
def expect (text : String) : Reader Token := do
  let t ← peek
  if t.is text then do skip; return t
  else raiseAt (.expectedToken text) t.span.line

/-- The stretch of source from a token to the last token taken. -/
def spanSince (first : Token) : Reader Span := fun _ s =>
  .ok (first.span.through (s.place.last?.getD first).span) s

/-- Tells a result the stretch of source from its first to its last token. -/
def spanned (p : Reader (Span → α)) : Reader α := do
  let first ← peek
  let f ← p
  return f (← spanSince first)

/-- The nesting of brackets after the last token taken. -/
def depth : Reader Nat := fun _ s => .ok (s.place.behind.head?.elim 0 (·.depth)) s

/-- Remembers the result of a rule at a position. -/
def memoized (r : Rule) (p : Reader r.Out) : Reader r.Out := fun input ⟨place, seen, notes⟩ =>
  match notes.find? place.position r with
  | some ⟨r', result⟩ =>
    if h : r' = r then
      match result with
      | some (a, after) => .ok (h ▸ a) ⟨after, seen, notes⟩
      | none => .fail ⟨place, seen, notes⟩
    else p input ⟨place, seen, notes⟩
  | none =>
    match p input ⟨place, seen, notes⟩ with
    | .ok a ⟨after, seen, notes⟩ =>
      .ok a ⟨after, seen, notes.add place.position ⟨r, some (a, after)⟩⟩
    | .fail ⟨after, seen, notes⟩ =>
      .fail ⟨after, seen, notes.add place.position ⟨r, none⟩⟩
    | .halt reason => .halt reason

end Reader

end DesignLens.Source
