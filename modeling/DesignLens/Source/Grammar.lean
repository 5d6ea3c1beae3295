import DesignLens.Source.Grammar.Statement

/-!
# Parsing a source text

`Program.parse` reads a text as a Python module. A first pass follows the grammar alone. If it
fails, a second pass also tries the rules that recognise known mistakes. If no rule names the
mistake, the last token that the first pass asked for is to blame.

A fault that the lexer announces anywhere in the text outranks every fault of the grammar, and so
does a bracket that is left open before the last token asked for.
-/

namespace DesignLens.Source

open Reader

/-- Whether the lexer announced a fault decides how it is worded inside a replacement field. -/
structure Verdict where
  fault : Fault
  announced : Bool

/-- The state before the first token, after earlier passes. -/
def State.initial (tokens : Array Token) (seen : Nat) : State :=
  ⟨⟨0, [], tokens.toList⟩, seen, []⟩

def lineOf (input : Lexed) (index : Nat) : Nat := (input.tokens[index]?).elim 0 (·.span.line)

/-- A fault of the grammar, unless the rest of the text has a fault that outranks it. -/
def outranked (input : Lexed) (fault : Fault) (seen : Nat) : Verdict :=
  match input.fault with
  | none => ⟨fault, false⟩
  | some later =>
    if later.announced then ⟨later.fault, true⟩
    else
      match later.bracket with
      | some (opening, line) =>
        if line < lineOf input (seen - 1) then ⟨⟨.unclosedBracket opening, some line⟩, false⟩
        else ⟨fault, false⟩
      | none => ⟨fault, false⟩

def Halt.verdict (input : Lexed) : Halt → Verdict
  | .lexical later => ⟨later.fault, later.announced⟩
  | .grammatical fault seen => outranked input fault seen

/-- The fault of a text in which no rule recognises a mistake. -/
def unnamedFault (input : Lexed) (last : Option Token) (seen : Nat) : Verdict :=
  match last with
  | none => ⟨⟨.invalidSyntax, some 1⟩, false⟩
  | some t =>
    let line := some (lineOf input (seen - 1))
    if t.kind = .indent then ⟨⟨.unexpectedIndent, line⟩, false⟩
    else if t.kind = .dedent then ⟨⟨.unexpectedUnindent, line⟩, false⟩
    else outranked input ⟨.invalidSyntax, some t.span.line⟩ seen

/-- Both passes of a parser over a lexed text. -/
def settle {α : Type} (p : Reader α) (input : Lexed) : Except Verdict α :=
  match p ⟨input, false⟩ (State.initial input.tokens 0) with
  | .ok a _ => .ok a
  | .halt reason => .error (reason.verdict input)
  | .fail s =>
    let last := input.tokens[s.seen - 1]?
    match p ⟨input, true⟩ (State.initial input.tokens s.seen) with
    | .halt reason => .error (reason.verdict input)
    | .ok _ s' | .fail s' => .error (unnamedFault input last s'.seen)

/-- The expression of a replacement field. -/
def embedded (g : Family) : Embed := fun chars line =>
  (settle (g .starExpressions) (lex chars line)).mapError fun v =>
    if v.announced then v.fault else { v.fault with cause := .inField v.fault.cause }

open Grammar in
/-- The body of each rule in terms of the family of all rules. -/
def ruleBody (g : Family) : Family
  | .statements => statements g
  | .simpleStmt => memoized .simpleStmt (simpleStmt g)
  | .block => memoized .block (block g)
  | .expression => memoized .expression (expression g)
  | .starExpressions => starExpressions g
  | .starExpression => memoized .starExpression (starExpression g)
  | .starNamedExpression => starNamedExpression g
  | .namedExpression => namedExpression g
  | .misusedAssignment => memoized .misusedAssignment (misusedAssignment g)
  | .disjunction => memoized .disjunction (disjunction g)
  | .conjunction => memoized .conjunction (conjunction g)
  | .inversion => memoized .inversion (inversion g)
  | .bitwiseOr => memoized .bitwiseOr (bitwiseOr g)
  | .bitwiseXor => memoized .bitwiseXor (bitwiseXor g)
  | .bitwiseAnd => memoized .bitwiseAnd (bitwiseAnd g)
  | .shift => memoized .shift (shift g)
  | .sum => memoized .sum (sum g)
  | .term => memoized .term (term g)
  | .factor => memoized .factor (factor g)
  | .awaitPrimary => memoized .awaitPrimary (awaitPrimary g)
  | .primary => memoized .primary (primary g)
  | .atom => atom g
  | .strings => memoized .strings (strings (embedded g))
  | .list => list g
  | .tuple => tuple g
  | .generatorExp => generatorExp g
  | .arguments => memoized .arguments (arguments g)
  | .slices => slices g
  | .yieldExpr => yieldExpr g
  | .starTarget => memoized .starTarget (starTarget g)
  | .targetWithStarAtom => memoized .targetWithStarAtom (targetWithStarAtom g)
  | .starTargets => starTargets g
  | .singleTarget => singleTarget g
  | .targetPrimary => memoized .targetPrimary (targetPrimary g)
  | .deleteTarget => memoized .deleteTarget (deleteTarget g)
  | .dottedName => memoized .dottedName dottedName
  | .annotatedTarget => annotatedTarget g
  | .pattern => pattern g
  | .closedPattern => memoized .closedPattern (closedPattern g)
  | .starPattern => memoized .starPattern starPattern
  | .nameOrAttribute => memoized .nameOrAttribute nameOrAttribute

/-- The family of all rules to a bounded depth of recursion. -/
def rules : Nat → Family
  | 0 => fun _ => Reader.fail
  | depth + 1 => fun r => ruleBody (rules depth) r

/-- The recursion of the rules passes through at most a few dozen of them between two tokens, so
that no text that can be written down comes near this depth. -/
def depthBound : Nat := Nat.pow 2 62

/-- The rules of the language. -/
def grammar : Family := rules depthBound

/-- A source text with its tree. -/
structure Program where
  layout : Layout
  module : Module

def parseModule (g : Family) : Reader Module := do
  let body ← optional (g .statements)
  discard (kind .finish)
  return ⟨body.getD []⟩

def Program.parse (text : String) : Except Fault Program :=
  if text.toList.contains (Char.ofNat 0) then .error ⟨.nullByte, none⟩
  else
    let layout := Layout.ofText text
    ((settle (parseModule grammar) (lex layout.chars 1)).map fun m => ⟨layout, m⟩).mapError
      (·.fault)

/-- The text of a stretch as it was written. -/
def Program.segment (p : Program) (span : Span) : String := p.layout.segment span

end DesignLens.Source
