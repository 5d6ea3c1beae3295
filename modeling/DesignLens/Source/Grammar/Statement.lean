import DesignLens.Source.Grammar.Pattern

/-!
# Statements

The grammar of simple and compound statements and of blocks.
-/

namespace DesignLens.Source.Grammar

open Reader

variable (g : Family)

/-! ## Simple statements -/

def augmentedOperators : List String :=
  ["+=", "-=", "*=", "@=", "/=", "%=", "&=", "|=", "^=", "<<=", ">>=", "**=", "//="]

def augmentedOperator : Reader Token :=
  satisfy fun t => t.kind == .operator && augmentedOperators.any t.spells

def assignedValue : Reader Expr := choice [g .yieldExpr, g .starExpressions]

def hintedValue : Reader (Option Expr) := optional (do discard (tok "="); assignedValue g)

/-- A list or tuple where an annotated target should stand. -/
def annotatedTarget : Reader Expr := choice
  [g .list,
   g .tuple,
   do
    discard (tok "(")
    let e ← g .annotatedTarget
    discard (tok ")")
    return e]

def faultAssignment {α : Type} : Reader α := hint <| choice
  [do
    let a ← g .annotatedTarget
    discard (tok ":")
    discard (g .expression)
    raiseAt (.notSingleTarget (describe a)) a.span.line,
   do
    let a ← g .starNamedExpression
    discard (tok ",")
    discard (many (starNamedExpressions g))
    discard (tok ":")
    discard (g .expression)
    raiseAt (.notSingleTarget "tuple") a.span.line,
   do
    let a ← g .expression
    discard (tok ":")
    discard (g .expression)
    raiseAt .illegalTypeHint a.span.line,
   do
    discard (many (do discard (g .starTargets); discard (tok "=")))
    let a ← g .starExpressions
    discard (tok "=")
    raiseInvalidTarget .star a,
   do
    discard (many (do discard (g .starTargets); discard (tok "=")))
    let a ← g .yieldExpr
    discard (tok "=")
    raiseAt .assignToYield a.span.line,
   do
    let a ← g .starExpressions
    discard augmentedOperator
    discard (assignedValue g)
    raiseAt (.illegalAugmented (describe a)) a.span.line]

def assignment : Reader Stmt := choice
  [spanned do
    let target ← name
    discard (tok ":")
    let typeHint ← g .expression
    let value ← hintedValue g
    return fun s => .hintedAssign s target typeHint value true,
   spanned do
    let target ← choice
      [do
        discard (tok "(")
        let e ← g .singleTarget
        discard (tok ")")
        return e,
       memberTarget g]
    discard (tok ":")
    let typeHint ← g .expression
    let value ← hintedValue g
    return fun s => .hintedAssign s target typeHint value false,
   spanned do
    let targets ← many1 (do
      let e ← g .starTargets
      discard (tok "=")
      return e)
    let value ← assignedValue g
    notAhead (tok "=")
    return fun s => .assign s targets value,
   do
    let first ← peek
    committed
      (do
        let target ← g .singleTarget
        return (target, ← augmentedOperator))
      (fun (target, op) => do
        let value ← assignedValue g
        return .augAssign (← spanSince first) target op.text value)
      (faultAssignment g)]

def delStmt : Reader Stmt := choice
  [spanned do
    discard (tok "del")
    let targets ← deleteTargets g
    ahead (choice [discard (tok ";"), discard (kind .newline)])
    return fun s => .delete s targets,
   hint do
    discard (tok "del")
    raiseInvalidTarget .delete (← g .starExpressions)]

def dottedName : Reader String := do
  let t ← identifier
  let rest ← many (do
    discard (tok ".")
    identifier)
  return String.intercalate "." (t.text :: rest.map (·.text))

def asName : Reader String := do
  discard (tok "as")
  let t ← identifier
  return t.text

def importName : Reader Stmt := spanned do
  discard (tok "import")
  let names ← sepBy1
    (spanned do
      let n ← g .dottedName
      let a ← optional asName
      return fun s => ImportName.mk n a s) ","
  return fun s => .import_ s names

def importedNames : Reader (List ImportName) := sepBy1
  (spanned do
    let t ← identifier
    let a ← optional asName
    return fun s => ImportName.mk t.text a s) ","

def importTargets : Reader (List ImportName) := choice
  [do
    discard (tok "(")
    let names ← importedNames
    discard (optional (tok ","))
    discard (tok ")")
    return names,
   do
    let names ← importedNames
    notAhead (tok ",")
    return names,
   do
    let t ← tok "*"
    return [⟨"*", none, t.span⟩],
   hint do
    discard importedNames
    discard (tok ",")
    discard (kind .newline)
    raiseHere .trailingImportComma]

def importDots : Reader Nat := do
  let t ← choice [tok ".", tok "..."]
  return t.text.length

def importFrom : Reader Stmt := choice
  [spanned do
    discard (tok "from")
    let dots ← many importDots
    let module ← g .dottedName
    discard (tok "import")
    let names ← importTargets
    return fun s => .importFrom s (some module) names (dots.foldr (· + ·) 0),
   spanned do
    discard (tok "from")
    let dots ← many1 importDots
    discard (tok "import")
    let names ← importTargets
    return fun s => .importFrom s none names (dots.foldr (· + ·) 0)]

def raiseStmt : Reader Stmt := choice
  [spanned do
    discard (tok "raise")
    let exception ← g .expression
    let cause ← optional (do discard (tok "from"); g .expression)
    return fun s => .raise s (some exception) cause,
   spanned do
    discard (tok "raise")
    return fun s => .raise s none none]

def namesAfter (word : String) (make : Span → List String → Stmt) : Reader Stmt := spanned do
  discard (tok word)
  let names ← sepBy1 identifier ","
  return fun s => make s (names.map (·.text))

def bare (word : String) (make : Span → Stmt) : Reader Stmt := do
  let t ← tok word
  return make t.span

def simpleStmt : Reader Stmt := choice
  [assignment g,
   spanned do
    let e ← g .starExpressions
    return fun s => .expr s e,
   spanned do
    discard (tok "return")
    let value ← optional (g .starExpressions)
    return fun s => .return_ s value,
   importName g,
   importFrom g,
   raiseStmt g,
   bare "pass" .pass,
   delStmt g,
   spanned do
    let e ← g .yieldExpr
    return fun s => .expr s e,
   spanned do
    discard (tok "assert")
    let test ← g .expression
    let message ← optional (do discard (tok ","); g .expression)
    return fun s => .assert s test message,
   bare "break" .break_,
   bare "continue" .continue_,
   namesAfter "global" .global,
   namesAfter "nonlocal" .nonlocal]

def simpleStmts : Reader (List Stmt) := choice
  [do
    let s ← g .simpleStmt
    notAhead (tok ";")
    discard (kind .newline)
    return [s],
   do
    let ss ← sepBy1 (g .simpleStmt) ";"
    discard (optional (tok ";"))
    discard (kind .newline)
    return ss]

/-! ## Blocks -/

/-- A header is followed by a line that is not indented. -/
def raiseMissingBlock {α : Type} (header : Header) (line : Nat) : Reader α := do
  discard (kind .newline)
  notAhead (kind .indent)
  raiseHere (.missingBlock (some (header, line)))

def raiseMissingColon {α : Type} : Reader α := do
  discard (kind .newline)
  raiseHere (.expectedToken ":")

def block : Reader (List Stmt) := choice
  [do
    discard (kind .newline)
    discard (kind .indent)
    let body ← g .statements
    discard (kind .dedent)
    return body,
   simpleStmts g,
   hint do
    discard (kind .newline)
    notAhead (kind .indent)
    raiseHere (.missingBlock none)]

/-- The mistakes of a header that is one keyword and an expression. -/
def faultTestHeader {α : Type} (word : String) : Reader α := hint do
  let t ← tok word
  discard (g .namedExpression)
  choice
    [raiseMissingColon,
     do
      discard (tok ":")
      raiseMissingBlock (.statement word) t.span.line]

def faultBareHeader {α : Type} (word : String) : Reader α := hint do
  let t ← tok word
  discard (tok ":")
  raiseMissingBlock (.statement word) t.span.line

def elseBlock : Reader (List Stmt) := choice
  [faultBareHeader "else",
   do
    discard (tok "else")
    discard (expect ":")
    g .block]

/-- The part of a conditional statement from `if` or `elif` on. The fuel bounds the number of
branches. -/
def conditional : Nat → String → Reader Stmt
  | 0, _ => fail
  | fuel + 1, word => choice
    [faultTestHeader g word,
     spanned do
      discard (tok word)
      let test ← g .namedExpression
      discard (tok ":")
      let body ← g .block
      let next ← conditional fuel "elif"
      return fun s => .if_ s test body [next],
     spanned do
      discard (tok word)
      let test ← g .namedExpression
      discard (tok ":")
      let body ← g .block
      let orElse ← optional (elseBlock g)
      return fun s => .if_ s test body (orElse.getD [])]

def ifStmt : Reader Stmt := fun input s =>
  conditional g (input.tokens.size + 1) "if" input s

def whileStmt : Reader Stmt := choice
  [faultTestHeader g "while",
   spanned do
    discard (tok "while")
    let test ← g .namedExpression
    discard (tok ":")
    let body ← g .block
    let orElse ← optional (elseBlock g)
    return fun s => .while_ s test body (orElse.getD [])]

def faultForHeader {α : Type} : Reader α := hint do
  discard (optional (tok "async"))
  let t ← tok "for"
  discard (g .starTargets)
  discard (tok "in")
  discard (g .starExpressions)
  choice
    [raiseMissingColon,
     do
      discard (tok ":")
      raiseMissingBlock (.statement "for") t.span.line]

def forLoop (isAsync : Bool) (otherwise : Reader Stmt) : Reader Stmt := do
  let first ← peek
  committed
    (do
      if isAsync then discard (tok "async")
      discard (tok "for")
      let target ← g .starTargets
      discard (tok "in")
      return target)
    (fun target => do
      let iterable ← g .starExpressions
      discard (tok ":")
      let body ← g .block
      let orElse ← optional (elseBlock g)
      return .for_ (← spanSince first) isAsync target iterable body (orElse.getD []))
    otherwise

def forStmt : Reader Stmt := choice
  [faultForHeader g, forLoop g false (forLoop g true (faultLoopTarget g))]

/-! ## With -/

def withItem : Reader WithItem := choice
  [do
    let context ← g .expression
    discard (tok "as")
    let target ← g .starTarget
    ahead (choice [tok ",", tok ")", tok ":"])
    return ⟨context, some target⟩,
   hint do
    discard (g .expression)
    discard (tok "as")
    let a ← g .expression
    ahead (choice [tok ",", tok ")", tok ":"])
    raiseInvalidTarget .star a,
   do return ⟨← g .expression, none⟩]

/-- The items of a `with` header as they are skipped when faults are looked for. -/
def looseWithItems (parenthesized : Bool) : Reader Unit :=
  let item (e : Reader Expr) : Reader Unit := do
    discard e
    discard (optional (do discard (tok "as"); g .starTarget))
  if parenthesized then do
    discard (tok "(")
    discard (sepBy1 (item (expressions g)) ",")
    discard (optional (tok ","))
    discard (tok ")")
  else discard (sepBy1 (item (g .expression)) ",")

def faultWithIndent {α : Type} : Reader α := hint <| choice <|
  [false, true].map fun parenthesized => do
    discard (optional (tok "async"))
    let t ← tok "with"
    looseWithItems g parenthesized
    discard (tok ":")
    raiseMissingBlock (.statement "with") t.span.line

def faultWithColon {α : Type} : Reader α := hint <| choice <|
  [false, true].map fun parenthesized => do
    discard (optional (tok "async"))
    discard (tok "with")
    looseWithItems g parenthesized
    raiseMissingColon

def withHeader (isAsync parenthesized : Bool) : Reader Stmt := spanned do
  if isAsync then discard (tok "async")
  discard (tok "with")
  if parenthesized then discard (tok "(")
  let items ← sepBy1 (withItem g) ","
  if parenthesized then
    discard (optional (tok ","))
    discard (tok ")")
  discard (tok ":")
  let body ← g .block
  return fun s => .with_ s isAsync items body

def withStmt : Reader Stmt := choice
  [faultWithIndent g,
   withHeader g false true,
   withHeader g false false,
   withHeader g true true,
   withHeader g true false,
   faultWithColon g]

/-! ## Try -/

def exceptName : Reader (Option String) := optional asName

def faultHandlerIndent {α : Type} : Reader α := hint <| choice
  [do
    let t ← tok "except"
    discard (g .expression)
    discard exceptName
    discard (tok ":")
    raiseMissingBlock (.statement "except") t.span.line,
   do
    let t ← tok "except"
    discard (tok ":")
    raiseMissingBlock (.statement "except") t.span.line]

def faultStarHandlerIndent {α : Type} : Reader α := hint do
  let t ← tok "except"
  discard (tok "*")
  discard (g .expression)
  discard exceptName
  discard (tok ":")
  raiseMissingBlock (.statement "except*") t.span.line

def faultHandler {α : Type} : Reader α := hint <| choice
  [do
    discard (tok "except")
    discard (optional (tok "*"))
    let a ← g .expression
    discard (tok ",")
    discard (expressions g)
    discard exceptName
    discard (tok ":")
    raiseAt .unparenthesizedExceptions a.span.line,
   do
    discard (tok "except")
    discard (optional (tok "*"))
    discard (g .expression)
    discard exceptName
    raiseMissingColon,
   do
    discard (tok "except")
    raiseMissingColon,
   do
    discard (tok "except")
    discard (tok "*")
    choice [discard (kind .newline), discard (tok ":")]
    raiseHere .missingExceptionType]

def exceptBlock : Reader Handler := choice
  [faultHandlerIndent g,
   spanned do
    discard (tok "except")
    let type ← g .expression
    let as_ ← exceptName
    discard (tok ":")
    let body ← g .block
    return fun s => ⟨s, some type, as_, body⟩,
   spanned do
    discard (tok "except")
    discard (tok ":")
    let body ← g .block
    return fun s => ⟨s, none, none, body⟩,
   faultHandler g]

def exceptStarBlock : Reader Handler := choice
  [faultStarHandlerIndent g,
   spanned do
    discard (tok "except")
    discard (tok "*")
    let type ← g .expression
    let as_ ← exceptName
    discard (tok ":")
    let body ← g .block
    return fun s => ⟨s, some type, as_, body⟩,
   faultHandler g]

def finallyBlock : Reader (List Stmt) := choice
  [faultBareHeader "finally",
   do
    discard (tok "finally")
    discard (expect ":")
    g .block]

def faultTry {α : Type} : Reader α := hint <| choice
  [faultBareHeader "try",
   do
    discard (tok "try")
    discard (tok ":")
    discard (g .block)
    notAhead (choice [tok "except", tok "finally"])
    raiseHere .missingHandler,
   do
    discard (tok "try")
    discard (tok ":")
    discard (many (g .block))
    discard (many1 (exceptBlock g))
    let t ← tok "except"
    discard (tok "*")
    discard (g .expression)
    discard exceptName
    discard (tok ":")
    raiseAt .mixedHandlers t.span.line,
   do
    discard (tok "try")
    discard (tok ":")
    discard (many (g .block))
    discard (many1 (exceptStarBlock g))
    let t ← tok "except"
    discard (optional (do discard (g .expression); discard exceptName))
    discard (tok ":")
    raiseAt .mixedHandlers t.span.line]

def tryHead : Reader (List Stmt) := do
  discard (tok "try")
  discard (expect ":")
  g .block

def tryStmt : Reader Stmt := choice
  [faultTry g,
   spanned do
    let body ← tryHead g
    let final ← finallyBlock g
    return fun s => .try_ s false body [] [] final,
   spanned do
    let body ← tryHead g
    let handlers ← many1 (exceptBlock g)
    let orElse ← optional (elseBlock g)
    let final ← optional (finallyBlock g)
    return fun s => .try_ s false body handlers (orElse.getD []) (final.getD []),
   spanned do
    let body ← tryHead g
    let handlers ← many1 (exceptStarBlock g)
    let orElse ← optional (elseBlock g)
    let final ← optional (finallyBlock g)
    return fun s => .try_ s true body handlers (orElse.getD []) (final.getD [])]

/-! ## Match -/

def subject : Reader Expr := choice
  [spanned do
    let a ← g .starNamedExpression
    discard (tok ",")
    let rest ← optional (starNamedExpressions g)
    return fun s => .tuple s (a :: rest.getD []),
   g .namedExpression]

def guard : Reader Expr := do
  discard (tok "if")
  g .namedExpression

def caseBlock : Reader MatchCase := choice
  [hint do
    let t ← softKeyword "case"
    discard (patterns g)
    discard (optional (guard g))
    choice
      [raiseMissingColon,
       do
        discard (tok ":")
        raiseMissingBlock (.statement "case") t.span.line],
   do
    discard (softKeyword "case")
    let p ← patterns g
    let test ← optional (guard g)
    discard (tok ":")
    let body ← g .block
    return ⟨p, test, body⟩]

def matchStmt : Reader Stmt := choice
  [spanned do
    discard (softKeyword "match")
    let value ← subject g
    discard (tok ":")
    discard (kind .newline)
    discard (kind .indent)
    let cases ← many1 (caseBlock g)
    discard (kind .dedent)
    return fun s => .match_ s value cases,
   hint do
    let t ← softKeyword "match"
    discard (subject g)
    choice
      [raiseMissingColon,
       do
        discard (tok ":")
        raiseMissingBlock (.statement "match") t.span.line]]

/-! ## Definitions -/

def decorators : Reader (List Expr) := many1 do
  discard (tok "@")
  let e ← g .namedExpression
  discard (kind .newline)
  return e

def returnHint : Reader (Option Expr) := optional (do discard (tok "->"); g .expression)

def faultFunction {α : Type} : Reader α := hint do
  discard (optional (tok "async"))
  let t ← tok "def"
  discard identifier
  discard (tok "(")
  discard (optional ((functionStyle g).parameters g))
  discard (tok ")")
  discard (returnHint g)
  discard (tok ":")
  raiseMissingBlock .function t.span.line

def functionAfter (isAsync : Bool) (decorators : List Expr) : Reader Stmt := spanned do
  if isAsync then discard (tok "async")
  discard (tok "def")
  let t ← identifier
  discard (expect "(")
  let parameters ← optional ((functionStyle g).parameters g)
  let closing ← tok ")"
  let returns ← returnHint g
  discard (expect ":")
  let body ← g .block
  return fun s => .functionDef
    { span := s, isAsync, name := t.text, parameters := parameters.getD noParameters, body,
      decorators, returns, signatureEnd := closing.span.stop }

def functionRaw (decorators : List Expr) : Reader Stmt := choice
  [faultFunction g, functionAfter g false decorators, functionAfter g true decorators]

def functionDef : Reader Stmt := choice
  [do functionRaw g (← decorators g), functionRaw g []]

def classArguments : Reader (Option Arguments) := do
  let inner ← optional (do
    discard (tok "(")
    let a ← optional (g .arguments)
    discard (tok ")")
    return a)
  return inner.join

def classRaw (decorators : List Expr) : Reader Stmt := choice
  [hint do
    let t ← tok "class"
    discard identifier
    discard (classArguments g)
    choice
      [raiseMissingColon,
       do
        discard (tok ":")
        raiseMissingBlock .class_ t.span.line],
   spanned do
    discard (tok "class")
    let t ← identifier
    let a ← classArguments g
    discard (tok ":")
    let body ← g .block
    return fun s => .classDef
      { span := s, name := t.text, bases := a.elim [] (·.positional),
        keywords := a.elim [] (·.keywords), body, decorators }]

def classDef : Reader Stmt := choice
  [do classRaw g (← decorators g), classRaw g []]

/-- A statement of the given kind, where one of the words stands. -/
def atWord (words : List String) (p : Reader Stmt) : Reader Stmt := do
  ahead (satisfy fun t => words.any t.is)
  p

def compoundStmt : Reader Stmt := choice
  [atWord ["def", "@", "async"] (functionDef g),
   atWord ["if"] (ifStmt g),
   atWord ["class", "@"] (classDef g),
   atWord ["with", "async"] (withStmt g),
   atWord ["for", "async"] (forStmt g),
   atWord ["try"] (tryStmt g),
   atWord ["while"] (whileStmt g),
   matchStmt g]

/-- A compound statement, or the simple statements of a line. -/
def statementGroup : Reader (List Stmt) := choice
  [do return [← compoundStmt g],
   simpleStmts g]

def statements : Reader (List Stmt) := do
  let groups ← many1 (statementGroup g)
  return groups.flatten

end DesignLens.Source.Grammar
