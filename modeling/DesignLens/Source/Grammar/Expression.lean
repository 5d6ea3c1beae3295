import DesignLens.Source.Grammar.Literal

/-!
# Expressions

The grammar of expressions, calls, comprehensions and displays. Every rule takes the family `g` of
all named rules. Rules whose name starts with `fault` never succeed: they recognise a known
mistake and name it, or fail.
-/

namespace DesignLens.Source.Grammar

open Reader

/-- A name as an expression. -/
def name : Reader Expr := do
  let t ← identifier
  return .name t.span t.text

/-- What an expression is called in the report of a fault. -/
def describe : Expr → String
  | .attribute .. => "attribute"
  | .subscript .. => "subscript"
  | .starred .. => "starred"
  | .name .. => "name"
  | .list .. => "list"
  | .tuple .. => "tuple"
  | .lambda .. => "lambda"
  | .call .. => "function call"
  | .boolOp .. | .binary .. | .unary .. => "expression"
  | .generator .. => "generator expression"
  | .yield .. | .yieldFrom .. => "yield expression"
  | .await .. => "await expression"
  | .listComp .. => "list comprehension"
  | .setComp .. => "set comprehension"
  | .dictComp .. => "dict comprehension"
  | .dict .. => "dict literal"
  | .set .. => "set display"
  | .joined .. | .formatted .. => "f-string expression"
  | .constant _ .none => "None"
  | .constant _ (.bool true) => "True"
  | .constant _ (.bool false) => "False"
  | .constant _ .ellipsis => "ellipsis"
  | .constant .. => "literal"
  | .compare .. => "comparison"
  | .conditional .. => "conditional expression"
  | .named .. => "named expression"
  | .slice .. => "slice"

/-- Names that used to start statements of their own. -/
def isLegacyStatement : Expr → Bool
  | .name _ id => id == "print" || id == "exec"
  | _ => false

/-! ## Parameters -/

/-- Function and lambda parameters differ in annotations and in what closes the list. -/
structure ParameterStyle where
  owner : ParameterOwner
  parameter : Reader Parameter
  starred : Reader Parameter
  closing : String

def functionStyle (g : Family) : ParameterStyle :=
  let named (typeHint : Reader (Option Expr)) : Reader Parameter := do
    let t ← identifier
    return ⟨t.text, ← typeHint, t.span⟩
  { owner := .function
    parameter := named (optional (do discard (tok ":"); g .expression))
    starred := named (do discard (tok ":"); return some (← g .starExpression))
    closing := ")" }

def lambdaStyle : ParameterStyle :=
  { owner := .lambda
    parameter := do
      let t ← identifier
      return ⟨t.text, none, t.span⟩
    starred := fail
    closing := ":" }

namespace ParameterStyle

variable (style : ParameterStyle) (g : Family)

/-- A parameter is followed by a comma or by the end of the list. -/
def ended : Reader Unit :=
  (do discard (tok ",")) <|> ahead (tok style.closing)

def default : Reader Expr := do
  discard (tok "=")
  g .expression

def plain : Reader Parameter := do
  let p ← style.parameter
  style.ended
  return p

def plainStarred : Reader Parameter := do
  let p ← style.starred
  style.ended
  return p

def defaulted : Reader (Parameter × Expr) := do
  let p ← style.parameter
  let d ← default g
  style.ended
  return (p, d)

def maybeDefaulted : Reader (Parameter × Option Expr) := do
  let p ← style.parameter
  let d ← Reader.optional (default g)
  style.ended
  return (p, d)

def slash : Reader Unit := do
  discard (tok "/")
  style.ended

def slashPlain : Reader (List Parameter) := do
  let ps ← many1 style.plain
  style.slash
  return ps

def slashDefaulted : Reader (List Parameter × List (Parameter × Expr)) := do
  let ps ← many style.plain
  let ds ← many1 (style.defaulted g)
  style.slash
  return (ps, ds)

def faultDoubleStar : Reader (Option Parameter) := hint do
  discard (tok "**")
  discard style.parameter
  choice
    [do let t ← tok "="; raiseAt .doubleStarDefault t.span.line,
     do discard (tok ","); let p ← style.parameter; raiseAt .afterDoubleStar p.nameSpan.line,
     do
      discard (tok ",")
      let t ← choice [tok "*", tok "**", tok "/"]
      raiseAt .afterDoubleStar t.span.line]

def doubleStar : Reader (Option Parameter) :=
  style.faultDoubleStar <|> do
    discard (tok "**")
    return some (← style.plain)

/-- The parameters from the first star on. -/
structure StarPart where
  star : Option Parameter
  keywordOnly : List (Parameter × Option Expr)
  doubleStar : Option Parameter

def faultStar : Reader StarPart := hint <| choice
  [do
    let star ← tok "*"
    choice
      [do discard (tok style.closing),
       do
        discard (tok ",")
        choice [do discard (tok style.closing), do discard (tok "**")]]
    match style.owner with
    | .function => raiseAt .bareStar star.span.line
    | .lambda => raiseHere .bareStar,
   do
    discard (tok "*")
    discard style.parameter
    let t ← tok "="
    raiseAt .starDefault t.span.line,
   do
    discard (tok "*")
    choice [discard style.plain, discard (tok ",")]
    discard (many (style.maybeDefaulted g))
    let t ← tok "*"
    choice [discard style.plain, discard (tok ",")]
    raiseAt .starTwice t.span.line]

def starPart : Reader StarPart := choice
  [style.faultStar g,
   do
    discard (tok "*")
    let star ← style.plain
    let keywordOnly ← many (style.maybeDefaulted g)
    return ⟨some star, keywordOnly, (← Reader.optional style.doubleStar).join⟩,
   do
    discard (tok "*")
    let star ← style.plainStarred
    let keywordOnly ← many (style.maybeDefaulted g)
    return ⟨some star, keywordOnly, (← Reader.optional style.doubleStar).join⟩,
   do
    discard (tok "*")
    discard (tok ",")
    let keywordOnly ← many1 (style.maybeDefaulted g)
    return ⟨none, keywordOnly, (← Reader.optional style.doubleStar).join⟩,
   do return ⟨none, [], ← style.doubleStar⟩]

def assemble (only plain : List Parameter) (onlyDefaulted defaulted : List (Parameter × Expr))
    (star : Option StarPart) : Parameters :=
  { positionalOnly := only ++ onlyDefaulted.map Prod.fst
    positional := plain ++ defaulted.map Prod.fst
    defaults := (onlyDefaulted ++ defaulted).map Prod.snd
    star := star.bind (·.star)
    keywordOnly := star.elim [] fun s => s.keywordOnly.map Prod.fst
    keywordDefaults := star.elim [] fun s => s.keywordOnly.map Prod.snd
    doubleStar := star.bind (·.doubleStar) }

def faultParameters : Reader Parameters := hint <| choice
  [do
    discard (many style.plain)
    choice [discard (style.slashDefaulted g), discard (many1 (style.defaulted g))]
    let p ← style.plain
    raiseAt .defaultBeforePlain p.nameSpan.line,
   do
    discard (many style.plain)
    let opening ← tok "("
    match style.owner with
    | .function => discard (many1 style.plain)
    | .lambda => discard (sepBy1 style.parameter ",")
    discard (Reader.optional (tok ","))
    discard (tok ")")
    raiseAt (.parenthesizedParameters style.owner) opening.span.line,
   do
    let t ← tok "/"
    discard (tok ",")
    raiseAt .slashFirst t.span.line,
   do
    choice [discard style.slashPlain, discard (style.slashDefaulted g)]
    discard (many (style.maybeDefaulted g))
    let t ← tok "/"
    raiseAt .slashTwice t.span.line,
   do
    discard (Reader.optional
      (choice [discard style.slashPlain, discard (style.slashDefaulted g)]))
    discard (many (style.maybeDefaulted g))
    discard (tok "*")
    choice [discard (tok ","), discard style.plain]
    discard (many (style.maybeDefaulted g))
    let t ← tok "/"
    raiseAt .slashAfterStar t.span.line,
   do
    discard (many1 (style.maybeDefaulted g))
    discard (tok "/")
    let t ← tok "*"
    raiseAt .slashStarComma t.span.line]

def parameters : Reader Parameters := choice
  [style.faultParameters g,
   do
    let only ← style.slashPlain
    let plain ← many style.plain
    let defaulted ← many (style.defaulted g)
    return assemble only plain [] defaulted (← Reader.optional (style.starPart g)),
   do
    let (only, onlyDefaulted) ← style.slashDefaulted g
    let defaulted ← many (style.defaulted g)
    return assemble only [] onlyDefaulted defaulted (← Reader.optional (style.starPart g)),
   do
    let plain ← many1 style.plain
    let defaulted ← many (style.defaulted g)
    return assemble [] plain [] defaulted (← Reader.optional (style.starPart g)),
   do
    let defaulted ← many1 (style.defaulted g)
    return assemble [] [] [] defaulted (← Reader.optional (style.starPart g)),
   do return assemble [] [] [] [] (some (← style.starPart g))]

end ParameterStyle

variable (g : Family)

def noParameters : Parameters := ⟨[], [], [], none, [], [], none⟩

/-! ## Named and starred expressions -/

def assignmentExpression : Reader Expr := spanned do
  let target ← name
  discard (tok ":=")
  let value ← g .expression
  return fun s => .named s target value

/-- An assignment where only an expression may stand. -/
def misusedAssignment : Reader Unit := choice
  [do
    let a ← g .expression
    discard (tok ":=")
    discard (g .expression)
    raiseAt (.cannotNameHere (describe a)) a.span.line,
   do
    let t ← identifier
    discard (tok "=")
    discard (g .bitwiseOr)
    notAhead (choice [tok "=", tok ":="])
    raiseAt .equalsSign t.span.line,
   do
    notAhead (choice [discard (g .list), discard (g .tuple), discard (g .generatorExp),
      discard (tok "True"), discard (tok "None"), discard (tok "False")])
    let a ← g .bitwiseOr
    discard (tok "=")
    discard (g .bitwiseOr)
    notAhead (choice [tok "=", tok ":="])
    raiseAt (.cannotAssignHere (describe a)) a.span.line]

def namedExpression : Reader Expr := choice
  [assignmentExpression g,
   hint (do g .misusedAssignment; fail),
   do
    let e ← g .expression
    notAhead (tok ":=")
    return e]

def starredBitwiseOr : Reader Expr := spanned do
  discard (tok "*")
  let value ← g .bitwiseOr
  return fun s => .starred s value

def starNamedExpression : Reader Expr := choice [starredBitwiseOr g, g .namedExpression]

def starNamedExpressions : Reader (List Expr) := do
  let es ← sepBy1 (g .starNamedExpression) ","
  discard (optional (tok ","))
  return es

def starExpression : Reader Expr := choice [starredBitwiseOr g, g .expression]

/-- One expression, or a tuple without parentheses. -/
def tupled (element : Reader Expr) : Reader Expr := choice
  [spanned do
    let a ← element
    let rest ← many1 (do discard (tok ","); element)
    discard (optional (tok ","))
    return fun s => .tuple s (a :: rest),
   spanned do
    let a ← element
    discard (tok ",")
    return fun s => .tuple s [a],
   element]

def starExpressions : Reader Expr := tupled (g .starExpression)

def expressions : Reader Expr := tupled (g .expression)

def starredExpression : Reader Expr := spanned do
  discard (tok "*")
  let value ← g .expression
  return fun s => .starred s value

def yieldExpr : Reader Expr := choice
  [spanned do
    discard (tok "yield")
    discard (tok "from")
    let value ← g .expression
    return fun s => .yieldFrom s value,
   spanned do
    discard (tok "yield")
    let value ← optional (g .starExpressions)
    return fun s => .yield s value]

/-! ## Conditional expressions and operators -/

def lambdaExpression : Reader Expr := spanned do
  discard (tok "lambda")
  let parameters ← optional (lambdaStyle.parameters g)
  discard (tok ":")
  let body ← g .expression
  return fun s => .lambda s (parameters.getD noParameters) body

def plainExpression : Reader Expr := choice
  [spanned do
    let body ← g .disjunction
    discard (tok "if")
    let test ← g .disjunction
    discard (tok "else")
    let orElse ← g .expression
    return fun s => .conditional s test body orElse,
   g .disjunction,
   lambdaExpression g]

/-- Two expressions side by side, or a conditional expression without its last part. -/
def faultExpression : Reader Expr := hint <| choice
  [do
    notAhead (choice
      [do discard identifier; discard (kind .string),
       do discard (satisfy fun t => t.isIdentifier && softKeywords.any t.spells)])
    let a ← g .disjunction
    discard (withoutHints (plainExpression g))
    if isLegacyStatement a then fail
    else if (← depth) = 0 then fail
    else raiseAt .forgottenComma a.span.line,
   do
    let a ← g .disjunction
    discard (tok "if")
    discard (g .disjunction)
    notAhead (choice [tok "else", tok ":"])
    raiseAt .missingElse a.span.line]

/-- A call of a former statement without parentheses. -/
def faultLegacyStatement : Reader Expr := hint do
  let t ← identifier
  notAhead (tok "(")
  discard (g .starExpressions)
  if isLegacyStatement (.name t.span t.text) then
    raiseAt (.missingCallParentheses t.text) t.span.line
  else fail

def expression : Reader Expr := choice
  [faultExpression g, faultLegacyStatement g, plainExpression g]

def chainOf (op : BoolOp) (word : String) (operand : Reader Expr) : Reader Expr := choice
  [spanned do
    let a ← operand
    let rest ← many1 (do discard (tok word); operand)
    return fun s => .boolOp s op (a :: rest),
   operand]

def disjunction : Reader Expr := chainOf .or "or" (g .conjunction)

def conjunction : Reader Expr := chainOf .and "and" (g .inversion)

def compareOp : Reader CompareOp := choice
  [do discard (tok "=="); return .eq,
   do discard (tok "!="); return .ne,
   do discard (tok "<="); return .le,
   do discard (tok "<"); return .lt,
   do discard (tok ">="); return .ge,
   do discard (tok ">"); return .gt,
   do discard (tok "not"); discard (tok "in"); return .notIn,
   do discard (tok "in"); return .in_,
   do discard (tok "is"); discard (tok "not"); return .isNot,
   do discard (tok "is"); return .is]

def comparison : Reader Expr := choice
  [spanned do
    let left ← g .bitwiseOr
    let pairs ← many1 (do
      let op ← compareOp
      return (op, ← g .bitwiseOr))
    return fun s => .compare s left (pairs.map Prod.fst) (pairs.map Prod.snd),
   g .bitwiseOr]

def inversion : Reader Expr := choice
  [spanned do
    discard (tok "not")
    let operand ← g .inversion
    return fun s => .unary s .not operand,
   comparison g]

/-- Operators of one level, grouped from the left. -/
def leftGrouped (operand : Reader Expr) (ops : List String) : Reader Expr := do
  let first ← peek
  let a ← operand
  let rest ← many (do
    let op ← satisfy fun t => t.kind == .operator && ops.any t.spells
    let b ← operand
    return (op.text, b, ← spanSince first))
  return rest.foldl (fun left (op, right, span) => .binary span left op right) a

def bitwiseOr : Reader Expr := leftGrouped (g .bitwiseXor) ["|"]

def bitwiseXor : Reader Expr := leftGrouped (g .bitwiseAnd) ["^"]

def bitwiseAnd : Reader Expr := leftGrouped (g .shift) ["&"]

def shift : Reader Expr := leftGrouped (g .sum) ["<<", ">>"]

def sum : Reader Expr := leftGrouped (g .term) ["+", "-"]

def term : Reader Expr := leftGrouped (g .factor) ["*", "/", "//", "%", "@"]

def signed (text : String) (op : UnaryOp) : Reader Expr := spanned do
  discard (tok text)
  let operand ← g .factor
  return fun s => .unary s op operand

def factor : Reader Expr := choice
  [signed g "+" .plus,
   signed g "-" .minus,
   signed g "~" .invert,
   spanned do
    let base ← g .awaitPrimary
    discard (tok "**")
    let exponent ← g .factor
    return fun s => .binary s base "**" exponent,
   g .awaitPrimary]

def awaitPrimary : Reader Expr := choice
  [spanned do
    discard (tok "await")
    let value ← g .primary
    return fun s => .await s value,
   g .primary]

/-! ## Comprehensions -/

/-- What a target position is for decides what may not stand there. -/
inductive TargetUse where
  | star
  | delete
  | loop
  deriving DecidableEq

mutual

/-- The first part of an expression that is not a target. -/
def invalidTarget? (use : TargetUse) : Expr → Option Expr
  | .list _ es | .tuple _ es => invalidTargetIn? use es
  | .starred s e => if use = .delete then some (.starred s e) else invalidTarget? use e
  | .compare s left ops es =>
    if use = .loop then
      if ops.head? = some .in_ then invalidTarget? use left else none
    else some (.compare s left ops es)
  | .name .. | .subscript .. | .attribute .. => none
  | e => some e

def invalidTargetIn? (use : TargetUse) : List Expr → Option Expr
  | [] => none
  | e :: es =>
    match invalidTarget? use e with
    | some bad => some bad
    | none => invalidTargetIn? use es

end

/-- Names the part of an expression that is not a target; fails if there is none. -/
def raiseInvalidTarget {α : Type} (use : TargetUse) (e : Expr) : Reader α :=
  match invalidTarget? use e with
  | some bad =>
    raiseAt (.cannotUse (if use = .delete then .delete else .assign) (describe bad)) bad.span.line
  | none => fail

def faultLoopTarget {α : Type} : Reader α := hint do
  discard (optional (tok "async"))
  discard (tok "for")
  raiseInvalidTarget .loop (← g .starExpressions)

def loopClause (isAsync : Bool) (otherwise : Reader Comprehension) : Reader Comprehension :=
  committed
    (do
      if isAsync then discard (tok "async")
      discard (tok "for")
      let target ← g .starTargets
      discard (tok "in")
      return target)
    (fun target => do
      let iterable ← g .disjunction
      let conditions ← many (do discard (tok "if"); g .disjunction)
      return ⟨isAsync, target, iterable, conditions⟩)
    otherwise

def loopClauses : Reader (List Comprehension) :=
  many1 (loopClause g true (loopClause g false (faultLoopTarget g)))

/-- The element of a generator expression: an assignment needs no parentheses there. -/
def generatorElement : Reader Expr := choice
  [assignmentExpression g,
   do
    let e ← g .expression
    notAhead (tok ":=")
    return e]

def faultComprehension : Reader Expr := hint <| choice
  [do
    choice [discard (tok "["), discard (tok "("), discard (tok "\x7b")]
    let a ← starredExpression g
    discard (loopClauses g)
    raiseAt .unpackingInComprehension a.span.line,
   do
    choice [discard (tok "["), discard (tok "\x7b")]
    let a ← g .starNamedExpression
    discard (tok ",")
    discard (starNamedExpressions g)
    discard (loopClauses g)
    raiseAt .unparenthesizedTarget a.span.line,
   do
    choice [discard (tok "["), discard (tok "\x7b")]
    let a ← g .starNamedExpression
    discard (tok ",")
    discard (loopClauses g)
    raiseAt .unparenthesizedTarget a.span.line]

def comprehension (opening : String) (element : Reader Expr) (closing : String)
    (make : Span → Expr → List Comprehension → Expr) : Reader Expr := choice
  [spanned do
    discard (tok opening)
    let e ← element
    let clauses ← loopClauses g
    discard (tok closing)
    return fun s => make s e clauses,
   faultComprehension g]

def generatorExp : Reader Expr := comprehension g "(" (generatorElement g) ")" .generator

def listComp : Reader Expr := comprehension g "[" (g .namedExpression) "]" .listComp

def setComp : Reader Expr := comprehension g "\x7b" (g .namedExpression) "\x7d" .setComp

/-! ## Displays -/

def list : Reader Expr := spanned do
  discard (tok "[")
  let es ← optional (starNamedExpressions g)
  discard (tok "]")
  return fun s => .list s (es.getD [])

def tuple : Reader Expr := spanned do
  discard (tok "(")
  let es ← optional (do
    let a ← g .starNamedExpression
    discard (tok ",")
    let rest ← optional (starNamedExpressions g)
    return a :: rest.getD [])
  discard (tok ")")
  return fun s => .tuple s (es.getD [])

def group : Reader Expr := choice
  [do
    discard (tok "(")
    let e ← choice [g .yieldExpr, g .namedExpression]
    discard (tok ")")
    return e,
   hint do
    discard (tok "(")
    let a ← starredExpression g
    discard (tok ")")
    raiseAt .starredHere a.span.line,
   hint do
    discard (tok "(")
    let t ← tok "**"
    discard (g .expression)
    discard (tok ")")
    raiseAt .doubleStarredHere t.span.line]

def set : Reader Expr := spanned do
  discard (tok "\x7b")
  let es ← starNamedExpressions g
  discard (tok "\x7d")
  return fun s => .set s es

def keyValue : Reader (Expr × Expr) := do
  let key ← g .expression
  discard (tok ":")
  return (key, ← g .expression)

def dictEntry : Reader DictEntry := choice
  [do
    discard (tok "**")
    return ⟨none, ← g .bitwiseOr⟩,
   do
    let (key, value) ← keyValue g
    return ⟨some key, value⟩]

/-- An entry without a proper value. -/
def faultDictValue {α : Type} : Reader α := choice
  [do
    discard (g .expression)
    discard (tok ":")
    let t ← tok "*"
    discard (g .bitwiseOr)
    raiseAt .starredDictValue t.span.line,
   do
    discard (g .expression)
    let t ← tok ":"
    ahead (choice [tok "\x7d", tok ","])
    raiseAt .missingDictValue t.span.line]

def faultDictEntries {α : Type} : Reader α := choice
  [do
    discard (sepBy1 (dictEntry g) ",")
    discard (tok ",")
    choice
      [do
        let a ← g .expression
        notAhead (tok ":")
        raiseAt .missingKeyColon a.span.line,
       faultDictValue g],
   faultDictValue g]

/-- The faults of entries are looked for at once, not only when faults are to be named. -/
def dict : Reader Expr := choice
  [spanned do
    discard (tok "\x7b")
    let entries ← optional (do
      let entries ← sepBy1 (dictEntry g) ","
      discard (optional (tok ","))
      return entries)
    discard (tok "\x7d")
    return fun s => .dict s (entries.getD []),
   do
    discard (tok "\x7b")
    faultDictEntries g]

def dictComp : Reader Expr := choice
  [spanned do
    discard (tok "\x7b")
    let (key, value) ← keyValue g
    let clauses ← loopClauses g
    discard (tok "\x7d")
    return fun s => .dictComp s key value clauses,
   hint do
    discard (tok "\x7b")
    let t ← tok "**"
    discard (g .bitwiseOr)
    discard (loopClauses g)
    discard (tok "\x7d")
    raiseAt .dictUnpackingInComprehension t.span.line]

/-! ## Calls -/

/-- An argument after the first keyword argument. -/
inductive LateArgument where
  | keyword (k : Keyword)
  | starred (e : Expr)

def faultKeywordArgument {α : Type} : Reader α := hint <| choice
  [do
    let t ← choice [tok "True", tok "False", tok "None"]
    discard (tok "=")
    raiseAt (.keywordAsArgument t.text) t.span.line,
   do
    let t ← identifier
    discard (tok "=")
    discard (g .expression)
    discard (loopClauses g)
    raiseAt .equalsSign t.span.line,
   do
    notAhead (do discard identifier; discard (tok "="))
    let a ← g .expression
    discard (tok "=")
    raiseAt .assignmentInArgument a.span.line]

def keywordArgument : Reader LateArgument := spanned do
  let t ← identifier
  discard (tok "=")
  let value ← g .expression
  return fun s => .keyword ⟨some t.text, value, s⟩

def keywordOrStarred : Reader LateArgument := choice
  [faultKeywordArgument g,
   keywordArgument g,
   do return .starred (← starredExpression g)]

def keywordOrDoubleStarred : Reader LateArgument := choice
  [faultKeywordArgument g,
   keywordArgument g,
   spanned do
    discard (tok "**")
    let value ← g .expression
    return fun s => .keyword ⟨none, value, s⟩]

def lateArguments : Reader (List LateArgument) := choice
  [do
    let a ← sepBy1 (keywordOrStarred g) ","
    discard (tok ",")
    return a ++ (← sepBy1 (keywordOrDoubleStarred g) ","),
   sepBy1 (keywordOrStarred g) ",",
   sepBy1 (keywordOrDoubleStarred g) ","]

def Arguments.ofLate (positional : List Expr) (late : List LateArgument) : Arguments :=
  { positional := positional ++ late.filterMap fun
      | .starred e => some e
      | _ => none
    keywords := late.filterMap fun
      | .keyword k => some k
      | _ => none }

def positionalArgument : Reader Expr := choice
  [starredExpression g,
   do
    let e ← generatorElement g
    notAhead (tok "=")
    return e]

def args : Reader Arguments := choice
  [do
    let positional ← sepBy1 (positionalArgument g) ","
    let late ← optional (do discard (tok ","); lateArguments g)
    return Arguments.ofLate positional (late.getD []),
   do return Arguments.ofLate [] (← lateArguments g)]

def faultArguments {α : Type} : Reader α := hint <| choice
  [do
    let first ← peek
    discard (args g)
    discard (tok ",")
    discard (tok "*")
    raiseAt .iterableAfterUnpacking first.span.line,
   do
    let a ← g .expression
    discard (loopClauses g)
    discard (tok ",")
    discard (optional (choice
      [discard (args g), do discard (g .expression); discard (loopClauses g)]))
    raiseAt .unparenthesizedGenerator a.span.line,
   do
    let t ← identifier
    discard (tok "=")
    discard (g .expression)
    discard (loopClauses g)
    raiseAt .equalsSign t.span.line,
   do
    let a ← args g
    discard (loopClauses g)
    match a.positional with
    | _ :: _ :: _ =>
      raiseAt .unparenthesizedGenerator ((a.positional.getLast?).elim 0 (·.span.line))
    | _ => fail,
   do
    discard (args g)
    discard (tok ",")
    let a ← g .expression
    discard (loopClauses g)
    raiseAt .unparenthesizedGenerator a.span.line,
   do
    let a ← args g
    discard (tok ",")
    discard (args g)
    raiseHere (if a.keywords.any (·.name.isNone) then .positionalAfterUnpacking
      else .positionalAfterKeyword)]

def arguments : Reader Arguments := choice
  [do
    let a ← args g
    discard (optional (tok ","))
    ahead (tok ")")
    return a,
   faultArguments g]

/-! ## Primaries -/

def slice : Reader Expr := choice
  [spanned do
    let lower ← optional (g .expression)
    discard (tok ":")
    let upper ← optional (g .expression)
    let step ← optional (do discard (tok ":"); optional (g .expression))
    return fun s => .slice s lower upper step.join,
   g .namedExpression]

def slices : Reader Expr := choice
  [do
    let a ← slice g
    notAhead (tok ",")
    return a,
   spanned do
    let es ← sepBy1 (choice [slice g, starredExpression g]) ","
    discard (optional (tok ","))
    return fun s => .tuple s es]

/-- What may follow a primary: an attribute, a call or a subscript. -/
def attributeTrailer : Reader (Span → Expr → Expr) := do
  discard (tok ".")
  let t ← identifier
  return fun s e => .attribute s e t.text

def generatorTrailer : Reader (Span → Expr → Expr) := do
  let argument ← g .generatorExp
  return fun s e => .call s e [argument] []

def callTrailer : Reader (Span → Expr → Expr) := do
  discard (tok "(")
  let a ← optional (g .arguments)
  discard (tok ")")
  return fun s e => .call s e (a.elim [] (·.positional)) (a.elim [] (·.keywords))

def subscriptTrailer : Reader (Span → Expr → Expr) := do
  discard (tok "[")
  let index ← g .slices
  discard (tok "]")
  return fun s e => .subscript s e index

/-- A trailer with the last token it takes. -/
def placed (p : Reader (Span → Expr → Expr)) : Reader (Token × (Span → Expr → Expr)) := do
  let f ← p
  fun _ s =>
    match s.place.behind.head? with
    | some last => .ok (last, f) s
    | none => .fail s

def applyTrailers (first : Token) (e : Expr) (trailers : List (Token × (Span → Expr → Expr))) :
    Expr :=
  trailers.foldl (fun e (last, f) => f (first.span.through last.span) e) e

def primary : Reader Expr := do
  let first ← peek
  let e ← g .atom
  let trailers ← many (placed (choice
    [attributeTrailer, generatorTrailer g, callTrailer g, subscriptTrailer g]))
  return applyTrailers first e trailers

def constantToken (text : String) (value : Constant) : Reader Expr := do
  let t ← tok text
  return .constant t.span value

def number : Reader Expr := do
  let t ← kind .number
  match numberConstant t.text with
  | .ok c => return .constant t.span c
  | .error cause => raiseAt cause t.span.line

/-- Adjacent string tokens as one literal. -/
def strings (embed : Embed) : Reader Expr := do
  let tokens ← many1 (kind .string)
  match tokens.head?, tokens.getLast? with
  | some first, some last =>
    let span := first.span.through last.span
    match stringValues embed span none tokens with
    | .ok values => return joinStrings span values
    | .error (.atToken cause) =>
      -- the token at fault is the first with a character beyond ASCII
      let bad := (tokens.find? fun t =>
        let parts := t.parts
        parts.isBytes && parts.body.any fun c => 128 ≤ c.toNat).getD first
      raiseAt cause bad.span.line
    | .error (.reached cause) => raiseHere cause
    | .error (.inside fault) => fun _ s => .halt (.grammatical fault s.seen)
  | _, _ => fail

def atom : Reader Expr := choice
  [name,
   constantToken "True" (.bool true),
   constantToken "False" (.bool false),
   constantToken "None" .none,
   do ahead (kind .string); g .strings,
   number,
   do
    ahead (tok "(")
    choice [g .tuple, group g, g .generatorExp],
   do
    ahead (tok "[")
    choice [g .list, listComp g],
   do
    ahead (tok "\x7b")
    choice [dict g, set g, dictComp g, setComp g],
   constantToken "..." .ellipsis]

/-! ## Targets -/

def targetAhead : Reader Unit := choice
  [discard (tok "("), discard (tok "["), discard (tok ".")]

/-- A primary that is followed by a further trailer. -/
def targetPrimary : Reader Expr := do
  let first ← peek
  let e ← g .atom
  ahead targetAhead
  let trailers ← many (do
    let t ← placed (choice
      [attributeTrailer, subscriptTrailer g, generatorTrailer g, callTrailer g])
    ahead targetAhead
    return t)
  return applyTrailers first e trailers

/-- An attribute or a subscript that ends here. -/
def memberTarget : Reader Expr := choice
  [spanned do
    let e ← g .targetPrimary
    let f ← attributeTrailer
    notAhead targetAhead
    return fun s => f s e,
   spanned do
    let e ← g .targetPrimary
    let f ← subscriptTrailer g
    notAhead targetAhead
    return fun s => f s e]

def starAtom : Reader Expr := choice
  [name,
   do
    discard (tok "(")
    let e ← g .targetWithStarAtom
    discard (tok ")")
    return e,
   spanned do
    discard (tok "(")
    let es ← optional (choice
      [do
        let a ← g .starTarget
        let rest ← many1 (do discard (tok ","); g .starTarget)
        discard (optional (tok ","))
        return a :: rest,
       do
        let a ← g .starTarget
        discard (tok ",")
        return [a]])
    discard (tok ")")
    return fun s => .tuple s (es.getD []),
   spanned do
    discard (tok "[")
    let es ← optional (do
      let es ← sepBy1 (g .starTarget) ","
      discard (optional (tok ","))
      return es)
    discard (tok "]")
    return fun s => .list s (es.getD [])]

def targetWithStarAtom : Reader Expr := choice [memberTarget g, starAtom g]

def starTarget : Reader Expr := choice
  [spanned do
    discard (tok "*")
    notAhead (tok "*")
    let e ← g .starTarget
    return fun s => .starred s e,
   g .targetWithStarAtom]

def starTargets : Reader Expr := choice
  [do
    let a ← g .starTarget
    notAhead (tok ",")
    return a,
   spanned do
    let a ← g .starTarget
    let rest ← many (do discard (tok ","); g .starTarget)
    discard (optional (tok ","))
    return fun s => .tuple s (a :: rest)]

def singleTarget : Reader Expr := choice
  [memberTarget g,
   name,
   do
    discard (tok "(")
    let e ← g .singleTarget
    discard (tok ")")
    return e]

def deleteTargets : Reader (List Expr) := do
  let es ← sepBy1 (g .deleteTarget) ","
  discard (optional (tok ","))
  return es

def deleteTarget : Reader Expr := choice
  [memberTarget g,
   name,
   do
    discard (tok "(")
    let e ← g .deleteTarget
    discard (tok ")")
    return e,
   spanned do
    discard (tok "(")
    let es ← optional (deleteTargets g)
    discard (tok ")")
    return fun s => .tuple s (es.getD []),
   spanned do
    discard (tok "[")
    let es ← optional (deleteTargets g)
    discard (tok "]")
    return fun s => .list s (es.getD [])]

end DesignLens.Source.Grammar
