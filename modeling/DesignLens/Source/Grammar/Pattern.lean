import DesignLens.Source.Grammar.Expression

/-!
# Patterns

The grammar of the patterns of a `match` statement.
-/

namespace DesignLens.Source.Grammar

open Reader

variable (g : Family)

/-- A number with or without a minus sign in front. -/
def signedBy (operand : Reader Expr) : Reader Expr := choice
  [operand,
   spanned do
    discard (tok "-")
    let e ← operand
    return fun s => .unary s .minus e]

def isImaginary : Expr → Bool
  | .constant _ (.imaginary _) => true
  | _ => false

def realNumber : Reader Expr := do
  let e ← number
  if isImaginary e then raiseAt .realNumberRequired e.span.line else return e

def imaginaryNumber : Reader Expr := do
  let e ← number
  if isImaginary e then return e else raiseAt .imaginaryNumberRequired e.span.line

def complexNumber : Reader Expr := spanned do
  let left ← signedBy realNumber
  let op ← choice [tok "+", tok "-"]
  let right ← imaginaryNumber
  return fun s => .binary s left op.text right

def literalNumber : Reader Expr := choice
  [do
    let e ← signedBy number
    notAhead (choice [tok "+", tok "-"])
    return e,
   complexNumber,
   g .strings]

def literalExpr : Reader Expr := choice
  [literalNumber g,
   constantToken "None" .none,
   constantToken "True" (.bool true),
   constantToken "False" (.bool false)]

def singletonPattern (text : String) (value : Constant) : Reader Pattern := do
  let t ← tok text
  return .singleton t.span value

def literalPattern : Reader Pattern := choice
  [do
    let e ← literalNumber g
    return .value e.span e,
   singletonPattern "None" .none,
   singletonPattern "True" (.bool true),
   singletonPattern "False" (.bool false)]

/-- After a name that is not a pattern of its own. -/
def patternContinues : Reader Unit := choice
  [discard (tok "."), discard (tok "("), discard (tok "=")]

def captureTarget : Reader Token := do
  notAhead (softKeyword "_")
  let t ← identifier
  notAhead patternContinues
  return t

def nameOrAttribute : Reader Expr := do
  let t ← identifier
  let trailers ← many (placed attributeTrailer)
  return applyTrailers t (.name t.span t.text) trailers

/-- A dotted name with at least one dot. -/
def attributeName : Reader Expr := do
  let e ← g .nameOrAttribute
  match e with
  | .attribute .. => return e
  | _ => fail

def maybeStarPattern : Reader Pattern := choice [g .starPattern, g .pattern]

def maybeSequence : Reader (List Pattern) := do
  let ps ← sepBy1 (maybeStarPattern g) ","
  discard (optional (tok ","))
  return ps

def openSequence : Reader (List Pattern) := do
  let p ← maybeStarPattern g
  discard (tok ",")
  let rest ← optional (maybeSequence g)
  return p :: rest.getD []

def sequencePattern : Reader Pattern := choice
  [spanned do
    discard (tok "[")
    let ps ← optional (maybeSequence g)
    discard (tok "]")
    return fun s => .sequence s (ps.getD []),
   spanned do
    discard (tok "(")
    let ps ← optional (openSequence g)
    discard (tok ")")
    return fun s => .sequence s (ps.getD [])]

def starPattern : Reader Pattern := choice
  [spanned do
    discard (tok "*")
    let t ← captureTarget
    return fun s => .star s (some t.text),
   spanned do
    discard (tok "*")
    discard (softKeyword "_")
    return fun s => .star s none]

def mappingRest : Reader String := do
  discard (tok "**")
  let t ← captureTarget
  return t.text

def mappingItem : Reader (Expr × Pattern) := do
  let key ← choice [literalExpr g, attributeName g]
  discard (tok ":")
  return (key, ← g .pattern)

def mappingPattern : Reader Pattern := choice
  [spanned do
    discard (tok "\x7b")
    discard (tok "\x7d")
    return fun s => .mapping s [] [] none,
   spanned do
    discard (tok "\x7b")
    let rest ← mappingRest
    discard (optional (tok ","))
    discard (tok "\x7d")
    return fun s => .mapping s [] [] (some rest),
   spanned do
    discard (tok "\x7b")
    let items ← sepBy1 (mappingItem g) ","
    discard (tok ",")
    let rest ← mappingRest
    discard (optional (tok ","))
    discard (tok "\x7d")
    return fun s => .mapping s (items.map Prod.fst) (items.map Prod.snd) (some rest),
   spanned do
    discard (tok "\x7b")
    let items ← sepBy1 (mappingItem g) ","
    discard (optional (tok ","))
    discard (tok "\x7d")
    return fun s => .mapping s (items.map Prod.fst) (items.map Prod.snd) none]

def keywordPattern : Reader KeywordPattern := do
  let t ← identifier
  discard (tok "=")
  return ⟨t.text, ← g .pattern⟩

def positionalPatterns : Reader (List Pattern) := sepBy1 (g .pattern) ","

def keywordPatterns : Reader (List KeywordPattern) := sepBy1 (keywordPattern g) ","

def classPattern : Reader Pattern := choice
  [spanned do
    let cls ← g .nameOrAttribute
    discard (tok "(")
    discard (tok ")")
    return fun s => .class_ s cls [] [],
   spanned do
    let cls ← g .nameOrAttribute
    discard (tok "(")
    let ps ← positionalPatterns g
    discard (optional (tok ","))
    discard (tok ")")
    return fun s => .class_ s cls ps [],
   spanned do
    let cls ← g .nameOrAttribute
    discard (tok "(")
    let ks ← keywordPatterns g
    discard (optional (tok ","))
    discard (tok ")")
    return fun s => .class_ s cls [] ks,
   spanned do
    let cls ← g .nameOrAttribute
    discard (tok "(")
    let ps ← positionalPatterns g
    discard (tok ",")
    let ks ← keywordPatterns g
    discard (optional (tok ","))
    discard (tok ")")
    return fun s => .class_ s cls ps ks,
   hint do
    discard (g .nameOrAttribute)
    discard (tok "(")
    discard (optional (do discard (positionalPatterns g); discard (tok ",")))
    discard (keywordPatterns g)
    discard (tok ",")
    let late ← positionalPatterns g
    raiseAt .positionalAfterKeywordPattern ((late.head?).elim 0 (·.span.line))]

def closedPattern : Reader Pattern := choice
  [literalPattern g,
   do
    let t ← captureTarget
    return .as_ t.span none (some t.text),
   do
    let t ← softKeyword "_"
    return .as_ t.span none none,
   do
    let e ← attributeName g
    notAhead patternContinues
    return .value e.span e,
   do
    discard (tok "(")
    let p ← g .pattern
    discard (tok ")")
    return p,
   sequencePattern g,
   mappingPattern g,
   classPattern g]

def orPattern : Reader Pattern := do
  let first ← peek
  let ps ← sepBy1 (g .closedPattern) "|"
  match ps with
  | [p] => return p
  | _ =>
    let last := (ps.getLast?).elim first.span (·.span)
    return .or_ (first.span.through last) ps

def pattern : Reader Pattern := choice
  [spanned do
    let p ← orPattern g
    discard (tok "as")
    let t ← captureTarget
    return fun s => .as_ s (some p) (some t.text),
   hint do
    discard (orPattern g)
    discard (tok "as")
    let t ← softKeyword "_"
    raiseAt .wildcardTarget t.span.line,
   hint do
    discard (orPattern g)
    discard (tok "as")
    notAhead identifier
    let e ← g .expression
    raiseAt .invalidPatternTarget e.span.line,
   orPattern g]

def patterns : Reader Pattern := choice
  [spanned do
    let ps ← openSequence g
    return fun s => .sequence s ps,
   g .pattern]

end DesignLens.Source.Grammar
