/-!
# Faults in Python source

Why a text is not a Python module. A `Cause` names the rule that is broken and carries what its
wording needs; the wording itself is `Cause.message`. A `Fault` adds the line.
-/

namespace DesignLens.Source

/-- Indentation faults and mixed tabs are reported as kinds of their own. -/
inductive FaultKind where
  | syntaxError
  | indentation
  | tabs
  deriving DecidableEq, Repr

/-- What was being assigned to, deleted or annotated when that is not allowed. -/
inductive Use where
  | assign
  | delete
  deriving DecidableEq, Repr

/-- The header of a compound statement whose block is missing. -/
inductive Header where
  | statement (keyword : String)
  | function
  | class_
  deriving DecidableEq, Repr

/-- The parameter list in which a fault stands. -/
inductive ParameterOwner where
  | function
  | lambda
  deriving DecidableEq, Repr

inductive Cause where
  -- characters and tokens
  | nullByte
  | unexpectedEnd
  | unclosedBracket (opening : Char)
  | unmatchedBracket (closing : Char)
  | mismatchedBracket (closing opening : Char) (openedOn : Option Nat)
  | tooManyBrackets
  | unterminatedString (detectedAt : Nat)
  | unterminatedTripleString (detectedAt : Nat)
  | strayAfterContinuation
  | unprintable (c : Char)
  | invalidCharacter (c : Char)
  | invalidLiteral (kind : String)
  | invalidDigit (digit : Char) (kind : String)
  | leadingZeros
  | integerTooLong (digits : Nat)
  -- indentation
  | inconsistentDedent
  | inconsistentTabs
  | tooManyIndents
  | unexpectedIndent
  | unexpectedUnindent
  | missingBlock (after : Option (Header × Nat))
  -- statements
  | invalidSyntax
  | expectedToken (token : String)
  | missingHandler
  | mixedHandlers
  | missingExceptionType
  | unparenthesizedExceptions
  | trailingImportComma
  | missingCallParentheses (name : String)
  -- targets
  | cannotUse (use : Use) (what : String)
  | cannotAssignHere (what : String)
  | cannotNameHere (what : String)
  | assignToYield
  | illegalAugmented (what : String)
  | notSingleTarget (what : String)
  | illegalTypeHint
  -- expressions
  | forgottenComma
  | equalsSign
  | missingElse
  | assignmentInArgument
  | keywordAsArgument (word : String)
  | unparenthesizedGenerator
  | positionalAfterKeyword
  | positionalAfterUnpacking
  | iterableAfterUnpacking
  | unpackingInComprehension
  | dictUnpackingInComprehension
  | unparenthesizedTarget
  | starredHere
  | doubleStarredHere
  | missingKeyColon
  | missingDictValue
  | starredDictValue
  -- parameters
  | defaultBeforePlain
  | parenthesizedParameters (owner : ParameterOwner)
  | slashFirst
  | slashTwice
  | slashAfterStar
  | slashStarComma
  | bareStar
  | starDefault
  | starTwice
  | doubleStarDefault
  | afterDoubleStar
  -- patterns
  | wildcardTarget
  | invalidPatternTarget
  | positionalAfterKeywordPattern
  | realNumberRequired
  | imaginaryNumberRequired
  -- strings
  | mixedBytes
  | nonAsciiBytes
  | badTextEscape (first last : Nat) (reason : String)
  | badByteEscape (position : Nat)
  -- replacement fields of formatted strings
  | fieldBackslash
  | fieldComment
  | fieldBrackets
  | fieldUnmatched (c : Char)
  | fieldMismatched (closing opening : Char)
  | fieldUnterminatedString
  | fieldNesting
  | fieldEmpty
  | fieldClosingBrace
  | fieldConversion
  | fieldSingleBrace
  | fieldEnd
  /-- A fault inside a replacement field. -/
  | inField (cause : Cause)
  deriving DecidableEq, Repr

def Header.describe : Header → String
  | .statement keyword => s!"'{keyword}' statement"
  | .function => "function definition"
  | .class_ => "class definition"

/-- A code point in hexadecimal, with at least four digits. -/
def hex4 (c : Char) : String :=
  let digits := (Nat.toDigits 16 c.toNat).map Char.toUpper
  String.ofList (List.replicate (4 - digits.length) '0' ++ digits)

def Cause.message : Cause → String
  | .nullByte => "source code string cannot contain null bytes"
  | .unexpectedEnd => "unexpected EOF while parsing"
  | .unclosedBracket opening => s!"'{opening}' was never closed"
  | .unmatchedBracket closing => s!"unmatched '{closing}'"
  | .mismatchedBracket closing opening none =>
    s!"closing parenthesis '{closing}' does not match opening parenthesis '{opening}'"
  | .mismatchedBracket closing opening (some line) =>
    s!"closing parenthesis '{closing}' does not match opening parenthesis '{opening}' " ++
      s!"on line {line}"
  | .tooManyBrackets => "too many nested parentheses"
  | .unterminatedString line => s!"unterminated string literal (detected at line {line})"
  | .unterminatedTripleString line =>
    s!"unterminated triple-quoted string literal (detected at line {line})"
  | .strayAfterContinuation => "unexpected character after line continuation character"
  | .unprintable c => "invalid non-printable character U+" ++ hex4 c
  | .invalidCharacter c => s!"invalid character '{c}' (U+" ++ hex4 c ++ ")"
  | .invalidLiteral kind => s!"invalid {kind} literal"
  | .invalidDigit digit kind => s!"invalid digit '{digit}' in {kind} literal"
  | .leadingZeros =>
    "leading zeros in decimal integer literals are not permitted; " ++
      "use an 0o prefix for octal integers"
  | .integerTooLong digits =>
    "Exceeds the limit (4300 digits) for integer string conversion: value has "
      ++ s!"{digits} digits; use sys.set_int_max_str_digits() to increase the limit"
      ++ " - Consider hexadecimal for huge integer literals to avoid decimal conversion limits."
  | .inconsistentDedent => "unindent does not match any outer indentation level"
  | .inconsistentTabs => "inconsistent use of tabs and spaces in indentation"
  | .tooManyIndents => "too many levels of indentation"
  | .unexpectedIndent => "unexpected indent"
  | .unexpectedUnindent => "unexpected unindent"
  | .missingBlock none => "expected an indented block"
  | .missingBlock (some (header, line)) =>
    s!"expected an indented block after {header.describe} on line {line}"
  | .invalidSyntax => "invalid syntax"
  | .expectedToken token => s!"expected '{token}'"
  | .missingHandler => "expected 'except' or 'finally' block"
  | .mixedHandlers => "cannot have both 'except' and 'except*' on the same 'try'"
  | .missingExceptionType => "expected one or more exception types"
  | .unparenthesizedExceptions => "multiple exception types must be parenthesized"
  | .trailingImportComma => "trailing comma not allowed without surrounding parentheses"
  | .missingCallParentheses name =>
    s!"Missing parentheses in call to '{name}'. Did you mean {name}(...)?"
  | .cannotUse .assign what => s!"cannot assign to {what}"
  | .cannotUse .delete what => s!"cannot delete {what}"
  | .cannotAssignHere what =>
    s!"cannot assign to {what} here. Maybe you meant '==' instead of '='?"
  | .cannotNameHere what => s!"cannot use assignment expressions with {what}"
  | .assignToYield => "assignment to yield expression not possible"
  | .illegalAugmented what => s!"'{what}' is an illegal expression for augmented assignment"
  | .notSingleTarget what => s!"only single target (not {what}) can be annotated"
  | .illegalTypeHint => "illegal target for annotation"
  | .forgottenComma => "invalid syntax. Perhaps you forgot a comma?"
  | .equalsSign => "invalid syntax. Maybe you meant '==' or ':=' instead of '='?"
  | .missingElse => "expected 'else' after 'if' expression"
  | .assignmentInArgument => "expression cannot contain assignment, perhaps you meant \"==\"?"
  | .keywordAsArgument word => s!"cannot assign to {word}"
  | .unparenthesizedGenerator => "Generator expression must be parenthesized"
  | .positionalAfterKeyword => "positional argument follows keyword argument"
  | .positionalAfterUnpacking => "positional argument follows keyword argument unpacking"
  | .iterableAfterUnpacking => "iterable argument unpacking follows keyword argument unpacking"
  | .unpackingInComprehension => "iterable unpacking cannot be used in comprehension"
  | .dictUnpackingInComprehension => "dict unpacking cannot be used in dict comprehension"
  | .unparenthesizedTarget => "did you forget parentheses around the comprehension target?"
  | .starredHere => "cannot use starred expression here"
  | .doubleStarredHere => "cannot use double starred expression here"
  | .missingKeyColon => "':' expected after dictionary key"
  | .missingDictValue => "expression expected after dictionary key and ':'"
  | .starredDictValue => "cannot use a starred expression in a dictionary value"
  | .defaultBeforePlain => "non-default argument follows default argument"
  | .parenthesizedParameters .function => "Function parameters cannot be parenthesized"
  | .parenthesizedParameters .lambda => "Lambda expression parameters cannot be parenthesized"
  | .slashFirst => "at least one argument must precede /"
  | .slashTwice => "/ may appear only once"
  | .slashAfterStar => "/ must be ahead of *"
  | .slashStarComma => "expected comma between / and *"
  | .bareStar => "named arguments must follow bare *"
  | .starDefault => "var-positional argument cannot have default value"
  | .starTwice => "* argument may appear only once"
  | .doubleStarDefault => "var-keyword argument cannot have default value"
  | .afterDoubleStar => "arguments cannot follow var-keyword argument"
  | .wildcardTarget => "cannot use '_' as a target"
  | .invalidPatternTarget => "invalid pattern target"
  | .positionalAfterKeywordPattern => "positional patterns follow keyword patterns"
  | .realNumberRequired => "real number required in complex literal"
  | .imaginaryNumberRequired => "imaginary number required in complex literal"
  | .mixedBytes => "cannot mix bytes and nonbytes literals"
  | .nonAsciiBytes => "bytes can only contain ASCII literal characters"
  | .badTextEscape first last reason =>
    "(unicode error) 'unicodeescape' codec can't decode " ++
      (if first = last then s!"byte 0x5c in position {first}: "
        else s!"bytes in position {first}-{last}: ") ++ reason
  | .badByteEscape position => s!"(value error) invalid \\x escape at position {position}"
  | .fieldBackslash => "f-string expression part cannot include a backslash"
  | .fieldComment => "f-string expression part cannot include '#'"
  | .fieldBrackets => "f-string: too many nested parenthesis"
  | .fieldUnmatched c => s!"f-string: unmatched '{c}'"
  | .fieldMismatched closing opening =>
    s!"f-string: closing parenthesis '{closing}' does not match opening parenthesis '{opening}'"
  | .fieldUnterminatedString => "f-string: unterminated string"
  | .fieldNesting => "f-string: expressions nested too deeply"
  | .fieldEmpty => "f-string: empty expression not allowed"
  | .fieldClosingBrace => "f-string: expecting '\x7d'"
  | .fieldConversion => "f-string: invalid conversion character: expected 's', 'r', or 'a'"
  | .fieldSingleBrace => "f-string: single '\x7d' is not allowed"
  | .fieldEnd => "f-string: unexpected end of string"
  | .inField cause => "f-string: " ++ cause.message

/-- A fault that is met while characters are grouped into tokens keeps its kind inside a field. -/
def Cause.kind : Cause → FaultKind
  | .inconsistentDedent | .tooManyIndents | .unexpectedIndent | .unexpectedUnindent
  | .missingBlock _ => .indentation
  | .inconsistentTabs => .tabs
  | .inField cause => cause.kind
  | _ => .syntaxError

structure Fault where
  cause : Cause
  /-- The line is unknown only for a text that is refused as a whole. -/
  line : Option Nat
  deriving DecidableEq, Repr

def Fault.kind (f : Fault) : FaultKind := f.cause.kind

def Fault.message (f : Fault) : String :=
  match f.line with
  | none => f.cause.message
  | some line => f.cause.message ++ s!" (<unknown>, line {line})"

end DesignLens.Source
