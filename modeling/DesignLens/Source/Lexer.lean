import DesignLens.Source.Fault
import DesignLens.Source.Token
import DesignLens.Text.Case

/-!
# From characters to tokens

The lexer groups the characters of a source text into tokens and turns indentation into `indent`
and `dedent` tokens. It stops at the first fault. A fault is either announced at once or found only
when somebody asks for the next token; the difference decides which of two faults is reported, and
`LexFault.announced` records it.
-/

namespace DesignLens.Source

structure LexFault where
  fault : Fault
  announced : Bool
  /-- The innermost bracket that is open at the fault, with its line. -/
  bracket : Option (Char × Nat)
  deriving Repr

structure Lexed where
  tokens : Array Token
  fault : Option LexFault
  deriving Repr

/-! ## Numbers -/

/-- What is left after the digits of a run; single underscores may stand between digits. The first
digit has already been read. -/
def decimalTail : List Char → Except Cause (List Char)
  | [] => .ok []
  | c :: rest =>
    if c.isDigit then decimalTail rest
    else if c = '_' then
      match rest with
      | d :: rest' => if d.isDigit then decimalTail rest' else .error (.invalidLiteral "decimal")
      | [] => .error (.invalidLiteral "decimal")
    else .ok (c :: rest)

/-- ASCII characters of names; every other character is taken for one until it is examined. -/
def mayContinueName (c : Char) : Bool := c.isAlphanum || c == '_' || 128 ≤ c.toNat

def mayStartName (c : Char) : Bool := c.isAlpha || c == '_' || 128 ≤ c.toNat

/-- The keywords that may follow a number without a blank. -/
def startsKeywordAfterNumber (cs : List Char) : Bool :=
  let word (w : String) : Bool :=
    w.toList.isPrefixOf cs && !((cs.drop w.length).head?.any mayContinueName)
  word "and" || word "else" || word "for" || word "or" || word "not" ||
    ["if", "in", "is"].any fun w => w.toList.isPrefixOf cs

/-- A number may not run into a name. -/
def checkNumberEnd (kind : String) (rest : List Char) : Except Cause (List Char) :=
  match rest with
  | c :: _ =>
    if startsKeywordAfterNumber rest then .ok rest
    else if mayContinueName c then .error (.invalidLiteral kind)
    else .ok rest
  | [] => .ok rest

/-- Groups of digits of a base other than ten, each group after at most one underscore. -/
def radixDigits (kind : String) (isDigit : Char → Bool) (started : Bool) :
    List Char → Except Cause (List Char)
  | [] => if started then .ok [] else .error (.invalidLiteral kind)
  | c :: rest =>
    if isDigit c then radixDigits kind isDigit true rest
    else if c = '_' then
      match rest with
      | d :: rest' =>
        if isDigit d then radixDigits kind isDigit true rest'
        else if d.isDigit && kind != "hexadecimal" then .error (.invalidDigit d kind)
        else .error (.invalidLiteral kind)
      | [] => .error (.invalidLiteral kind)
    else if c.isDigit && kind != "hexadecimal" then .error (.invalidDigit c kind)
    else if started then .ok (c :: rest)
    else .error (.invalidLiteral kind)

def radixNumber (kind : String) (isDigit : Char → Bool) (cs : List Char) :
    Except Cause (List Char) := do
  let rest ← radixDigits kind isDigit false cs
  checkNumberEnd kind rest

/-- The rest of a number after its last digit. After a `j` the number ends. -/
def suffixEnd (cs : List Char) : Except Cause (List Char) :=
  match cs with
  | 'j' :: rest | 'J' :: rest => checkNumberEnd "imaginary" rest
  | _ => checkNumberEnd "decimal" cs

/-- The rest of a number from its exponent on. `cs` starts with the `e`. -/
def exponentEnd (cs : List Char) : Except Cause (List Char) :=
  match cs with
  | e :: sign :: rest =>
    if sign = '+' ∨ sign = '-' then
      match rest with
      | d :: rest' =>
        if d.isDigit then do suffixEnd (← decimalTail rest')
        else .error (.invalidLiteral "decimal")
      | [] => .error (.invalidLiteral "decimal")
    else if sign.isDigit then do suffixEnd (← decimalTail rest)
    else checkNumberEnd "decimal" (e :: sign :: rest)
  | _ => checkNumberEnd "decimal" cs

/-- The rest of a number after its whole part and its fraction. -/
def afterFraction (cs : List Char) : Except Cause (List Char) :=
  match cs with
  | 'e' :: _ | 'E' :: _ => exponentEnd cs
  | _ => suffixEnd cs

/-- The rest of a number after its point. -/
def fractionEnd (cs : List Char) : Except Cause (List Char) :=
  match cs with
  | c :: rest => if c.isDigit then do afterFraction (← decimalTail rest) else afterFraction cs
  | [] => afterFraction cs

/-- The rest of a number after its whole part. A whole number does not start with zeros. -/
def afterWhole (zeros : Bool) (cs : List Char) : Except Cause (List Char) :=
  match cs with
  | '.' :: rest => fractionEnd rest
  | 'e' :: _ | 'E' :: _ | 'j' :: _ | 'J' :: _ => afterFraction cs
  | _ => if zeros then .error .leadingZeros else afterFraction cs

/-- Zeros at the start of a number, possibly with underscores between them. -/
def skipZeros : List Char → Except Cause (List Char)
  | '_' :: c :: rest =>
    if c = '0' then skipZeros rest
    else if c.isDigit then .ok (c :: rest)
    else .error (.invalidLiteral "decimal")
  | ['_'] => .error (.invalidLiteral "decimal")
  | '0' :: rest => skipZeros rest
  | cs => .ok cs

/-- The rest of a number after the zeros at its start. -/
def afterZeros (cs : List Char) : Except Cause (List Char) :=
  match cs with
  | c :: rest =>
    if c.isDigit then do afterWhole true (← decimalTail rest) else afterWhole false cs
  | [] => afterWhole false cs

/-- A number that starts with a zero and has no base prefix. -/
def zeroNumber (cs : List Char) : Except Cause (List Char) := do afterZeros (← skipZeros cs)

/-- What is left after the number at the start of the text, which begins with a digit. -/
def numberEnd (cs : List Char) : Except Cause (List Char) :=
  match cs with
  | '0' :: 'x' :: rest | '0' :: 'X' :: rest =>
    radixNumber "hexadecimal" (fun c => (Text.hexDigit? c).isSome) rest
  | '0' :: 'o' :: rest | '0' :: 'O' :: rest =>
    radixNumber "octal" (fun c => '0' ≤ c && c < '8') rest
  | '0' :: 'b' :: rest | '0' :: 'B' :: rest =>
    radixNumber "binary" (fun c => c = '0' || c = '1') rest
  | '0' :: rest => zeroNumber rest
  | _ :: rest => do afterWhole false (← decimalTail rest)
  | [] => .ok []

/-! ## Names, strings and operators -/

/-- The first character of a name that may not stand where it does. -/
def badNameChar? (name : List Char) : Option Char :=
  match name with
  | [] => none
  | c :: rest => if Text.isNameStart c then rest.find? (fun d => !Text.isNamePart d) else some c

def isQuote (c : Char) : Bool := c == '\'' || c == '"'

/-- The letters before the opening quote of a string, if the text starts with a string. -/
def stringPrefix? (cs : List Char) : Option (List Char) :=
  let letters := (cs.takeWhile Char.isAlpha).take 3
  let known := ["", "b", "r", "u", "f", "br", "rb", "fr", "rf"].map String.toList
  if (cs.drop letters.length).head?.any isQuote && known.contains (letters.map Char.toLower) then
    some letters
  else none

/-- Whether the text after an opening quote goes on with two more. -/
def opensTriple (quote : Char) : List Char → Bool
  | q :: q' :: _ => q == quote && q' == quote
  | _ => false

/-- How the search for the end of a string ends. -/
inductive StringEnd where
  | closed (rest : List Char) (newlines : Nat)
  | open_ (newlines : Nat)

/-- Looks for `size` closing quotes in a row; `seen` of them have just been passed. A backslash
hides the next character. A string in single quotes ends with its line. -/
def stringEnd (quote : Char) (size seen newlines : Nat) : List Char → StringEnd
  | [] => .open_ newlines
  | '\\' :: [] => .open_ newlines
  | '\\' :: c :: rest =>
    stringEnd quote size 0 (if c = '\n' then newlines + 1 else newlines) rest
  | c :: rest =>
    if c = '\n' && size == 1 then .open_ (newlines + 1)
    else if c = quote then
      if seen + 1 = size then .closed rest newlines
      else stringEnd quote size (seen + 1) newlines rest
    else stringEnd quote size 0 (if c = '\n' then newlines + 1 else newlines) rest

def twoCharOperators : List String :=
  ["!=", "%=", "&=", "**", "*=", "+=", "-=", "->", "//", "/=", ":=", "<<", "<=", "<>", "==", ">=",
    ">>", "@=", "^=", "|="]

def threeCharOperators : List String := ["**=", "//=", "<<=", ">>="]

/-- The length of the operator at the start of the text. -/
def operatorLength (cs : List Char) : Nat :=
  let starts (n : Nat) (ops : List String) : Bool := (ops.map String.toList).contains (cs.take n)
  if starts 3 ["..."] then 3
  else if starts 2 twoCharOperators then
    if starts 3 threeCharOperators then 3 else 2
  else 1

def closingOf : Char → Char
  | '(' => ')'
  | '[' => ']'
  | _ => '}'

/-! ## The scan -/

/-- The place of the scan in the text. `line` counts the line ends passed so far. -/
structure Cursor where
  rest : List Char
  position : Nat
  passed : Nat

/-- The number of the line that was read last: at the end of the text it is the last line. -/
def Cursor.line (c : Cursor) : Nat := if c.rest.isEmpty then c.passed else c.passed + 1

structure Scan where
  cursor : Cursor
  /-- Indentation columns, innermost first; tabs count up to eight in the one, one in the other. -/
  indents : List (Nat × Nat)
  brackets : List (Char × Nat)
  /-- The tokens so far, the last one first. -/
  taken : List Token

def Scan.tokens (s : Scan) : Array Token := s.taken.reverse.toArray

def Scan.stop (s : Scan) (announced : Bool) (cause : Cause) (line : Nat) : Lexed :=
  ⟨s.tokens, some ⟨⟨cause, some line⟩, announced, s.brackets.head?⟩⟩

/-- A bracket that is still open at the end of the text is the fault there. -/
def Scan.stopAtEnd (s : Scan) : Lexed :=
  match s.brackets with
  | (opening, line) :: _ => s.stop false (.unclosedBracket opening) line
  | [] => s.stop false .unexpectedEnd s.cursor.line

def Scan.push (s : Scan) (kind : TokenKind) (text : List Char) (span : Span) (after : Cursor) :
    Scan :=
  { s with
    cursor := after
    taken := .ofChars kind text span s.brackets.length :: s.taken }

/-- A token without line ends in it. -/
def Scan.pushWithin (s : Scan) (kind : TokenKind) (length : Nat) : Scan :=
  let c := s.cursor
  s.push kind (c.rest.take length) ⟨c.line, c.line, c.position, c.position + length⟩
    ⟨c.rest.drop length, c.position + length, c.passed⟩

/-- Why the blanks at the start of a line cannot be read. -/
inductive BlankFault where
  | stray
  | atEnd

/-- The blanks at the start of a line: the column in both ways of counting tabs, the column of the
first backslash if there is one, and where the blanks end. A form feed restarts the count. -/
def leadingBlanks (col alt : Nat) (continued : Nat) (position passed : Nat) :
    List Char → Except (BlankFault × Cursor) (Nat × Nat × Nat × Cursor)
  | ' ' :: rest => leadingBlanks (col + 1) (alt + 1) continued (position + 1) passed rest
  | '\t' :: rest =>
    leadingBlanks ((col / 8 + 1) * 8) (alt + 1) continued (position + 1) passed rest
  | '\x0c' :: rest => leadingBlanks 0 0 continued (position + 1) passed rest
  | '\\' :: '\n' :: rest =>
    if rest.isEmpty then .error (.atEnd, ⟨rest, position + 2, passed + 1⟩)
    else leadingBlanks col alt (if continued = 0 then col else continued) (position + 2)
      (passed + 1) rest
  | '\\' :: rest => .error (.stray, ⟨rest, position + 1, passed⟩)
  | rest => .ok (col, alt, continued, ⟨rest, position, passed⟩)

/-- The indentation levels that remain when a line starts at column `col`. -/
def dedentTo (col : Nat) : List (Nat × Nat) → List (Nat × Nat)
  | [] => []
  | (c, a) :: outer => if col < c ∧ !outer.isEmpty then dedentTo col outer else (c, a) :: outer

def Scan.pushDedents (s : Scan) : Nat → Scan
  | 0 => s
  | n + 1 => (s.pushWithin .dedent 0).pushDedents n

/-- Compares the column of a line with the open levels and emits what changes. -/
def Scan.indentTo (s : Scan) (col alt : Nat) : Except Lexed Scan :=
  let line := s.cursor.line
  match s.indents with
  | [] => .ok s
  | (c, a) :: outer =>
    if col = c then
      if alt = a then .ok s else .error (s.stop false .inconsistentTabs line)
    else if c < col then
      if 100 ≤ s.indents.length then .error (s.stop false .tooManyIndents line)
      else if alt ≤ a then .error (s.stop false .inconsistentTabs line)
      else .ok ({ s with indents := (col, alt) :: (c, a) :: outer }.pushWithin .indent 0)
    else
      let remaining := dedentTo col s.indents
      match remaining with
      | (c', a') :: _ =>
        if c' ≠ col then .error (s.stop false .inconsistentDedent line)
        else if a' ≠ alt then .error (s.stop false .inconsistentTabs line)
        else
          .ok ({ s with indents := remaining }.pushDedents
            (s.indents.length - remaining.length))
      | [] => .ok s

def Cursor.advance (c : Cursor) (n : Nat) : Cursor :=
  ⟨c.rest.drop n, c.position + n, c.passed⟩

/-- Past the newline at the cursor. -/
def Cursor.nextLine (c : Cursor) : Cursor := ⟨c.rest.drop 1, c.position + 1, c.passed + 1⟩

/-- A string token. -/
def Scan.lexString (s : Scan) (letters : List Char) : Except Lexed Scan :=
  let c := s.cursor
  match c.rest.drop letters.length with
  | [] => .ok s
  | quote :: body =>
    let triple := opensTriple quote body
    let size := if triple then 3 else 1
    match stringEnd quote size 0 0 (if triple then body.drop 2 else body) with
    | .closed rest newlines =>
      let length := c.rest.length - rest.length
      let stop := c.position + length
      .ok (s.push .string (c.rest.take length) ⟨c.line, c.line + newlines, c.position, stop⟩
        ⟨rest, stop, c.passed + newlines⟩)
    | .open_ newlines =>
      -- At the end of the text no further line has been read.
      let detected := c.line + newlines - 1
      .error (s.stop true
        (if triple then .unterminatedTripleString detected else .unterminatedString detected)
        c.line)

/-- A number token. -/
def Scan.lexNumber (s : Scan) (ending : Except Cause (List Char)) : Except Lexed Scan :=
  match ending with
  | .error cause => .error (s.stop true cause s.cursor.line)
  | .ok rest => .ok (s.pushWithin .number (s.cursor.rest.length - rest.length))

def Scan.lexName (s : Scan) : Except Lexed Scan :=
  let name := s.cursor.rest.takeWhile mayContinueName
  match badNameChar? name with
  | some c =>
    .error (s.stop true (if Text.isPrintable c then .invalidCharacter c else .unprintable c)
      s.cursor.line)
  | none => .ok (s.pushWithin .name name.length)

/-- An operator or bracket. -/
def Scan.lexOperator (s : Scan) (c : Char) : Except Lexed Scan :=
  let line := s.cursor.line
  let length := operatorLength s.cursor.rest
  if 1 < length then .ok (s.pushWithin .operator length)
  else if c = '(' ∨ c = '[' ∨ c = '{' then
    if 200 ≤ s.brackets.length then .error (s.stop true .tooManyBrackets line)
    else .ok ({ s with brackets := (c, line) :: s.brackets }.pushWithin .operator 1)
  else if c = ')' ∨ c = ']' ∨ c = '}' then
    match s.brackets with
    | [] => .error (s.stop true (.unmatchedBracket c) line)
    | (opening, openLine) :: outer =>
      let s' := { s with brackets := outer }
      if closingOf opening = c then .ok (s'.pushWithin .operator 1)
      else .error (s'.stop true
        (.mismatchedBracket c opening (if openLine = line then none else some openLine)) line)
  else if !Text.isPrintable c then .error (s.stop true (.unprintable c) line)
  else .ok (s.pushWithin .operator 1)

/-- The token at the cursor. The text goes on with `c` and then with `rest`. -/
def Scan.lexToken (s : Scan) (c : Char) (rest : List Char) : Except Lexed Scan :=
  if mayStartName c then
    match stringPrefix? (c :: rest) with
    | some letters => s.lexString letters
    | none => s.lexName
  else if isQuote c then s.lexString []
  else if c.isDigit then s.lexNumber (numberEnd (c :: rest))
  else if c = '.' && rest.head?.any Char.isDigit then s.lexNumber (fractionEnd rest)
  else s.lexOperator c

/-- Past the blanks and the comment at the cursor. -/
def Cursor.skipBlanks (c : Cursor) : Cursor :=
  let c := c.advance (c.rest.takeWhile fun c => c == ' ' || c == '\t' || c == '\x0c').length
  if c.rest.head? = some '#' then c.advance (c.rest.takeWhile (· ≠ '\n')).length else c

/-- The rest of a line from the cursor on: the next token, or the end of the line. `atStart` says
that the next line's indentation has to be read first. -/
def Scan.step (s : Scan) : Except Lexed (Scan × Bool) :=
  let cursor := s.cursor.skipBlanks
  let s := { s with cursor }
  match cursor.rest with
  | [] =>
    if s.brackets.isEmpty then
      .error ⟨(s.pushWithin .finish 0).tokens, none⟩
    else .error s.stopAtEnd
  | c :: rest =>
    if c = '\n' then
      if s.brackets.isEmpty then
        .ok (s.push .newline [] ⟨cursor.line, cursor.line, cursor.position, cursor.position⟩
          cursor.nextLine, true)
      else .ok ({ s with cursor := cursor.nextLine }, true)
    else if c = '\\' then
      match rest with
      | '\n' :: rest' =>
        let s := { s with cursor := ⟨rest', cursor.position + 2, cursor.passed + 1⟩ }
        if rest'.isEmpty then .error s.stopAtEnd else .ok (s, false)
      | _ => .error (s.stop false .strayAfterContinuation cursor.line)
    else (s.lexToken c rest).map fun s => (s, false)

/-- The start of a line. A line of blanks and comments only has no tokens. -/
def Scan.startLine (s : Scan) : Except Lexed (Scan × Bool) :=
  match leadingBlanks 0 0 0 s.cursor.position s.cursor.passed s.cursor.rest with
  | .error (.stray, cursor) =>
    .error (s.stop false .strayAfterContinuation (cursor.passed + 1))
  | .error (.atEnd, cursor) => .error { s with cursor }.stopAtEnd
  | .ok (col, alt, continued, cursor) =>
    let s := { s with cursor }
    match cursor.rest with
    | '#' :: _ =>
      let cursor := cursor.advance (cursor.rest.takeWhile (· ≠ '\n')).length
      .ok ({ s with cursor := cursor.nextLine }, true)
    | '\n' :: _ => .ok ({ s with cursor := cursor.nextLine }, true)
    | _ =>
      if s.brackets.isEmpty then
        let col' := if continued = 0 then col else continued
        let alt' := if continued = 0 then alt else continued
        (s.indentTo col' alt').map fun s => (s, false)
      else .ok (s, false)

/-- Every round reads at least one character or only reads the indentation of a line, so twice the
length of the text bounds the number of rounds. -/
def Scan.run : Nat → Scan → Bool → Lexed
  | 0, s, _ => ⟨s.tokens, none⟩
  | fuel + 1, s, atStart =>
    match if atStart then s.startLine else s.step with
    | .error result => result
    | .ok (s', atStart') => s'.run fuel atStart'

/-- The tokens of a text that starts on the given line. -/
def lex (chars : List Char) (firstLine : Nat) : Lexed :=
  Scan.run (2 * chars.length + 4) ⟨⟨chars, 0, firstLine - 1⟩, [(0, 0)], [], []⟩ true

end DesignLens.Source
