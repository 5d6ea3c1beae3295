/-!
# Tokens

A token is a piece of source text with its place. Places are counted in characters of the source
after its line ends have been made uniform; `Layout` leads back to the text as it was written.
-/

namespace DesignLens.Source

/-- A stretch of source: lines are counted from one, `stop` is the first position after it. -/
structure Span where
  line : Nat
  endLine : Nat
  start : Nat
  stop : Nat
  deriving DecidableEq, Repr, Inhabited

/-- From the start of one stretch to the end of another. -/
def Span.through (a b : Span) : Span := ⟨a.line, b.endLine, a.start, b.stop⟩

inductive TokenKind where
  | name
  | number
  | string
  | operator
  | newline
  | indent
  | dedent
  | finish
  deriving DecidableEq, Repr

/-- A string taken apart. -/
structure StringParts where
  isBytes : Bool := false
  isRaw : Bool := false
  isFormatted : Bool := false
  body : List Char := []
  /-- What comes before the body: the letters and the opening quotes. -/
  opening : List Char := []
  deriving DecidableEq, Repr

def StringParts.ofChars (cs : List Char) : StringParts :=
  let letters := cs.takeWhile Char.isAlpha
  let has (c : Char) : Bool := letters.any fun d => d.toLower == c
  let quoted := cs.drop letters.length
  let size := match quoted with
    | a :: b :: c :: _ :: _ :: _ => if a == b && b == c then 3 else 1
    | _ => 1
  { isBytes := has 'b'
    isRaw := has 'r' || !cs.contains '\\'
    isFormatted := has 'f'
    body := (quoted.drop size).take (quoted.length - 2 * size)
    opening := letters ++ quoted.take size }

structure Token where
  kind : TokenKind
  chars : List Char
  span : Span
  /-- The number of brackets that are open after the token. -/
  depth : Nat
  /-- What a string consists of; other tokens have no parts. -/
  parts : StringParts
  deriving DecidableEq, Repr

def Token.ofChars (kind : TokenKind) (cs : List Char) (span : Span) (depth : Nat) : Token :=
  ⟨kind, cs, span, depth, if kind = .string then .ofChars cs else {}⟩

def Token.text (t : Token) : String := String.ofList t.chars

/-- Tokens that only lay out the text: they do not count as the last token of a statement. -/
def TokenKind.isLayout : TokenKind → Bool
  | .newline | .indent | .dedent | .finish => true
  | _ => false

/-- Names that are reserved everywhere. -/
def keywords : List String :=
  ["False", "None", "True", "and", "as", "assert", "async", "await", "break", "class", "continue",
    "def", "del", "elif", "else", "except", "finally", "for", "from", "global", "if", "import",
    "in", "is", "lambda", "nonlocal", "not", "or", "pass", "raise", "return", "try", "while",
    "with", "yield"]

/-- Names that are reserved only where a statement or pattern may start with them. -/
def softKeywords : List String := ["_", "case", "match"]

def Token.spells (t : Token) (text : String) : Bool := t.chars == text.toList

/-- A name that may be used as an identifier. -/
def Token.isIdentifier (t : Token) : Bool :=
  t.kind == .name && !(keywords.map String.toList).contains t.chars

/-- The given operator or keyword. -/
def Token.is (t : Token) (text : String) : Bool :=
  (t.kind == .operator || t.kind == .name) && t.spells text

/-- Source text with uniform line ends, and for each position the place in the text as written. -/
structure Layout where
  chars : List Char
  offsets : Array Nat
  written : List Char

/-- Line ends in any of the three spellings become newlines. Each character is paired with its
place in the text as written. -/
def uniformLineEnds : Nat → List Char → List (Char × Nat)
  | _, [] => []
  | n, '\r' :: '\n' :: rest => ('\n', n) :: uniformLineEnds (n + 2) rest
  | n, c :: rest => (if c = '\r' then '\n' else c, n) :: uniformLineEnds (n + 1) rest

/-- A text that ends in a carriage return and a newline, or in no line end at all, gets one more
newline. -/
def endsOpen (cs : List Char) : Bool :=
  match cs.reverse with
  | '\n' :: '\r' :: _ => true
  | '\n' :: _ => false
  | '\r' :: _ => false
  | _ => true

def Layout.ofText (text : String) : Layout :=
  let written := text.toList
  let marks := uniformLineEnds 0 written
  let chars := marks.map Prod.fst
  let offsets := (marks.map Prod.snd).toArray.push written.length
  ⟨if endsOpen written then chars ++ ['\n'] else chars, offsets, written⟩

/-- The whole text as it was written. -/
def Layout.text (layout : Layout) : String := String.ofList layout.written

/-- The place of a position in the text as written. -/
def Layout.place (layout : Layout) (i : Nat) : Nat :=
  (layout.offsets[i]?).getD layout.written.length

/-- The text of a stretch as it was written. -/
def Layout.segment (layout : Layout) (span : Span) : String :=
  let first := layout.place span.start
  String.ofList ((layout.written.drop first).take (layout.place span.stop - first))

end DesignLens.Source
