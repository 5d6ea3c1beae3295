import DesignLens.Source.Grammar.Core

/-!
# Literals

The values of number and string tokens. Escapes of a string are decoded one after the other; a
formatted string is cut into literal text and replacement fields, and the expression of each field
is handed to a parser as soon as it has been found, so that its faults come before later ones.
-/

namespace DesignLens.Source

/-! ## Numbers -/

def digitsValue (base : Nat) (digits : List Char) : Nat :=
  digits.foldl (fun n c => base * n + (Text.hexDigit? c).getD 0) 0

/-- Decimal integers longer than this are refused. -/
def integerDigitLimit : Nat := 4300

def numberConstant (text : String) : Except Cause Constant :=
  let digits := text.toList.filter (· ≠ '_')
  match digits with
  | '0' :: x :: rest =>
    if x = 'x' ∨ x = 'X' then .ok (.integer (digitsValue 16 rest))
    else if x = 'o' ∨ x = 'O' then .ok (.integer (digitsValue 8 rest))
    else if x = 'b' ∨ x = 'B' then .ok (.integer (digitsValue 2 rest))
    else decimal digits
  | _ => decimal digits
where
  decimal (digits : List Char) : Except Cause Constant :=
    if digits.all Char.isDigit then
      if integerDigitLimit < digits.length then .error (.integerTooLong digits.length)
      else .ok (.integer (digitsValue 10 digits))
    else if digits.any (fun c => c = 'j' || c = 'J') then .ok (.imaginary (String.ofList digits))
    else .ok (.real (String.ofList digits))

/-! ## Escapes -/

/-- How many hexadecimal digits follow an escape letter. -/
def hexEscapeWidth? : Char → Option Nat
  | 'x' => some 2
  | 'u' => some 4
  | 'U' => some 8
  | _ => none

def hexEscapeReason : Char → String
  | 'x' => "truncated \\xXX escape"
  | 'u' => "truncated \\uXXXX escape"
  | _ => "truncated \\UXXXXXXXX escape"

def simpleEscape? : Char → Option Char
  | '\\' => some '\\'
  | '\'' => some '\''
  | '"' => some '"'
  | 'b' => some '\x08'
  | 'f' => some '\x0c'
  | 't' => some '\t'
  | 'n' => some '\n'
  | 'r' => some '\r'
  | 'v' => some '\x0b'
  | 'a' => some '\x07'
  | _ => none

def isOctal (c : Char) : Bool := '0' ≤ c && c < '8'

/-- Positions in the report of a bad escape count each character beyond ASCII as ten. -/
def reportWidth (c : Char) : Nat := if c.toNat < 128 then 1 else 10

/-- Decodes the escapes of a text. `position` is the place of the next character in the terms of
the report of a bad escape. The fuel is the length of the text. -/
def decodeText : Nat → Nat → List Char → Except Cause (List Char)
  | 0, _, _ => .ok []
  | _, _, [] => .ok []
  | fuel + 1, position, '\\' :: c :: rest =>
    match simpleEscape? c with
    | some d => (decodeText fuel (position + 2) rest).map (d :: ·)
    | none =>
      if c = '\n' then decodeText fuel (position + 2) rest
      else if isOctal c then
        let more := (rest.takeWhile isOctal).take 2
        let value := digitsValue 8 (c :: more)
        (decodeText fuel (position + 2 + more.length) (rest.drop more.length)).map
          (Char.ofNat value :: ·)
      else if c = 'N' then
        match rest with
        | '{' :: inner =>
          let name := inner.takeWhile (· ≠ '}')
          if name.length = inner.length then
            .error (.badTextEscape position (position + 2 + (name.map reportWidth).foldr (· + ·) 0)
              "malformed \\N character escape")
          else if name.isEmpty then
            .error (.badTextEscape position (position + 2) "malformed \\N character escape")
          else (decodeText fuel (position + 4 + name.length) (inner.drop (name.length + 1))).map
            (Char.ofNat 0xfffd :: ·)
        | _ => .error (.badTextEscape position (position + 1) "malformed \\N character escape")
      else
        match hexEscapeWidth? c with
        | some width =>
          let digits := (rest.takeWhile fun d => (Text.hexDigit? d).isSome).take width
          let stop := position + 2 + digits.length
          if digits.length < width then
            .error (.badTextEscape position (stop - 1) (hexEscapeReason c))
          else
            let value := digitsValue 16 digits
            if 0x10ffff < value then
              .error (.badTextEscape position (stop - 1) "illegal Unicode character")
            else
              let d := if 0xd800 ≤ value ∧ value < 0xe000 then Char.ofNat 0xfffd
                else Char.ofNat value
              (decodeText fuel stop (rest.drop width)).map (d :: ·)
        | none =>
          let slash := if c.toNat < 128 then 1 else 6
          (decodeText fuel (position + slash + reportWidth c) rest).map ('\\' :: c :: ·)
  | fuel + 1, position, c :: rest =>
    (decodeText fuel (position + reportWidth c) rest).map (c :: ·)

/-- Decodes the escapes of a byte string. -/
def decodeBytes : Nat → Nat → List Char → Except Cause (List Nat)
  | 0, _, _ => .ok []
  | _, _, [] => .ok []
  | fuel + 1, position, '\\' :: c :: rest =>
    match simpleEscape? c with
    | some d => (decodeBytes fuel (position + 2) rest).map (d.toNat :: ·)
    | none =>
      if c = '\n' then decodeBytes fuel (position + 2) rest
      else if isOctal c then
        let more := (rest.takeWhile isOctal).take 2
        (decodeBytes fuel (position + 2 + more.length) (rest.drop more.length)).map
          (digitsValue 8 (c :: more) % 256 :: ·)
      else if c = 'x' then
        let digits := (rest.takeWhile fun d => (Text.hexDigit? d).isSome).take 2
        if digits.length < 2 then .error (.badByteEscape position)
        else (decodeBytes fuel (position + 4) (rest.drop 2)).map (digitsValue 16 digits :: ·)
      else (decodeBytes fuel (position + 2) rest).map (92 :: c.toNat :: ·)
  | fuel + 1, position, c :: rest =>
    (decodeBytes fuel (position + 1) rest).map (c.toNat :: ·)

/-! ## String tokens -/

/-- A fault of a formatted string: one of the string itself, or one of an expression inside. -/
inductive FieldFault where
  | ofString (cause : Cause)
  | ofExpression (fault : Fault)

/-- Parses the text of an expression that starts on the given line. -/
abbrev Embed : Type := List Char → Nat → Except Fault Expr

/-- Literal text up to a replacement field. The flag tells that a doubled brace ended it, so that
more literal text follows. Braces are doubled only outside format specifications. -/
def literalText (raw nested : Bool) :
    List Char → List Char → Except Cause (List Char × Bool × List Char)
  | acc, [] => .ok (acc.reverse, false, [])
  | acc, '\\' :: 'N' :: c :: rest =>
    if raw then
      literalText raw nested ('\\' :: acc) ('N' :: c :: rest)
    else if c = '{' then
      -- the name of a character runs up to its closing brace
      skipName raw nested (c :: 'N' :: '\\' :: acc) rest
    else literalText raw nested (c :: 'N' :: '\\' :: acc) rest
  | acc, '\\' :: c :: rest =>
    if !raw && c ≠ '{' && c ≠ '}' then literalText raw nested (c :: '\\' :: acc) rest
    else literalText raw nested ('\\' :: acc) (c :: rest)
  | acc, '{' :: rest =>
    match nested, rest with
    | false, '{' :: rest' => .ok (('{' :: acc).reverse, true, rest')
    | _, _ => .ok (acc.reverse, false, '{' :: rest)
  | acc, '}' :: rest =>
    match nested, rest with
    | false, '}' :: rest' => .ok (('}' :: acc).reverse, true, rest')
    | false, _ => .error .fieldSingleBrace
    | true, _ => .ok (acc.reverse, false, '}' :: rest)
  | acc, c :: rest => literalText raw nested (c :: acc) rest
termination_by _ cs => cs.length
where
  skipName (raw nested : Bool) :
      List Char → List Char → Except Cause (List Char × Bool × List Char)
    | acc, [] => .ok (acc.reverse, false, [])
    | acc, '}' :: rest => literalText raw nested ('}' :: acc) rest
    | acc, c :: rest => skipName raw nested (c :: acc) rest
  termination_by _ cs => cs.length

/-- The text of a replacement field up to what ends it: a closing brace, a conversion, a format
specification or an equals sign outside brackets and strings. -/
def fieldText (acc : List Char) (quote : Option (Char × Bool)) (brackets : List Char) :
    List Char → Except Cause (List Char × List Char)
  | [] =>
    if quote.isSome then .error .fieldUnterminatedString
    else
      match brackets with
      | opening :: _ => .error (.fieldUnmatched opening)
      | [] => .ok (acc.reverse, [])
  | c :: rest =>
    if c = '\\' then .error .fieldBackslash
    else
      match quote with
      | some (q, triple) =>
        if c = q then
          if triple then
            if rest.take 2 = [q, q] then fieldText (q :: q :: q :: acc) none brackets (rest.drop 2)
            else fieldText (c :: acc) quote brackets rest
          else fieldText (c :: acc) none brackets rest
        else fieldText (c :: acc) quote brackets rest
      | none =>
        if isQuote c then
          if rest.take 2 = [c, c] then
            fieldText (c :: c :: c :: acc) (some (c, true)) brackets (rest.drop 2)
          else fieldText (c :: acc) (some (c, false)) brackets rest
        else if c = '[' ∨ c = '{' ∨ c = '(' then
          if 200 ≤ brackets.length then .error .fieldBrackets
          else fieldText (c :: acc) none (c :: brackets) rest
        else if c = '#' then .error .fieldComment
        else if brackets.isEmpty && ['!', ':', '}', '=', '>', '<'].contains c then
          if rest.take 1 = ['='] && ['!', '=', '<', '>'].contains c then
            fieldText ('=' :: c :: acc) none brackets (rest.drop 1)
          else if c = '>' ∨ c = '<' then fieldText (c :: acc) none brackets rest
          else .ok (acc.reverse, c :: rest)
        else if c = ']' ∨ c = '}' ∨ c = ')' then
          match brackets with
          | [] => .error (.fieldUnmatched c)
          | opening :: outer =>
            if closingOf opening = c then fieldText (c :: acc) none outer rest
            else .error (.fieldMismatched c opening)
        else fieldText (c :: acc) none brackets rest
termination_by cs => cs.length
decreasing_by all_goals (simp only [List.length_cons, List.length_drop]; omega)

def isFieldBlank (c : Char) : Bool := c == ' ' || c == '\t' || c == '\n' || c == '\x0c'

def countNewlines (cs : List Char) : Nat := cs.count '\n'

def liftCause {α : Type} (r : Except Cause α) : Except FieldFault α := r.mapError .ofString

/-- The parts of a formatted string, or of a format specification when `level` is not zero, and
what follows them. `line` is the line of the first character. The fuel bounds the number of parts
and of nested specifications; a text has no more of them than characters. -/
def formattedParts (embed : Embed) (raw : Bool) (span : Span) :
    Nat → Nat → Nat → List Char → Except FieldFault (List Expr × List Char)
  | 0, _, _, cs => .ok ([], cs)
  | fuel + 1, level, line, cs => do
    let (text, more, rest) ← liftCause (literalText raw (level ≠ 0) [] cs)
    let decoded ← liftCause (if raw then .ok text else decodeText text.length 0 text)
    let literal : List Expr :=
      if text.isEmpty then [] else [.constant span (.text (String.ofList decoded))]
    let line := line + countNewlines (cs.take (cs.length - rest.length))
    if more then
      let (parts, rest) ← formattedParts embed raw span fuel level line rest
      return (literal ++ parts, rest)
    match rest with
    | '{' :: inside =>
      if 2 ≤ level then throw (.ofString .fieldNesting)
      let (source, rest) ← liftCause (fieldText [] none [] inside)
      if rest.isEmpty then throw (.ofString .fieldClosingBrace)
      if source.all isFieldBlank then throw (.ofString .fieldEmpty)
      let value ← (embed ('(' :: source ++ [')', '\n']) line).mapError .ofExpression
      let line := line + countNewlines source
      let (shown, rest) :=
        match rest with
        | '=' :: rest' =>
          ([Expr.constant span (.text (String.ofList (source ++ ['='])))], rest')
        | _ => ([], rest)
      if rest.isEmpty then throw (.ofString .fieldClosingBrace)
      let (conversion, rest) ←
        match rest with
        | '!' :: c :: rest' =>
          if c = 's' ∨ c = 'r' ∨ c = 'a' then pure (some c, rest')
          else throw (.ofString .fieldConversion)
        | ['!'] => throw (.ofString .fieldClosingBrace)
        | _ => pure (none, rest)
      if rest.isEmpty then throw (.ofString .fieldClosingBrace)
      let (format, rest) ←
        match rest with
        | ':' :: rest' =>
          if rest'.isEmpty then throw (.ofString .fieldClosingBrace)
          let (parts, rest'') ← formattedParts embed raw span fuel (level + 1) line rest'
          if rest''.head? ≠ some '}' then throw (.ofString .fieldClosingBrace)
          pure (some (Expr.joined span parts), rest'')
        | _ => pure (none, rest)
      match rest with
      | '}' :: after =>
        let line := line + countNewlines (inside.take (inside.length - after.length)) -
          countNewlines source
        let (parts, rest) ← formattedParts embed raw span fuel level line after
        return (literal ++ shown ++ .formatted span value conversion format :: parts, rest)
      | _ => throw (.ofString .fieldClosingBrace)
    | _ => return (literal, rest)

/-- The value of one string token. -/
inductive StringValue where
  | text (s : String)
  | bytes (bs : List Nat)
  | formatted (parts : List Expr)

/-- How a string literal can fail: on the line of its token, on the line that the parser has
reached, or inside an expression. -/
inductive LiteralFault where
  | atToken (cause : Cause)
  | reached (cause : Cause)
  | inside (fault : Fault)

def FieldFault.toLiteral : FieldFault → LiteralFault
  | .ofString cause => .reached cause
  | .ofExpression fault => .inside fault

/-- The value of a string token; `span` is the stretch of the whole literal. -/
def stringValue (embed : Embed) (span : Span) (t : Token) : Except LiteralFault StringValue :=
  let parts := t.parts
  if parts.isBytes then
    if parts.body.any (fun c => 128 ≤ c.toNat) then .error (.atToken .nonAsciiBytes)
    else if parts.isRaw then .ok (.bytes (parts.body.map Char.toNat))
    else ((decodeBytes parts.body.length 0 parts.body).map .bytes).mapError .reached
  else if parts.isFormatted then
    ((formattedParts embed parts.isRaw span (2 * parts.body.length + 2) 0
      (t.span.line + countNewlines parts.opening) parts.body).map
        fun r => .formatted r.1).mapError (·.toLiteral)
  else if parts.isRaw then .ok (.text (String.ofList parts.body))
  else ((decodeText parts.body.length 0 parts.body).map
    fun cs => .text (String.ofList cs)).mapError .reached

def StringValue.isBytes : StringValue → Bool
  | .bytes _ => true
  | _ => false

/-- The values of adjacent string tokens, in order; text and bytes may not be mixed. -/
def stringValues (embed : Embed) (span : Span) :
    Option Bool → List Token → Except LiteralFault (List StringValue)
  | _, [] => .ok []
  | mode, t :: rest => do
    let value ← stringValue embed span t
    if mode.any (· ≠ value.isBytes) then .error (.reached .mixedBytes)
    else return value :: (← stringValues embed span (some value.isBytes) rest)

/-- One literal from adjacent string tokens. -/
def joinStrings (span : Span) (values : List StringValue) : Expr :=
  if values.any StringValue.isBytes then
    .constant span (.bytes (values.flatMap fun
      | .bytes bs => bs
      | _ => []))
  else if values.any (fun | .formatted _ => true | _ => false) then
    .joined span (values.flatMap fun
      | .text s => if s.isEmpty then [] else [.constant span (.text s)]
      | .formatted parts => parts
      | .bytes _ => [])
  else
    .constant span (.text (String.join (values.map fun
      | .text s => s
      | _ => "")))

end DesignLens.Source
