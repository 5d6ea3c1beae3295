import DesignLens.Json.Value
import DesignLens.Number.Decimal
import DesignLens.Text.RangeSet

/-!
# Reading JSON

`Json.read` reads a text as one JSON value. Besides the standard it takes the words `NaN`,
`Infinity` and `-Infinity`. A repeated field keeps its first place and its last value. What is
wrong with a text is a `ReadFault`, which knows its place.
-/

namespace DesignLens.Json

inductive ReadCause where
  | expectingValue
  | expectingName
  | expectingColon
  | expectingComma
  | extraData
  | unterminatedString
  | controlCharacter
  | invalidEscape
  | invalidUnicodeEscape
  | byteOrderMark
  | tooManyDigits (count : Nat)
  deriving DecidableEq, Repr

def ReadCause.message : ReadCause → String
  | .expectingValue => "Expecting value"
  | .expectingName => "Expecting property name enclosed in double quotes"
  | .expectingColon => "Expecting ':' delimiter"
  | .expectingComma => "Expecting ',' delimiter"
  | .extraData => "Extra data"
  | .unterminatedString => "Unterminated string starting at"
  | .controlCharacter => "Invalid control character at"
  | .invalidEscape => "Invalid \\escape"
  | .invalidUnicodeEscape => "Invalid \\uXXXX escape"
  | .byteOrderMark => "Unexpected UTF-8 BOM (decode using utf-8-sig)"
  | .tooManyDigits count =>
    s!"Exceeds the limit (4300 digits) for integer string conversion: value has {count} digits; " ++
      "use sys.set_int_max_str_digits() to increase the limit"

/-- What is wrong and at which character, counted from zero. -/
structure ReadFault where
  cause : ReadCause
  position : Nat
  deriving DecidableEq, Repr

/-- The message gives the place as line, column and character. -/
def ReadFault.message (f : ReadFault) (text : String) : String :=
  match f.cause with
  | .tooManyDigits _ => f.cause.message
  | _ =>
    let before := text.toList.take f.position
    let line := before.count '\n' + 1
    let column := (before.reverse.takeWhile (· ≠ '\n')).length + 1
    f.cause.message ++ s!": line {line} column {column} (char {f.position})"

/-- The rest of a text with the number of characters before it. -/
structure Rest where
  chars : List Char
  position : Nat

def Rest.advance (r : Rest) (n : Nat) : Rest := ⟨r.chars.drop n, r.position + n⟩

def isBlank (c : Char) : Bool := c == ' ' || c == '\t' || c == '\n' || c == '\r'

def Rest.skipBlanks (r : Rest) : Rest := r.advance (r.chars.takeWhile isBlank).length

def Rest.fail {α : Type} (r : Rest) (cause : ReadCause) : Except ReadFault α :=
  .error ⟨cause, r.position⟩

/-- Four hexadecimal digits. -/
def unit? (cs : List Char) : Option Nat :=
  let ds := cs.take 4
  if ds.length = 4 && ds.all (fun c => (Text.hexDigit? c).isSome) then some (Text.readHex ds)
  else none

def isHighHalf (u : Nat) : Bool := 0xd800 ≤ u && u < 0xdc00

def isLowHalf (u : Nat) : Bool := 0xdc00 ≤ u && u < 0xe000

/-- A code unit that stands for no character of its own is shown as a replacement character. -/
def charOfUnit (u : Nat) : Char :=
  if 0xd800 ≤ u && u < 0xe000 then Char.ofNat 0xfffd else Char.ofNat u

def escaped? : Char → Option Char
  | '"' => some '"'
  | '\\' => some '\\'
  | '/' => some '/'
  | 'b' => some '\x08'
  | 'f' => some '\x0c'
  | 'n' => some '\n'
  | 'r' => some '\r'
  | 't' => some '\t'
  | _ => none

/-- The characters of a string after its opening quote, which stands at `start`. The fuel is the
length of the text. -/
def readChars (start : Nat) : Nat → List Char → Rest → Except ReadFault (String × Rest)
  | 0, _, _ => .error ⟨.unterminatedString, start⟩
  | fuel + 1, acc, r =>
    match r.chars with
    | [] => .error ⟨.unterminatedString, start⟩
    | '"' :: _ => .ok (String.ofList acc.reverse, r.advance 1)
    | '\\' :: [] => .error ⟨.unterminatedString, start⟩
    | '\\' :: 'u' :: more =>
      match unit? more with
      | none => .error ⟨.invalidUnicodeEscape, r.position + 2⟩
      | some high =>
        let after := r.advance 6
        match after.chars with
        | '\\' :: 'u' :: more' =>
          match unit? more' with
          | some low =>
            if isHighHalf high && isLowHalf low then
              let c := Char.ofNat (0x10000 + (high - 0xd800) * 0x400 + (low - 0xdc00))
              readChars start fuel (c :: acc) (after.advance 6)
            else readChars start fuel (charOfUnit high :: acc) after
          | none => readChars start fuel (charOfUnit high :: acc) after
        | _ => readChars start fuel (charOfUnit high :: acc) after
    | '\\' :: c :: _ =>
      match escaped? c with
      | some d => readChars start fuel (d :: acc) (r.advance 2)
      | none => .error ⟨.invalidEscape, r.position⟩
    | c :: _ =>
      if c.toNat < 32 then .error ⟨.controlCharacter, r.position⟩
      else readChars start fuel (c :: acc) (r.advance 1)

def readString (r : Rest) : Except ReadFault (String × Rest) :=
  readChars r.position (r.chars.length + 1) [] (r.advance 1)

def takeDigits (cs : List Char) : List Char := cs.takeWhile Char.isDigit

def digitValues (cs : List Char) : List Nat := cs.map fun c => c.toNat - 48

/-- The digits before the point of a number; a zero stands alone. -/
def wholeDigits (cs : List Char) : List Char :=
  match cs with
  | '0' :: _ => ['0']
  | _ => takeDigits cs

/-- The digits after a point, if there is one. -/
def fractionDigits (cs : List Char) : List Char :=
  match cs with
  | '.' :: more => takeDigits more
  | _ => []

/-- The sign of an exponent, what comes after it, and the number of characters up to there. -/
def exponentSign (cs : List Char) : Int × List Char × Nat :=
  match cs with
  | '-' :: rest => (-1, rest, 2)
  | '+' :: rest => (1, rest, 2)
  | _ => (1, cs, 1)

/-- The exponent of a number, with the number of characters it takes. -/
def exponent? (cs : List Char) : Option (Int × Nat) :=
  match cs with
  | e :: rest =>
    if e = 'e' ∨ e = 'E' then
      let (sign, rest, width) := exponentSign rest
      let ds := takeDigits rest
      if ds.isEmpty then none
      else
        let size := min (Number.natOfDigits (digitValues ds)) 1000000
        some (sign * (size : Int), width + ds.length)
    else none
  | [] => none

/-- The parts of a number. -/
structure Numeral where
  negative : Bool
  whole : List Char
  fraction : List Char
  /-- The exponent with the number of characters it takes. -/
  exponent : Option (Int × Nat)

def Numeral.length (n : Numeral) : Nat :=
  (if n.negative then 1 else 0) + n.whole.length +
    (if n.fraction.isEmpty then 0 else n.fraction.length + 1) + n.exponent.elim 0 Prod.snd

/-- The parts of a number at the start of a text after its sign. -/
def numeralOf (negative : Bool) (body : List Char) : Numeral :=
  let whole := wholeDigits body
  let afterWhole := body.drop whole.length
  let fraction := fractionDigits afterWhole
  let afterFraction :=
    if fraction.isEmpty then afterWhole else afterWhole.drop (fraction.length + 1)
  ⟨negative, whole, fraction, exponent? afterFraction⟩

def numeralAt : List Char → Numeral
  | '-' :: body => numeralOf true body
  | body => numeralOf false body

/-- A number at the start of the text. -/
def readNumber (r : Rest) : Except ReadFault (Json × Rest) :=
  let n := numeralAt r.chars
  if n.whole.isEmpty then r.fail .expectingValue
  else
    let rest := r.advance n.length
    if n.fraction.isEmpty && n.exponent.isNone then
      if 4300 < n.whole.length then .error ⟨.tooManyDigits n.whole.length, r.position⟩
      else
        let size : Int := Number.natOfDigits (digitValues n.whole)
        .ok (.int (if n.negative then -size else size), rest)
    else
      let parts : Number.DecimalParts :=
        ⟨digitValues n.whole, digitValues n.fraction, n.exponent.elim 0 Prod.fst⟩
      .ok (.float (parts.value n.negative), rest)

def words : List (String × Json) :=
  [("null", .null), ("true", .bool true), ("false", .bool false), ("NaN", .float .nan),
    ("Infinity", .float (.infinite false)), ("-Infinity", .float (.infinite true))]

mutual

/-- A value at the start of the text. The fuel is more than the length of the text. -/
def readValue : Nat → Rest → Except ReadFault (Json × Rest)
  | 0, r => r.fail .expectingValue
  | fuel + 1, r =>
    match r.chars with
    | '"' :: _ => (readString r).map fun (s, rest) => (.str s, rest)
    | '{' :: _ =>
      let inside := (r.advance 1).skipBlanks
      if inside.chars.head? = some '}' then .ok (.obj [], inside.advance 1)
      else (readFields fuel [] inside).map fun (fields, rest) => (.obj fields, rest)
    | '[' :: _ =>
      let inside := (r.advance 1).skipBlanks
      if inside.chars.head? = some ']' then .ok (.arr [], inside.advance 1)
      else (readItems fuel [] inside).map fun (items, rest) => (.arr items, rest)
    | _ =>
      match words.find? fun w => w.1.toList.isPrefixOf r.chars with
      | some (word, value) => .ok (value, r.advance word.length)
      | none => readNumber r

/-- The items of an array up to its end. -/
def readItems : Nat → List Json → Rest → Except ReadFault (List Json × Rest)
  | 0, _, r => r.fail .expectingValue
  | fuel + 1, acc, r => do
    let (v, rest) ← readValue fuel r
    let rest := rest.skipBlanks
    match rest.chars with
    | ']' :: _ => .ok ((v :: acc).reverse, rest.advance 1)
    | ',' :: _ => readItems fuel (v :: acc) (rest.advance 1).skipBlanks
    | _ => rest.fail .expectingComma

/-- The fields of an object up to its end. -/
def readFields : Nat → List (String × Json) → Rest →
    Except ReadFault (List (String × Json) × Rest)
  | 0, _, r => r.fail .expectingValue
  | fuel + 1, acc, r =>
    if r.chars.head? ≠ some '"' then r.fail .expectingName
    else do
      let (name, rest) ← readString r
      let rest := rest.skipBlanks
      if rest.chars.head? ≠ some ':' then rest.fail .expectingColon
      else
        let (v, rest) ← readValue fuel (rest.advance 1).skipBlanks
        let rest := rest.skipBlanks
        let acc := Table.insert name v acc
        match rest.chars with
        | '}' :: _ => .ok (acc, rest.advance 1)
        | ',' :: _ => readFields fuel acc (rest.advance 1).skipBlanks
        | _ => rest.fail .expectingComma

end

/-- The value that a text denotes. -/
def read (text : String) : Except ReadFault Json :=
  let start : Rest := ⟨text.toList, 0⟩
  if start.chars.head? = some (Char.ofNat 0xfeff) then start.fail .byteOrderMark
  else do
    let (v, rest) ← readValue (2 * start.chars.length + 2) start.skipBlanks
    let rest := rest.skipBlanks
    if rest.chars.isEmpty then .ok v else rest.fail .extraData

end DesignLens.Json
