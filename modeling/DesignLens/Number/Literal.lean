import DesignLens.Number.Decimal
import DesignLens.Text.Blank
import DesignLens.Text.Case

/-!
# Numbers in texts

A number in a text has a sign, digits, a point and an exponent, of which most may be left out.
Single underscores may stand between digits, blanks may stand around the number, digits of any
script count, and there are words for infinity and for what is not a number.
-/

namespace DesignLens.Number

/-- Digits of any script in their ASCII form. -/
def plainDigits (cs : List Char) : List Char :=
  cs.map fun c => ((Text.decimalDigit? c).map digitChar).getD c

/-- The text without underscores, if each of them stands between two digits. -/
def dropUnderscores (before : Char) : List Char → Option (List Char)
  | [] => some []
  | ['_'] => none
  | '_' :: next :: rest =>
    if before.isDigit && next.isDigit then
      (dropUnderscores next rest).map (next :: ·)
    else none
  | c :: rest => (dropUnderscores c rest).map (c :: ·)

def takeSign : List Char → Bool × List Char
  | '-' :: rest => (true, rest)
  | '+' :: rest => (false, rest)
  | rest => (false, rest)

def digitValues (cs : List Char) : List Nat := cs.map fun c => c.toNat - 48

/-- The exponent that a text ends with; nothing stands for zero. -/
def exponentOf (cs : List Char) : Option Int :=
  match cs with
  | [] => some 0
  | c :: rest =>
    if c == 'e' || c == 'E' then
      let (negative, digits) := takeSign rest
      if digits.isEmpty || !digits.all Char.isDigit then none
      else
        let size : Int := natOfDigits (digitValues digits)
        some (if negative then -size else size)
    else none

/-- The parts of a number without sign. -/
def partsOf? (cs : List Char) : Option DecimalParts :=
  let whole := cs.takeWhile Char.isDigit
  let rest := cs.drop whole.length
  let (fraction, rest) :=
    match rest with
    | '.' :: more => (more.takeWhile Char.isDigit, more.dropWhile Char.isDigit)
    | _ => ([], rest)
  if whole.isEmpty && fraction.isEmpty then none
  else (exponentOf rest).map fun e => ⟨digitValues whole, digitValues fraction, e⟩

def Binary64.read? (text : String) : Option Binary64 := do
  let cs ← dropUnderscores ' ' (plainDigits (Text.trimChars text.toList))
  let (negative, cs) := takeSign cs
  match String.ofList (cs.map Char.toLower) with
  | "nan" => some .nan
  | "inf" | "infinity" => some (.infinite negative)
  | _ => (partsOf? cs).map fun p => p.value negative

/-- The greatest number of digits in a whole number that is read from a text. -/
def digitLimit : Nat := 4300

/-- A whole number in a text. -/
def readInt? (text : String) : Option Int := do
  let cs ← dropUnderscores ' ' (plainDigits (Text.trimChars text.toList))
  let (negative, digits) := takeSign cs
  if digits.isEmpty || !digits.all Char.isDigit || digitLimit < digits.length then none
  else
    let size : Int := natOfDigits (digitValues digits)
    some (if negative then -size else size)

end DesignLens.Number
