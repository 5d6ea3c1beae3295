import DesignLens.Text.Letters

/-!
# Character classes and case

The questions that the rest of the library asks about single characters, and the lower case and
title case of a text. ASCII characters are answered without a look at the tables.
-/

namespace DesignLens.Text

def isNameStart (c : Char) : Bool :=
  c.isAlpha || c == '_' || (128 ≤ c.toNat && nameStarters.contains c.toNat)

def isNamePart (c : Char) : Bool :=
  c.isAlphanum || c == '_' || (128 ≤ c.toNat && nameParts.contains c.toNat)

/-- A printable character is shown as itself inside quotes. -/
def isPrintable (c : Char) : Bool :=
  if c.toNat < 128 then 32 ≤ c.toNat && c.toNat < 127 else !unprintables.contains c.toNat

def isAlphanumeric (c : Char) : Bool :=
  c.isAlphanum || (128 ≤ c.toNat && alphanumerics.contains c.toNat)

def isCased (c : Char) : Bool :=
  if c.toNat < 128 then c.isAlpha else casedLetters.contains c.toNat

def isCaseIgnorable (c : Char) : Bool := caseIgnorables.contains c.toNat

/-- The value of a decimal digit of any script. -/
def decimalDigit? (c : Char) : Option Nat :=
  if c.toNat < 128 then
    if c.isDigit then some (c.toNat - '0'.toNat) else none
  else
    (decimalZeros.ranges.find? fun z => z.first ≤ c.toNat && c.toNat < z.first + 10).map
      fun z => c.toNat - z.first

/-- The lower case of one character, away from its neighbours. -/
def lowerChar (c : Char) : List Char :=
  if c.toNat < 128 then [c.toLower]
  else if c.toNat = 0x130 then ['i', Char.ofNat 0x307]
  else [(lowerShifts.image? c).getD c]

def titleChar (c : Char) : List Char :=
  if c.toNat < 128 then [c.toUpper]
  else (titleExpansions.image? c).getD [(titleShifts.image? c).getD c]

/-- A capital sigma is final if a cased letter comes before it and none after it, where ignorable
characters on either side are skipped. `before` holds the preceding characters, nearest first. -/
def sigmaIsFinal (before after : List Char) : Bool :=
  let nearestCased (cs : List Char) : Bool :=
    match cs.dropWhile isCaseIgnorable with
    | [] => false
    | c :: _ => isCased c
  nearestCased before && !nearestCased after

/-- The lower case of the character `c` between the characters before and after it. -/
def lowerInContext (before : List Char) (c : Char) (after : List Char) : List Char :=
  if c.toNat = 0x3a3 then [Char.ofNat (if sigmaIsFinal before after then 0x3c2 else 0x3c3)]
  else lowerChar c

def lowerChars (before : List Char) : List Char → List Char
  | [] => []
  | c :: rest => lowerInContext before c rest ++ lowerChars (c :: before) rest

def lower (s : String) : String := String.ofList (lowerChars [] s.toList)

/-- A letter that follows a cased letter is put in lower case, any other in title case. -/
def titleChars (before : List Char) (afterCased : Bool) : List Char → List Char
  | [] => []
  | c :: rest =>
    (if afterCased then lowerInContext before c rest else titleChar c)
      ++ titleChars (c :: before) (isCased c) rest

def title (s : String) : String := String.ofList (titleChars [] false s.toList)

end DesignLens.Text
