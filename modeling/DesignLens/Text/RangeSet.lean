/-!
# Sets of code points given by ranges

A class of characters is written down as increasing, disjoint, inclusive ranges of code points in
hexadecimal, separated by blanks: `41-5a 5f 61-7a`. Case mappings are written the same way, each
range followed by its stride and by the shift that leads to the other case.
-/

namespace DesignLens.Text

/-- The parts of a text between occurrences of a separator; there is always at least one. -/
def fields (sep : Char) : List Char → List (List Char)
  | [] => [[]]
  | c :: rest =>
    if c = sep then [] :: fields sep rest
    else
      match fields sep rest with
      | [] => [[c]]
      | part :: parts => (c :: part) :: parts

/-- The value of a hexadecimal digit, of either case. -/
def hexDigit? (c : Char) : Option Nat :=
  if '0' ≤ c ∧ c ≤ '9' then some (c.toNat - '0'.toNat)
  else if 'a' ≤ c ∧ c ≤ 'f' then some (c.toNat - 'a'.toNat + 10)
  else if 'A' ≤ c ∧ c ≤ 'F' then some (c.toNat - 'A'.toNat + 10)
  else none

/-- The number that hexadecimal digits denote; other characters count as zero. -/
def readHex (digits : List Char) : Nat :=
  digits.foldl (fun n c => 16 * n + (hexDigit? c).getD 0) 0

structure Range where
  first : Nat
  last : Nat
  deriving DecidableEq, Repr

def Range.read (cs : List Char) : Range :=
  match fields '-' cs with
  | [a, b] => ⟨readHex a, readHex b⟩
  | _ => ⟨readHex cs, readHex cs⟩

structure RangeSet where
  ranges : Array Range

/-- The items of a table that is written on several lines. -/
def items (lines : List String) : List (List Char) :=
  lines.flatMap fun line => fields ' ' line.toList

def RangeSet.read (lines : List String) : RangeSet := ⟨((items lines).map Range.read).toArray⟩

def RangeSet.contains (s : RangeSet) (n : Nat) : Bool :=
  s.ranges.any fun r => r.first ≤ n && n ≤ r.last

/-- Code points `first`, `first + stride`, … up to `last` are moved by `shift`. -/
structure CaseShift where
  range : Range
  stride : Nat
  shift : Int
  deriving Repr

def CaseShift.read (cs : List Char) : CaseShift :=
  let down := cs.contains '~'
  match fields (if down then '~' else '+') cs with
  | [where_, by_] =>
    let amount : Int := readHex by_
    let shift := if down then -amount else amount
    match fields '/' where_ with
    | [r, stride] => ⟨Range.read r, readHex stride, shift⟩
    | _ => ⟨Range.read where_, 1, shift⟩
  | _ => ⟨⟨0, 0⟩, 1, 0⟩

structure CaseShifts where
  shifts : Array CaseShift

def CaseShifts.read (lines : List String) : CaseShifts :=
  ⟨((items lines).map CaseShift.read).toArray⟩

/-- The character in the other case, if the table moves it. -/
def CaseShifts.image? (t : CaseShifts) (c : Char) : Option Char :=
  let n := c.toNat
  (t.shifts.find? fun s =>
    s.range.first ≤ n && n ≤ s.range.last && (n - s.range.first) % s.stride == 0).map
      fun s => Char.ofNat ((n : Int) + s.shift).toNat

/-- Characters whose other case is several characters, with those characters. -/
structure Expansions where
  entries : Array (Char × List Char)

def Expansions.read (lines : List String) : Expansions :=
  ⟨((items lines).map fun entry =>
      match fields '=' entry with
      | [c, cs] => (Char.ofNat (readHex c), (fields '.' cs).map fun d => Char.ofNat (readHex d))
      | _ => (Char.ofNat 0, [])).toArray⟩

def Expansions.image? (t : Expansions) (c : Char) : Option (List Char) :=
  (t.entries.find? fun e => e.1 == c).map Prod.snd

end DesignLens.Text
