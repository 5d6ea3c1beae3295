import DesignLens.Number.Binary64

/-!
# Decimal forms of floating point numbers

The shortest decimal that reads back as a number, a decimal with a fixed number of places, and the
way back from a decimal text.
-/

namespace DesignLens.Number

/-- `0.d₁d₂… · 10 ^ point`, without leading or trailing zeros among the digits. -/
structure Decimal where
  digits : List Nat
  point : Int
  deriving DecidableEq, Repr

def digitChar (d : Nat) : Char := Char.ofNat (48 + d)

def digitsOf (n : Nat) : List Nat := (Nat.toDigits 10 n).map fun c => c.toNat - 48

def dropTrailingZeros (ds : List Nat) : List Nat := (ds.reverse.dropWhile (· == 0)).reverse

/-- Digits with the point after all of them, moved to the normal form. -/
def Decimal.ofNat (n : Nat) (exponent : Int) : Decimal :=
  let ds := digitsOf n
  ⟨dropTrailingZeros ds, ds.length + exponent⟩

/-- `m · 2 ^ e` divided by `10 ^ k`, as a numerator and a denominator. -/
def scaled (m : Nat) (e k : Int) : Nat × Nat :=
  let num := if 0 ≤ e then m * Nat.pow 2 e.toNat else m
  let den := if 0 ≤ e then 1 else Nat.pow 2 (-e).toNat
  if 0 ≤ k then (num, den * Nat.pow 10 k.toNat) else (num * Nat.pow 10 (-k).toNat, den)

/-- Whether `n · 10 ^ k` reads back as `m · 2 ^ e`. -/
def readsBack (m : Nat) (e : Int) (n : Nat) (k : Int) : Bool :=
  Binary64.ofDecimal false n k == .finite false m e

/-- Looks for the shortest decimal among those with the last digit at `10 ^ k`, for smaller and
smaller `k`. On each grid the two neighbours of the value are tried; if both read back, the nearer
one is taken, and the even one of two equally near. -/
def shortestFrom (m : Nat) (e : Int) : Nat → Int → Decimal
  | 0, k =>
    let (num, den) := scaled m e k
    Decimal.ofNat (num / den) k
  | fuel + 1, k =>
    let (num, den) := scaled m e k
    let low := num / den
    let rest := num % den
    let lowOk := low ≠ 0 && readsBack m e low k
    let highOk := readsBack m e (low + 1) k
    if lowOk && highOk then
      let up := den < 2 * rest || (2 * rest = den && low % 2 = 1)
      Decimal.ofNat (if up then low + 1 else low) k
    else if lowOk then Decimal.ofNat low k
    else if highOk then Decimal.ofNat (low + 1) k
    else shortestFrom m e fuel (k - 1)

/-- The number of decimal digits before the point of a value, or one more. -/
def magnitude (m : Nat) (e : Int) : Int :=
  -- log₁₀ 2 is a little more than 30102 / 100000
  ((Nat.log2 m : Int) + 1 + e) * 30103 / 100000 + 1

/-- The shortest decimal that reads back as a finite positive value. -/
def shortest (m : Nat) (e : Int) : Decimal := shortestFrom m e 24 (magnitude m e)

/-- How a value is written: plainly for moderate sizes and with an exponent otherwise. -/
def Decimal.write (d : Decimal) : String :=
  let ds := d.digits.map digitChar
  let n : Int := d.digits.length
  if -4 < d.point ∧ d.point ≤ 16 then
    if d.point ≤ 0 then
      "0." ++ String.ofList (List.replicate (-d.point).toNat '0' ++ ds)
    else if n ≤ d.point then
      String.ofList (ds ++ List.replicate (d.point - n).toNat '0') ++ ".0"
    else
      String.ofList (ds.take d.point.toNat) ++ "." ++ String.ofList (ds.drop d.point.toNat)
  else
    let exponent := d.point - 1
    let size := (toString exponent.natAbs).toList
    let size := if size.length < 2 then '0' :: size else size
    let front := match ds with
      | [] => ['0']
      | [c] => [c]
      | c :: cs => c :: '.' :: cs
    String.ofList (front ++ 'e' :: (if exponent < 0 then '-' else '+') :: size)

/-- The words for values that are not finite differ between formats. -/
structure SpecialWords where
  nan : String
  infinite : String

def Binary64.write (words : SpecialWords) : Binary64 → String
  | .nan => words.nan
  | .infinite negative => (if negative then "-" else "") ++ words.infinite
  | .finite negative m e =>
    (if negative then "-" else "") ++ (if m = 0 then "0.0" else (shortest m e).write)

def plainWords : SpecialWords := ⟨"nan", "inf"⟩

/-- A natural number of units of `10 ^ -places`, with the point put in. -/
def writePlaces (units places : Nat) : String :=
  let ds := toString units
  let ds := "".pushn '0' (places + 1 - ds.length) ++ ds
  if places = 0 then ds
  else (ds.take (ds.length - places)).toString ++ "." ++ (ds.drop (ds.length - places)).toString

/-- A value with a fixed number of places; a value halfway between two is rounded to the even
one. -/
def Binary64.writeFixed (places : Nat) : Binary64 → String
  | .nan => "nan"
  | .infinite negative => if negative then "-inf" else "inf"
  | .finite negative m e =>
    let (num, den) := scaled m e (-places)
    (if negative then "-" else "") ++ writePlaces (roundDiv num den) places

/-- The parts of a decimal text after its sign: digits before the point, digits after it, and the
exponent. -/
structure DecimalParts where
  whole : List Nat
  fraction : List Nat
  exponent : Int

def natOfDigits (ds : List Nat) : Nat := ds.foldl (fun n d => 10 * n + d) 0

/-- Exponents beyond this size decide the value alone. -/
def exponentCap : Int := 20000

def DecimalParts.value (p : DecimalParts) (negative : Bool) : Binary64 :=
  let digits := natOfDigits (p.whole ++ p.fraction)
  let size : Int := p.whole.length
  if digits = 0 then .zero negative
  else if exponentCap + p.fraction.length < p.exponent then .infinite negative
  else if p.exponent < -exponentCap - size then .zero negative
  else .ofDecimal negative digits (p.exponent - p.fraction.length)

end DesignLens.Number
