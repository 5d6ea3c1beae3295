/-!
# Binary floating point numbers

Numbers with 53 binary digits of precision, as exact values: a sign, a natural significand and a
power of two. Every operation computes the exact result and rounds it once, to the nearest number
and to the one with the even significand if there are two. No machine arithmetic is involved.
-/

namespace DesignLens.Number

/-- A floating point number. A finite number is `± significand · 2 ^ exponent`; the significand has
53 digits, or fewer if the exponent is the least one. -/
inductive Binary64 where
  | nan
  | infinite (negative : Bool)
  | finite (negative : Bool) (significand : Nat) (exponent : Int)
  deriving DecidableEq, Repr

namespace Binary64

def precision : Nat := 53

def leastExponent : Int := -1074

def greatestExponent : Int := 971

def zero (negative : Bool) : Binary64 := .finite negative 0 leastExponent

/-- The nearest integer to `num / den`, and the even one of two. -/
def roundDiv (num den : Nat) : Nat :=
  let q := num / den
  let r := num % den
  if 2 * r < den then q else if den < 2 * r then q + 1 else if q % 2 = 0 then q else q + 1

/-- `num / (den · 2 ^ e)` rounded to an integer. -/
def roundScaled (num den : Nat) (e : Int) : Nat :=
  if 0 ≤ e then roundDiv num (den * Nat.pow 2 e.toNat)
  else roundDiv (num * Nat.pow 2 (-e).toNat) den

/-- Whether `num / (den · 2 ^ e)` is at least `2 ^ 53`. -/
def tooWide (num den : Nat) (e : Int) : Bool :=
  if 0 ≤ e then den * Nat.pow 2 e.toNat * Nat.pow 2 precision ≤ num
  else den * Nat.pow 2 precision ≤ num * Nat.pow 2 (-e).toNat

/-- The number nearest to the quotient of two naturals. -/
def ofRatio (negative : Bool) (num den : Nat) : Binary64 :=
  if num = 0 then zero negative
  else
    -- the right exponent or one less
    let guess : Int := (Nat.log2 num : Int) - (Nat.log2 den : Int) - (precision : Int)
    let e := if tooWide num den guess then guess + 1 else guess
    let e := max e leastExponent
    let m := roundScaled num den e
    let (m, e) := if m = Nat.pow 2 precision then (Nat.pow 2 (precision - 1), e + 1) else (m, e)
    if greatestExponent < e then .infinite negative else .finite negative m e

/-- A value as a signed numerator and a denominator; none for what is not finite. -/
def ratio? : Binary64 → Option (Int × Nat)
  | .finite negative m e =>
    let sign : Int := if negative then -1 else 1
    if 0 ≤ e then some (sign * (m * Nat.pow 2 e.toNat : Nat), 1)
    else some (sign * m, Nat.pow 2 (-e).toNat)
  | _ => none

/-- The number nearest to a fraction; a zero result is positive. -/
def ofFraction (num : Int) (den : Nat) : Binary64 := ofRatio (num < 0) num.natAbs den

def ofInt (n : Int) : Binary64 := ofFraction n 1

/-- The number nearest to `± digits · 10 ^ exponent`. -/
def ofDecimal (negative : Bool) (digits : Nat) (exponent : Int) : Binary64 :=
  if 0 ≤ exponent then
    if 400 < exponent ∧ digits ≠ 0 then .infinite negative
    else ofRatio negative (digits * Nat.pow 10 exponent.toNat) 1
  else ofRatio negative digits (Nat.pow 10 (-exponent).toNat)

def isNegative : Binary64 → Bool
  | .finite negative .. | .infinite negative => negative
  | .nan => false

def add : Binary64 → Binary64 → Binary64
  | .nan, _ | _, .nan => .nan
  | .infinite a, .infinite b => if a = b then .infinite a else .nan
  | .infinite a, _ => .infinite a
  | _, .infinite b => .infinite b
  | a, b =>
    match a.ratio?, b.ratio? with
    | some (n, d), some (n', d') =>
      let sum := n * d' + n' * d
      if sum = 0 then zero (a.isNegative && b.isNegative) else ofFraction sum (d * d')
    | _, _ => .nan

def mul : Binary64 → Binary64 → Binary64
  | .nan, _ | _, .nan => .nan
  | .infinite a, b | b, .infinite a =>
    match b with
    | .finite _ 0 _ => .nan
    | _ => .infinite (a != b.isNegative)
  | a, b =>
    match a.ratio?, b.ratio? with
    | some (n, d), some (n', d') =>
      ofRatio (a.isNegative != b.isNegative) (n.natAbs * n'.natAbs) (d * d')
    | _, _ => .nan

/-- Division by a number that is not zero. -/
def div : Binary64 → Binary64 → Binary64
  | .nan, _ | _, .nan => .nan
  | .infinite _, .infinite _ => .nan
  | .infinite a, b => .infinite (a != b.isNegative)
  | a, .infinite b => zero (a.isNegative != b)
  | a, b =>
    match a.ratio?, b.ratio? with
    | some (n, d), some (n', d') =>
      if n' = 0 then .nan
      else ofRatio (a.isNegative != b.isNegative) (n.natAbs * d') (d * n'.natAbs)
    | _, _ => .nan

/-- Strict order; a number that is not a number is in no order. -/
def lt : Binary64 → Binary64 → Bool
  | .nan, _ | _, .nan => false
  | .infinite a, .infinite b => a && !b
  | .infinite a, _ => a
  | _, .infinite b => !b
  | a, b =>
    match a.ratio?, b.ratio? with
    | some (n, d), some (n', d') => n * d' < n' * d
    | _, _ => false

/-- Numerical equality: both zeros are equal, and what is not a number equals nothing. -/
def eq : Binary64 → Binary64 → Bool
  | .nan, _ | _, .nan => false
  | a, b => !a.lt b && !b.lt a

def le (a b : Binary64) : Bool := a.lt b || a.eq b

def isZero : Binary64 → Bool
  | .finite _ 0 _ => true
  | _ => false

end Binary64

end DesignLens.Number
