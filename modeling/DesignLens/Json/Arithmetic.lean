import DesignLens.Json.Traits

/-!
# Numbers of unknown type

Whole numbers, floating point numbers and truth values mix in sums and comparisons. Comparisons go
by exact values; a sum is a whole number as long as no floating point number takes part.
-/

namespace DesignLens.Json

open Number

/-- The exact value of a number. -/
inductive Exact where
  | fraction (num : Int) (den : Nat)
  | infinite (negative : Bool)
  | nan

def Exact.ofBinary (x : Binary64) : Exact :=
  match x, x.ratio? with
  | .infinite negative, _ => .infinite negative
  | _, some (num, den) => .fraction num den
  | _, none => .nan

def exactValue? : Json → Option Exact
  | .int n => some (.fraction n 1)
  | .bool b => some (.fraction (if b then 1 else 0) 1)
  | .float x => some (.ofBinary x)
  | _ => none

namespace Exact

def lt : Exact → Exact → Bool
  | .nan, _ | _, .nan => false
  | .infinite a, .infinite b => a && !b
  | .infinite a, _ => a
  | _, .infinite b => !b
  | .fraction n d, .fraction n' d' => n * d' < n' * d

/-- What is not a number is in no order. -/
def le : Exact → Exact → Bool
  | .nan, _ | _, .nan => false
  | a, b => !b.lt a

end Exact

def notOrdered (sign : String) (a b : Json) : Failure :=
  .wrongType s!"'{sign}' not supported between instances of '{a.typeName}' and '{b.typeName}'"

/-- Compares two numbers; `sign` is how the comparison is written. -/
def compareBy (sign : String) (holds : Exact → Exact → Bool) (a b : Json) : Except Failure Bool :=
  match a.exactValue?, b.exactValue? with
  | some x, some y => .ok (holds x y)
  | _, _ => .error (notOrdered sign a b)

def less (a b : Json) : Except Failure Bool := compareBy "<" (fun x y => x.lt y) a b

def greater (a b : Json) : Except Failure Bool := compareBy ">" (fun x y => y.lt x) a b

def atLeast (a b : Json) : Except Failure Bool := compareBy ">=" (fun x y => y.le x) a b

/-- A whole number as a floating point number. -/
def widen (n : Int) : Except Failure Binary64 :=
  match Binary64.ofInt n with
  | .infinite _ => .error ⟨.named "OverflowError", "int too large to convert to float"⟩
  | x => .ok x

/-- Truth values count as one and zero. -/
def whole? : Json → Option Int
  | .int n => some n
  | .bool b => some (if b then 1 else 0)
  | _ => none

def notAdded (a b : Json) : Failure :=
  .wrongType s!"unsupported operand type(s) for +: '{a.typeName}' and '{b.typeName}'"

/-- The sum of two numbers. -/
def plus (a b : Json) : Except Failure Json :=
  match a, b, a.whole?, b.whole? with
  | _, _, some n, some m => .ok (.int (n + m))
  | .float x, .float y, _, _ => .ok (.float (x.add y))
  | .float x, _, _, some m => do return .float (x.add (← widen m))
  | _, .float y, some n, _ => do return .float ((← widen n).add y)
  | _, _, _, _ => .error (notAdded a b)

/-- The sum of a list of numbers; nothing sums to the whole number zero. -/
def sum (values : List Json) : Except Failure Json := values.foldlM plus (.int 0)

/-- A number divided by a positive count. -/
def share (total : Json) (count : Nat) : Except Failure Json :=
  match total with
  | .float x => .ok (.float (x.div (.ofInt count)))
  | _ =>
    match total.whole? with
    | none => .error (.wrongType
        s!"unsupported operand type(s) for /: '{total.typeName}' and 'int'")
    | some n =>
      match Binary64.ofFraction n count with
      | .infinite _ =>
        .error ⟨.named "OverflowError", "integer division result too large for a float"⟩
      | x => .ok (.float x)

/-- A number with a fixed number of places. -/
def fixedText (places : Nat) (v : Json) : Except Failure String :=
  match v, v.whole? with
  | .float x, _ => .ok (x.writeFixed places)
  | _, some n => do return (← widen n).writeFixed places
  | .str _, _ => .error (.badValue "Unknown format code 'f' for object of type 'str'")
  | _, _ => .error (.wrongType s!"unsupported format string passed to {v.typeName}.__format__")

end DesignLens.Json
