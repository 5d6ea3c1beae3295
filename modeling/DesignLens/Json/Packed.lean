import DesignLens.Json.Value

/-!
# Packed values

A compact text for values that are kept for later. Every value starts with a letter that tells its
kind, and lengths stand before what they measure, so that a value is read back exactly, whatever
follows it.
-/

namespace DesignLens.Json

open Number

def packNat (n : Nat) : List Char := Nat.toDigits 10 n ++ [';']

def packInt : Int → List Char
  | .ofNat n => 'p' :: packNat n
  | .negSucc n => 'm' :: packNat n

def packText (s : String) : List Char := packNat s.toList.length ++ s.toList

def packSign (negative : Bool) : Char := if negative then 'm' else 'p'

def packFloat : Binary64 → List Char
  | .finite negative m e => 'd' :: packSign negative :: packNat m ++ packInt e
  | .infinite negative => ['l', packSign negative]
  | .nan => ['x']

mutual

def pack : Json → List Char
  | .null => ['n']
  | .bool b => [if b then 't' else 'f']
  | .int n => 'i' :: packInt n
  | .float x => packFloat x
  | .str s => 's' :: packText s
  | .arr items => 'a' :: packNat items.length ++ packItems items
  | .obj fields => 'o' :: packNat fields.length ++ packFields fields

def packItems : List Json → List Char
  | [] => []
  | v :: rest => pack v ++ packItems rest

def packFields : List (String × Json) → List Char
  | [] => []
  | (name, v) :: rest => packText name ++ pack v ++ packFields rest

end

/-- Reads a number; the readers return what they read and what comes after it. -/
def unpackNat (cs : List Char) : Option (Nat × List Char) :=
  match cs.dropWhile Char.isDigit with
  | ';' :: rest =>
    some ((cs.takeWhile Char.isDigit).foldl (fun n c => 10 * n + (c.toNat - 48)) 0, rest)
  | _ => none

def unpackInt : List Char → Option (Int × List Char)
  | 'p' :: rest => (unpackNat rest).map fun (n, rest) => (.ofNat n, rest)
  | 'm' :: rest => (unpackNat rest).map fun (n, rest) => (.negSucc n, rest)
  | _ => none

def unpackText (cs : List Char) : Option (String × List Char) :=
  (unpackNat cs).bind fun (n, rest) =>
    if n ≤ rest.length then some (String.ofList (rest.take n), rest.drop n) else none

def unpackSign : List Char → Option (Bool × List Char)
  | 'p' :: rest => some (false, rest)
  | 'm' :: rest => some (true, rest)
  | _ => none

/-- A finite number after its letter. -/
def unpackFinite (cs : List Char) : Option (Binary64 × List Char) := do
  let (negative, rest) ← unpackSign cs
  let (m, rest) ← unpackNat rest
  let (e, rest) ← unpackInt rest
  return (.finite negative m e, rest)

mutual

/-- Reads a value; the first number bounds the depth of the recursion. -/
def unpackValue : Nat → List Char → Option (Json × List Char)
  | 0, _ => none
  | fuel + 1, cs =>
    match cs with
    | 'n' :: rest => some (.null, rest)
    | 't' :: rest => some (.bool true, rest)
    | 'f' :: rest => some (.bool false, rest)
    | 'i' :: rest => (unpackInt rest).map fun (n, rest) => (.int n, rest)
    | 'd' :: rest => (unpackFinite rest).map fun (x, rest) => (.float x, rest)
    | 'l' :: rest =>
      (unpackSign rest).map fun (negative, rest) => (.float (.infinite negative), rest)
    | 'x' :: rest => some (.float .nan, rest)
    | 's' :: rest => (unpackText rest).map fun (s, rest) => (.str s, rest)
    | 'a' :: rest =>
      (unpackNat rest).bind fun (n, rest) =>
        (unpackItems fuel n rest).map fun (items, rest) => (.arr items, rest)
    | 'o' :: rest =>
      (unpackNat rest).bind fun (n, rest) =>
        (unpackFields fuel n rest).map fun (fields, rest) => (.obj fields, rest)
    | _ => none

def unpackItems : Nat → Nat → List Char → Option (List Json × List Char)
  | _, 0, cs => some ([], cs)
  | 0, _ + 1, _ => none
  | fuel + 1, n + 1, cs => do
    let (v, rest) ← unpackValue fuel cs
    let (items, rest) ← unpackItems fuel n rest
    return (v :: items, rest)

def unpackFields : Nat → Nat → List Char → Option ((List (String × Json)) × List Char)
  | _, 0, cs => some ([], cs)
  | 0, _ + 1, _ => none
  | fuel + 1, n + 1, cs => do
    let (name, rest) ← unpackText cs
    let (v, rest) ← unpackValue fuel rest
    let (fields, rest) ← unpackFields fuel n rest
    return ((name, v) :: fields, rest)

end

/-- Reads a value that fills the whole text. -/
def unpack? (cs : List Char) : Option Json :=
  match unpackValue (cs.length + 1) cs with
  | some (v, []) => some v
  | _ => none

end DesignLens.Json
