import DesignLens.Json.Traits

/-!
# Named arguments

Something is called with named arguments. Those it does not know and those it misses make the call
fail; the others are read as what is needed, with a default for what is left out.
-/

namespace DesignLens.Arguments

structure Parameter where
  name : String
  isRequired : Bool

def Parameter.required (name : String) : Parameter := ⟨name, true⟩

def Parameter.optional (name : String) : Parameter := ⟨name, false⟩

/-- Quoted names with commas and an `and` before the last one. -/
def nameList (names : List String) : String :=
  match names.map Text.quoted with
  | [] => ""
  | [a] => a
  | [a, b] => a ++ " and " ++ b
  | many => ", ".intercalate many.dropLast ++ ", and " ++ many.getLastD ""

/-- Why a function cannot be called with the given arguments. A method has its receiver before it
is given any. -/
def callFailure? (function : String) (parameters : List Parameter) (arguments : Table Json)
    (receiver : Option String := none) : Option Failure :=
  let known := parameters.map fun p => p.name
  match (Table.keys arguments).find? fun name => !known.contains name with
  | some name =>
    if receiver = some name then
      some (.wrongType s!"{function}() got multiple values for argument '{name}'")
    else some (.wrongType s!"{function}() got an unexpected keyword argument '{name}'")
  | none =>
    match parameters.filter fun p => p.isRequired && !Table.contains p.name arguments with
    | [] => none
    | missing =>
      let noun := if missing.length = 1 then "argument" else "arguments"
      let names := nameList (missing.map fun p => p.name)
      some (.wrongType
        s!"{function}() missing {missing.length} required positional {noun}: {names}")

/-- The value of an argument; nothing and null are the same. -/
def given? (arguments : Table Json) (name : String) : Option Json :=
  match Table.find? name arguments with
  | none | some .null => none
  | some v => some v

def text? (arguments : Table Json) (name : String) : Option String :=
  (given? arguments name).map Json.shown

def textD (arguments : Table Json) (name default : String) : String :=
  (text? arguments name).getD default

/-- A list of texts; a single text is the list of its characters. -/
def texts (arguments : Table Json) (name : String) : List String :=
  match (given? arguments name).map Json.elements with
  | some (.ok items) => items.map Json.shown
  | _ => []

def flagD (arguments : Table Json) (name : String) (default : Bool) : Bool :=
  ((given? arguments name).map Json.truthy).getD default

def number? (arguments : Table Json) (name : String) : Option Int :=
  match given? arguments name with
  | some (.int n) => some n
  | some (.bool b) => some (if b then 1 else 0)
  | _ => none

/-- A number; nothing at all stands for the default, and null for zero. -/
def numberD (arguments : Table Json) (name : String) (default : Int) : Int :=
  if Table.contains name arguments then (number? arguments name).getD 0 else default

end DesignLens.Arguments
