import DesignLens.Json.Value
import DesignLens.Number.Decimal
import DesignLens.Text.Quoted

/-!
# Texts of JSON values

`Json.write` writes a value as JSON text, on one line or indented, and `Json.show` writes it the
way messages show values: words for the constants, quoted texts, brackets and braces.
-/

namespace DesignLens.Json

/-- The choices of a JSON text. -/
structure Layout where
  /-- The number of blanks per level, if the text is spread over lines. -/
  indent : Option Nat
  sortKeys : Bool
  /-- Whether characters beyond ASCII are written as escapes. -/
  asciiOnly : Bool

/-- Everything on one line. -/
def Layout.line : Layout := ⟨none, false, true⟩

/-- Two blanks per level. -/
def Layout.pretty : Layout := ⟨some 2, false, true⟩

/-- The two halves of a character beyond the first plane. -/
def unitsOf (c : Char) : List Nat :=
  let n := c.toNat
  if n < 0x10000 then [n]
  else [0xd800 + (n - 0x10000) / 0x400, 0xdc00 + (n - 0x10000) % 0x400]

def escape (asciiOnly : Bool) (c : Char) : List Char :=
  if c = '"' then ['\\', '"']
  else if c = '\\' then ['\\', '\\']
  else if c = '\n' then ['\\', 'n']
  else if c = '\r' then ['\\', 'r']
  else if c = '\t' then ['\\', 't']
  else if c = '\x0c' then ['\\', 'f']
  else if c = '\x08' then ['\\', 'b']
  else if c.toNat < 32 || (asciiOnly && 126 < c.toNat) then
    (unitsOf c).flatMap fun u => '\\' :: 'u' :: Text.hexPadded 4 u
  else [c]

def writeString (asciiOnly : Bool) (s : String) : String :=
  String.ofList ('"' :: s.toList.flatMap (escape asciiOnly) ++ ['"'])

def numberWords : Number.SpecialWords := ⟨"NaN", "Infinity"⟩

/-- The order of names in a text with sorted keys. -/
def sortedFields (fields : List (String × Json)) : List (String × Json) :=
  fields.mergeSort fun a b => a.1 ≤ b.1

/-- A line break with the indentation of a level, or nothing. -/
def lineBreak (indent : Option Nat) (level : Nat) : String :=
  match indent with
  | none => ""
  | some n => "\n" ++ "".pushn ' ' (n * level)

/-- Items between brackets. -/
def enclose (layout : Layout) (level : Nat) (opening closing : String) (items : List String) :
    String :=
  if items.isEmpty then opening ++ closing
  else
    let comma := if layout.indent.isSome then "," ++ lineBreak layout.indent (level + 1) else ", "
    opening ++ lineBreak layout.indent (level + 1) ++ comma.intercalate items ++
      lineBreak layout.indent level ++ closing

mutual

def writeAt (layout : Layout) (level : Nat) : Json → String
  | .null => "null"
  | .bool true => "true"
  | .bool false => "false"
  | .int n => toString n
  | .float x => x.write numberWords
  | .str s => writeString layout.asciiOnly s
  | .arr items => enclose layout level "[" "]" (writeItems layout (level + 1) items)
  | .obj fields =>
    let written := writeFields layout (level + 1) fields
    let written := if layout.sortKeys then written.mergeSort fun a b => a.1 ≤ b.1 else written
    enclose layout level "\x7b" "\x7d" (written.map fun f =>
      writeString layout.asciiOnly f.1 ++ ": " ++ f.2)

def writeItems (layout : Layout) (level : Nat) : List Json → List String
  | [] => []
  | v :: rest => writeAt layout level v :: writeItems layout level rest

def writeFields (layout : Layout) (level : Nat) : List (String × Json) → List (String × String)
  | [] => []
  | (k, v) :: rest => (k, writeAt layout level v) :: writeFields layout level rest

end

/-- The JSON text of a value. -/
def write (layout : Layout) (v : Json) : String := writeAt layout 0 v

mutual

/-- A value inside another value, as messages show it. -/
def showInner : Json → String
  | .null => "None"
  | .bool true => "True"
  | .bool false => "False"
  | .int n => toString n
  | .float x => x.write Number.plainWords
  | .str s => Text.quoted s
  | .arr items => "[" ++ ", ".intercalate (showItems items) ++ "]"
  | .obj fields => "\x7b" ++ ", ".intercalate (showFields fields) ++ "\x7d"

def showItems : List Json → List String
  | [] => []
  | v :: rest => showInner v :: showItems rest

def showFields : List (String × Json) → List String
  | [] => []
  | (k, v) :: rest => (Text.quoted k ++ ": " ++ showInner v) :: showFields rest

end

/-- A value as messages show it; a text stands for itself. -/
def shown : Json → String
  | .str s => s
  | v => showInner v

end DesignLens.Json
