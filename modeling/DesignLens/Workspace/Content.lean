import DesignLens.Failure
import DesignLens.Text.Blank
import DesignLens.Text.Quoted

/-!
# Contents of files

A file holds a text, or bytes that are no text in UTF-8. `Content.ofBytes` decides which. Reading a
text turns line ends of any spelling into newlines; reading bytes that are no text fails and says
which bytes are to blame.
-/

namespace DesignLens.Workspace

/-- What is wrong with the first bytes that cannot be read. -/
inductive DecodeCause where
  | badStart
  | badContinuation
  | cutShort
  deriving DecidableEq, Repr

/-- The bytes from `start` up to but not including `stop` cannot be read. -/
structure DecodeFault where
  cause : DecodeCause
  start : Nat
  stop : Nat
  first : Nat
  deriving DecidableEq, Repr

def DecodeCause.words : DecodeCause → String
  | .badStart => "invalid start byte"
  | .badContinuation => "invalid continuation byte"
  | .cutShort => "unexpected end of data"

def DecodeFault.message (f : DecodeFault) : String :=
  let which :=
    if f.stop = f.start + 1 then
      let byte := String.ofList (Text.hexPadded 2 f.first)
      s!"byte 0x{byte} in position {f.start}"
    else s!"bytes in position {f.start}-{f.stop - 1}"
  s!"'utf-8' codec can't decode {which}: {f.cause.words}"

def isContinuation (b : Nat) : Bool := 0x80 ≤ b && b < 0xc0

/-- The number of bytes that a first byte announces. -/
def announced (b : Nat) : Option Nat :=
  if b < 0x80 then some 1
  else if 0xc2 ≤ b && b < 0xe0 then some 2
  else if 0xe0 ≤ b && b < 0xf0 then some 3
  else if 0xf0 ≤ b && b < 0xf5 then some 4
  else none

/-- Whether a second byte may follow a first byte: no character is written longer than necessary,
and halves of characters and numbers beyond the last character are not written at all. -/
def isSecond (first second : Nat) : Bool :=
  isContinuation second &&
    !(first == 0xe0 && second < 0xa0) && !(first == 0xed && 0xa0 ≤ second) &&
    !(first == 0xf0 && second < 0x90) && !(first == 0xf4 && 0x90 ≤ second)

/-- The number of bytes at the start of `rest` that continue a character. -/
def continuationLength (first : Nat) (rest : List Nat) : Nat :=
  match rest with
  | second :: more =>
    if isSecond first second then 1 + (more.takeWhile isContinuation).length else 0
  | [] => 0

/-- The number that the bytes of a character denote. -/
def codePoint (first : Nat) (rest : List Nat) : Nat :=
  let lead :=
    match rest.length with
    | 0 => first
    | 1 => first - 0xc0
    | 2 => first - 0xe0
    | _ => first - 0xf0
  rest.foldl (fun n b => 64 * n + (b - 0x80)) lead

/-- Reads characters until the bytes end or cannot be read; `skip` bytes of a character are still to
be passed over. -/
def decodeFrom : Nat → Nat → List Nat → Except DecodeFault (List Char)
  | _, _, [] => .ok []
  | position, skip + 1, _ :: rest => decodeFrom (position + 1) skip rest
  | position, 0, b :: rest =>
    match announced b with
    | none => .error ⟨.badStart, position, position + 1, b⟩
    | some n =>
      let good := min (continuationLength b rest) (n - 1)
      if good + 1 = n then do
        let tail ← decodeFrom (position + 1) good rest
        return Char.ofNat (codePoint b (rest.take good)) :: tail
      else
        let stop := position + 1 + good
        let cause := if rest.length = good then DecodeCause.cutShort else .badContinuation
        .error ⟨cause, position, stop, b⟩

def decode (bytes : List Nat) : Except DecodeFault String :=
  (decodeFrom 0 0 bytes).map String.ofList

inductive Content where
  | text (s : String)
  /-- Bytes that are no text, and why. -/
  | bytes (all : List Nat) (fault : DecodeFault)
  deriving DecidableEq, Repr

def Content.ofBytes (all : List Nat) : Content :=
  match decode all with
  | .ok s => .text s
  | .error fault => .bytes all fault

/-- The text of a file, with newlines for all line ends. -/
def Content.read : Content → Except Failure String
  | .text s => .ok (String.ofList (Text.plainNewlines s.toList))
  | .bytes _ fault => .error ⟨.undecodable, fault.message⟩

end DesignLens.Workspace
