import DesignLens.Table
import DesignLens.Text.Case
import DesignLens.Text.Search

/-!
# Options and words on a command line

The arguments of a command are options and words. A long option may be shortened as long as it
remains clear which one is meant, its value may follow an equals sign, and short options may be put
together. Two dashes alone end the options. A value that is no choice, a value too many or too few,
or a word too many makes the command line invalid; asking for help ends the reading.
-/

namespace DesignLens.CommandLine

/-- What an option is for. -/
inductive Purpose where
  | help
  | flag
  /-- The option has a value, perhaps one of some choices. -/
  | value (choices : Option (List String))
  deriving DecidableEq, Repr

structure Choice where
  name : String
  spellings : List String
  purpose : Purpose
  deriving DecidableEq, Repr

def Choice.takesValue (o : Choice) : Bool :=
  match o.purpose with
  | .value _ => true
  | _ => false

def helpChoice : Choice := ⟨"help", ["-h", "--help"], .help⟩

/-- One argument after its kind is known: a word, two dashes alone, or an option with the value that
is written together with it. -/
inductive Piece where
  | word (text : String)
  | separator
  | choice (chosen : Option Choice) (isLong : Bool) (attached : Option String)

/-- The options with a spelling that starts like this one, once for each such spelling. -/
def startingWith (options : List Choice) (start : String) : List Choice :=
  options.flatMap fun o => (o.spellings.filter (Text.startsWith start)).map fun _ => o

def spelt? (options : List Choice) (spelling : String) : Option Choice :=
  options.find? fun o => o.spellings.contains spelling

/-- What stands before and after the first equals sign. -/
def splitValue (text : String) : String × Option String :=
  let cs := text.toList
  match cs.dropWhile (· != '=') with
  | [] => (text, none)
  | _ :: value => (String.ofList (cs.takeWhile (· != '=')), some (String.ofList value))

/-- Whether a text is a negative number. -/
def isNegativeNumber (text : String) : Bool :=
  match text.toList with
  | '-' :: digits =>
    let isDigit (c : Char) : Bool := (Text.decimalDigit? c).isSome
    let fraction := digits.dropWhile isDigit
    match fraction with
    | [] => !digits.isEmpty
    | '.' :: places => !places.isEmpty && places.all isDigit
    | _ => false
  | _ => false

/-- The candidates for an option that is not spelt out, with an attached value. -/
def candidates (options : List Choice) (text : String) : List (Choice × Option String) :=
  if Text.startsWith "--" text then
    let (start, value) := splitValue text
    (startingWith options start).map fun o => (o, value)
  else
    let short := String.ofList (text.toList.take 2)
    let attached := String.ofList (text.toList.drop 2)
    (spelt? options short).toList.map fun o => (o, some attached)

/-- The kind of an argument, unless it could be several options. -/
def classify (options : List Choice) (text : String) : Option Piece :=
  let isLong := Text.startsWith "--" text
  if !Text.startsWith "-" text then some (.word text)
  else
    match spelt? options text with
    | some o => some (.choice (some o) isLong none)
    | none =>
      if text == "-" then some (.word text)
      else
        let (start, value) := splitValue text
        match value, spelt? options start with
        | some v, some o => some (.choice (some o) isLong (some v))
        | _, _ =>
          match candidates options text with
          | [(o, attached)] => some (.choice (some o) isLong attached)
          | _ :: _ :: _ => none
          | [] =>
            if isNegativeNumber text || text.toList.contains ' ' then some (.word text)
            else some (.choice none isLong none)

/-- The kinds of all arguments; after two dashes alone there are only words. -/
def classifyAll (options : List Choice) : List String → Option (List Piece)
  | [] => some []
  | arg :: rest =>
    if arg == "--" then some (.separator :: rest.map .word)
    else do
      let piece ← classify options arg
      let pieces ← classifyAll options rest
      return piece :: pieces

/-- Short options put together: those without a value, and the last one with what is left. -/
def cluster (options : List Choice) (o : Choice) (isLong : Bool) :
    List Char → Option (List Choice × Choice × Option String)
  | [] => if o.takesValue then some ([], o, some "") else none
  | c :: rest =>
    if o.takesValue then some ([], o, some (String.ofList (c :: rest)))
    else if isLong then none
    else
      match spelt? options (String.ofList ['-', c]) with
      | none => none
      | some next =>
        if rest.isEmpty then some ([o], next, none)
        else (cluster options next isLong rest).map fun (before, last, value) =>
          (o :: before, last, value)

/-- A word that a command expects, perhaps one of some choices. -/
structure Operand where
  name : String
  choices : Option (List String)

def allows (choices : Option (List String)) (text : String) : Bool :=
  match choices with
  | none => true
  | some words => words.contains text

/-- The outcome of reading a command line: the values of options and operands by name. A flag has
the empty value. -/
inductive Reading where
  | help
  | invalid
  | values (found : Table String)

/-- What has been read so far. -/
structure Progress where
  found : Table String
  /-- The words that are still to come. -/
  wanted : List Operand
  /-- Whether there was something that no one asked for. -/
  excess : Bool

/-- Takes an option with its value. -/
def Progress.take (p : Progress) (o : Choice) (value : String) : Except Reading Progress :=
  match o.purpose with
  | .help => .error .help
  | .flag => .ok { p with found := Table.insert o.name "" p.found }
  | .value choices =>
    if allows choices value then .ok { p with found := Table.insert o.name value p.found }
    else .error .invalid

/-- Takes a word. -/
def Progress.word (p : Progress) (text : String) : Except Reading Progress :=
  match p.wanted with
  | [] => .ok { p with excess := true }
  | operand :: rest =>
    if allows operand.choices text then
      .ok { p with found := Table.insert operand.name text p.found, wanted := rest }
    else .error .invalid

/-- Takes the options of one argument. A value that is not attached is the next word; whether it was
used up comes back too. -/
def Progress.choose (p : Progress) (options : List Choice) (o : Choice) (isLong : Bool)
    (attached : Option String) (rest : List Piece) : Except Reading (Progress × Bool) := do
  let clustered :=
    match attached with
    | none => some ([], o, none)
    | some text => cluster options o isLong text.toList
  match clustered with
  | none => .error .invalid
  | some (before, last, value) =>
    let (value, usesNext) ←
      if last.takesValue then
        match value, rest with
        | some v, _ => .ok (v, false)
        | none, .word w :: _ => .ok (w, true)
        | none, _ => .error .invalid
      else .ok ("", false)
    let p ← before.foldlM (fun p o => p.take o "") p
    return (← p.take last value, usesNext)

/-- Reads the pieces of a command line. Two dashes alone are too much for a command that takes no
words. -/
def readPieces (options : List Choice) (takesWords : Bool) (p : Progress) : List Piece → Reading
  | [] => if p.excess || !p.wanted.isEmpty then .invalid else .values p.found
  | .word text :: rest =>
    match p.word text with
    | .ok p => readPieces options takesWords p rest
    | .error reading => reading
  | .separator :: rest =>
    readPieces options takesWords { p with excess := p.excess || !takesWords } rest
  | .choice none _ _ :: rest => readPieces options takesWords { p with excess := true } rest
  | .choice (some o) isLong attached :: rest =>
    match p.choose options o isLong attached rest, rest with
    | .error reading, _ => reading
    | .ok (p, true), _ :: rest' => readPieces options takesWords p rest'
    | .ok (p, _), rest' => readPieces options takesWords p rest'
termination_by pieces => pieces.length

/-- Reads a command line with options and operands. -/
def read (options : List Choice) (operands : List Operand) (arguments : List String) : Reading :=
  match classifyAll options arguments with
  | none => .invalid
  | some pieces => readPieces options (!operands.isEmpty) ⟨[], operands, false⟩ pieces

end DesignLens.CommandLine
