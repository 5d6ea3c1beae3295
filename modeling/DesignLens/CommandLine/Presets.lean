import DesignLens.CommandLine.Options
import DesignLens.CommandLine.Ending
import DesignLens.Presets.Lookup

/-!
# The command for presets

`list` prints the identifiers and names of the presets of a kind, `show` the body of one of them.
-/

namespace DesignLens.CommandLine

def kindOperand : Operand := ⟨"kind", some [PresetKind.prompts.word, PresetKind.subruns.word]⟩

def presetsHelp : String :=
  "\n".intercalate
    ["usage: architecton-presets [-h] \x7blist,show\x7d ...",
      "",
      "positional arguments:",
      "  \x7blist,show\x7d",
      "    list       List prompt or subrun presets",
      "    show       Print a preset body by id",
      "",
      "options:",
      "  -h, --help   show this help message and exit",
      ""]

/-- The help on a command that starts with the kind of presets. -/
def kindHelp (usage : String) (more : List String) : String :=
  "\n".intercalate (
    ["usage: architecton-presets " ++ usage,
      "",
      "positional arguments:",
      "  \x7bprompts,subruns\x7d  Preset kind"] ++ more ++
    ["",
      "options:",
      "  -h, --help         show this help message and exit",
      ""])

def listHelp : String := kindHelp "list [-h] \x7bprompts,subruns\x7d" []

def showHelp : String :=
  kindHelp "show [-h] \x7bprompts,subruns\x7d id" ["  id                 Preset id"]

/-- What the command is asked for. -/
inductive PresetRequest where
  | help (text : String)
  | list (kind : PresetKind)
  | display (kind : PresetKind) (id : String)
  deriving DecidableEq, Repr

def kindFrom (found : Table String) : PresetKind :=
  ((Table.find? "kind" found).bind PresetKind.ofWord?).getD .prompts

def listRequest? (arguments : List String) : Option PresetRequest :=
  match read [helpChoice] [kindOperand] arguments with
  | .help => some (.help listHelp)
  | .invalid => none
  | .values found => some (.list (kindFrom found))

def showRequest? (arguments : List String) : Option PresetRequest :=
  match read [helpChoice] [kindOperand, ⟨"id", none⟩] arguments with
  | .help => some (.help showHelp)
  | .invalid => none
  | .values found => some (.display (kindFrom found) ((Table.find? "id" found).getD ""))

/-- What the arguments ask for, unless they are invalid. After an unknown option only help is still
given. -/
def presetRequest? : List String → Option PresetRequest
  | [] => none
  | arg :: rest =>
    match if arg == "--" then none else classify [helpChoice] arg with
    | some (.word "list") => listRequest? rest
    | some (.word "show") => showRequest? rest
    | some (.choice (some _) _ none) => some (.help presetsHelp)
    | some (.choice (some o) isLong (some attached)) =>
      (cluster [helpChoice] o isLong attached.toList).map fun _ => .help presetsHelp
    | some (.choice none _ _) =>
      match presetRequest? rest with
      | some (.help text) => some (.help text)
      | _ => none
    | _ => none

def listingText (entries : List (String × String)) : String :=
  String.join (entries.map fun (id, name) => s!"{id}\t{name}\n")

def runPresets (presets : Presets) (arguments : List String) : Ending :=
  match presetRequest? arguments with
  | none => .misused
  | some (.help text) => .printing text
  | some (.list kind) => .printing (listingText (presets.listing kind))
  | some (.display kind id) =>
    match presets.body? kind id with
    | some body => .printing (body ++ "\n")
    | none => ⟨1, ""⟩

end DesignLens.CommandLine
