import DesignLens.Advice.Maps
import DesignLens.Diff.Unified
import DesignLens.Naming
import DesignLens.Scaffold.Header
import DesignLens.Scaffold.Inspection
import DesignLens.Scaffold.Registry
import DesignLens.Text.Template
import DesignLens.Workspace.Tree

/-!
# Introducing a pattern or an architecture

The scaffold of a pattern or architecture is put into a file: a new file holds the scaffold alone,
an existing one gets it after its text. Nothing happens if what the scaffold defines is there
already, or if only a trial was asked for.
-/

namespace DesignLens.Scaffold

open Workspace
open Advice (Category)

/-- What introducing depends on besides the files. -/
structure Workshop where
  catalog : Catalog
  patterns : Table Generator
  architectures : Table Generator
  engine : Text.Engine
  /-- The index of a text, if it can be made. -/
  index : String → Option (List IndexEntry)
  /-- What other readers say about a text. -/
  complaints : String → Complaints

structure Request where
  name : Option String
  modulePath : String
  dryRun : Bool
  outPath : Option String

/-- The file that a request is about. -/
def Request.target (r : Request) : Path :=
  Path.ofString
    (match r.outPath with
      | some p => if p.isEmpty then r.modulePath else p
      | none => r.modulePath)

/-- What a request does, or would do. -/
structure Effect where
  category : Category
  name : String
  target : Path
  dryRun : Bool
  created : Bool
  appended : Bool
  writtenTo : Option Path
  diff : String
  warnings : List String

inductive Answer where
  /-- The request cannot be met. -/
  | refused (error : String) (name : Option String)
  /-- The definitions are there already. -/
  | present (effect : Effect)
  | done (effect : Effect)

def Effect.fields (status : String) (e : Effect) : List (String × Json) :=
  [("status", .str status), ("category", .str e.category.word), ("name", .str e.name),
    ("target", .str e.target.toString), ("dry_run", .bool e.dryRun), ("created", .bool e.created),
    ("appended", .bool e.appended), ("written_to", .ofOption (e.writtenTo.map Path.toString)),
    ("diff", .str e.diff), ("warnings", .strings e.warnings)]

def Answer.fields : Answer → List (String × Json)
  | .refused error name =>
    [("status", .str "error"), ("error", .str error), ("name", .ofOption name)]
  | .present e => e.fields "noop" ++ [("reason", .str "definitions already present")]
  | .done e => e.fields "ok"

def Answer.toJson (a : Answer) : Json := .obj a.fields

/-- The generator of a name with its category and canonical name. -/
def Workshop.select (w : Workshop) (name : String) : Option (Category × String × Generator) :=
  let canonical := Naming.canonical name
  match Table.find? canonical w.patterns with
  | some g => some (.pattern, canonical, g)
  | none =>
    (Table.find? canonical w.architectures).map fun g => (.architecture, canonical, g)

/-- A text that a catalogue entry has in a field, trimmed, if it is not blank. -/
def entryText? (entry : Json) (field : String) : Option String :=
  (entry.field? field).bind Catalog.trimmedText?

/-- What a change has to keep: what the catalogue says, or the usual. -/
def contractOf (entry : Json) : Json :=
  let given := entry.fieldD "contract" .null
  .obj [("inputs", .str ((entryText? given "inputs").getD "existing API/clients")),
    ("outputs", .str ((entryText? given "outputs").getD "same observable behavior"))]

/-- The size of code: lines and definitions. -/
structure Size where
  lines : Nat
  definitions : Nat

def Size.ofText (text : String) : Size :=
  ⟨text.toList.count '\n' + 1, (topLevelNames text).length⟩

def Size.level (s : Size) : String :=
  if 800 ≤ s.lines || 40 ≤ s.definitions then "high"
  else if 300 ≤ s.lines || 15 ≤ s.definitions then "medium"
  else "low"

def Size.toJson (s : Size) : Json :=
  .obj [("level", .str s.level), ("loc", .nat s.lines), ("defs", .nat s.definitions)]

/-- The code for a request, with what the catalogue says about it. -/
structure Draft where
  category : Category
  name : String
  entry : Option Json
  code : String

def shownName (name : Option String) : String := name.getD "None"

/-- The draft that a request asks for, or the answer to a request that cannot be met. -/
def Workshop.draft (w : Workshop) (r : Request) : Except Answer Draft :=
  match w.select (r.name.getD "") with
  | none => .error (.refused s!"Unknown name: {shownName r.name}" r.name)
  | some (category, name, generator) =>
    let entry := w.catalog.find? name category.word
    match generator entry with
    | .error failure => .error (.refused s!"generator failed: {failure.message}" (some name))
    | .ok code =>
      match code.filter (!·.isEmpty) with
      | none => .error (.refused "no snippet available" (some name))
      | some code =>
        let context := [("name", .str name), ("module_path", .str r.modulePath)]
        .ok ⟨category, name, entry, w.engine.render context code⟩

/-- The header for a draft, for code of some size. -/
def Workshop.heading (w : Workshop) (d : Draft) (size : Size) : Except Failure String :=
  let entry := d.entry.getD (.obj [])
  header w.catalog
    { name := d.name, category := d.category.word, refs := entry.fieldD "refs" .null,
      contract := contractOf entry, tools := defaultTools, complexity := size.toJson,
      refactoringRefs := .strings (w.catalog.references 2),
      hint := .ofOption (entryText? entry "prompt_hint") }

/-- The scaffold with its header, for a file with the given text. -/
def Workshop.compose (w : Workshop) (d : Draft) (old : String) : Except Failure String :=
  (w.heading d (Size.ofText (if old.isEmpty then d.code else old))).map fun heading =>
    heading ++ "\n\n" ++ d.code

/-- Whether what a scaffold defines is there already: all of it by the text, or any of it by the
index. -/
def Workshop.isPresent (w : Workshop) (scaffold old : String) : Bool :=
  let names := topLevelNames scaffold
  (!names.isEmpty && names.all (topLevelNames old).contains) || names.any (indexHas (w.index old))

/-- The text of the file with the scaffold. -/
def merged (old : Option String) (scaffold : String) : String :=
  match old with
  | none => scaffold
  | some text => Text.trimRight text ++ "\n\n" ++ scaffold ++ "\n"

/-- Writes a file, after the folders above it. -/
def put (t : Tree) (target : Path) (text : String) : Tree × Option Failure :=
  match t.makeFolders target.parent with
  | (t, some failure) => (t, some failure)
  | (t, none) =>
    match t.writeText target text with
    | .ok t' => (t', none)
    | .error failure => (t, some failure)

/-- The text of a file, if there is one. -/
def existing (t : Tree) (target : Path) : Except Failure (Option String) := do
  if ← t.exists? target then return some (← t.read target) else return none

/-- What a request comes to if nothing has to be done. -/
def Request.nothingToDo (r : Request) (d : Draft) (old : Option String) : Effect :=
  { category := d.category, name := d.name, target := r.target, dryRun := r.dryRun,
    created := old.isNone, appended := false, writtenTo := none, diff := "", warnings := [] }

/-- What a request comes to if a scaffold is put into the file. -/
def Workshop.change (w : Workshop) (r : Request) (d : Draft) (old : Option String)
    (scaffold : String) : Effect :=
  let text := merged old scaffold
  { r.nothingToDo d old with
    appended := old.isSome
    writtenTo := if r.dryRun then none else some r.target
    diff := Diff.unified (old.getD "") text r.target.toString
    warnings := warnings (w.complaints text) text }

/-- Puts the scaffold of a draft into a file, unless it is there already. -/
def Workshop.place (w : Workshop) (t : Tree) (r : Request) (d : Draft) :
    Tree × Except Failure Answer :=
  match existing t r.target with
  | .error failure => (t, .error failure)
  | .ok old =>
    match w.compose d (old.getD "") with
    | .error failure => (t, .error failure)
    | .ok scaffold =>
      if w.isPresent scaffold (old.getD "") then (t, .ok (.present (r.nothingToDo d old)))
      else if r.dryRun then (t, .ok (.done (w.change r d old scaffold)))
      else
        match put t r.target (merged old scaffold) with
        | (t', some failure) => (t', .error failure)
        | (t', none) => (t', .ok (.done (w.change r d old scaffold)))

/-- Meets a request, or says why not. -/
def Workshop.introduce (w : Workshop) (t : Tree) (r : Request) : Tree × Except Failure Answer :=
  match w.draft r with
  | .error answer => (t, .ok answer)
  | .ok d => w.place t r d

/-- Meets a request for something of one category only. -/
def Workshop.introduceOnly (w : Workshop) (wanted : Category) (t : Tree) (r : Request) :
    Tree × Except Failure Answer :=
  let noun :=
    match wanted with
    | .pattern => "pattern"
    | .architecture => "architecture"
  let article :=
    match wanted with
    | .pattern => "a"
    | .architecture => "an"
  match w.select (r.name.getD "") with
  | none => (t, .ok (.refused s!"Unknown {noun}: {shownName r.name}" r.name))
  | some (category, name, _) =>
    if category = wanted then w.introduce t { r with name := some name }
    else (t, .ok (.refused s!"Not {article} {noun}: {shownName r.name}" r.name))

end DesignLens.Scaffold
