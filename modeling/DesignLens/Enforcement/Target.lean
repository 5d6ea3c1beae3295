import DesignLens.Setting
import DesignLens.Workspace.Glob

/-!
# Enforcing one target

A pattern or architecture is introduced into every selected file: into those where it was found, or
into all of them. The files are treated one after another; a failure ends the work, and what was
written before it remains.
-/

namespace DesignLens.Enforcement

open Workspace Scaffold

structure Request where
  name : String
  paths : List String
  scope : String
  dryRun : Bool
  /-- The folder that results go to, if they are not to replace the files. -/
  outFolder : Option String
  /-- The number of files to treat, unless it is not positive. -/
  maxFiles : Option Int

/-- Whether a finding has the wanted name: letter by letter, in letters and digits, or without the
word for architectures. -/
def findingMatches (wanted : String) (finding : Json) : Except Failure Bool := do
  let wanted := Naming.normal wanted
  let name := Naming.normal (← finding.get "name" (.str "")).shown
  let base := Text.trim (Text.replaceAll " architecture" "" name)
  return name == wanted || Naming.simplify name == Naming.simplify wanted ||
    Naming.simplify base == Naming.simplify wanted

/-- Whether something of a name is found in a file; nothing is found in a file that cannot be read
or probed. -/
def fileMatches (registry : Analysis.Registry) (t : Tree) (wanted : String) (file : Path) :
    Except Failure Bool :=
  match t.read file with
  | .error _ => .ok false
  | .ok text => do
    let findings ← Failure.handle (fun _ => []) (Analysis.probe registry text)
    findings.anyM (findingMatches wanted)

/-- The scope that selects the files where the target was found. -/
def hitsScope : String := "hits"

/-- The files to treat. -/
def select (registry : Analysis.Registry) (t : Tree) (wanted : String) (r : Request)
    (files : List Path) : Except Failure (List Path) := do
  let chosen ← if r.scope = hitsScope then files.filterM (fileMatches registry t wanted)
    else pure files
  return match r.maxFiles with
    | some n => if 0 < n then chosen.take n.toNat else chosen
    | none => chosen

/-- What was done to a file. -/
structure Change where
  file : Path
  answer : Answer

/-- The record of a change; it has the category of the enforcement. -/
def Change.toJson (category : Advice.Category) (c : Change) : Json :=
  let fields := c.answer.fields
  let fields :=
    if Table.contains "target" fields then fields
    else Table.insert "target" (.str c.file.toString) fields
  .obj (Table.insert "category" (.str category.word) fields)

/-- The introduction of a name into a file. -/
def introductionFor (name : String) (r : Request) (file : Path) : Scaffold.Request :=
  let folder := r.outFolder.filter (!·.isEmpty)
  { name := some name, modulePath := file.toString, dryRun := r.dryRun,
    outPath := folder.map fun f => ((Path.ofString f).child file.name).toString }

/-- Treats files one after another. -/
def applyTo (w : Workshop) (name : String) (r : Request) :
    Tree → List Path → Tree × Except Failure (List Change)
  | t, [] => (t, .ok [])
  | t, file :: rest =>
    match w.introduce t (introductionFor name r file) with
    | (t, .error failure) => (t, .error failure)
    | (t, .ok answer) =>
      let (t, changes) := applyTo w name r t rest
      (t, changes.map fun cs => ⟨file, answer⟩ :: cs)

inductive Report where
  /-- There are no paths. -/
  | refused
  /-- The paths lead to no files. -/
  | idle (category : Advice.Category)
  | done (category : Advice.Category) (name : String) (request : Request) (changes : List Change)

def noPathsFields : List (String × Json) :=
  [("status", .str "error"), ("error", .str "Provide non-empty 'paths'")]

def nothingSelected : String :=
  "no files matched scope or detector hits; try scope='all' or verify target name"

def Report.fields : Report → List (String × Json)
  | .refused => noPathsFields
  | .idle category =>
    [("status", .str "ok"), ("category", .str category.word), ("changes", .arr [])]
  | .done category name r changes =>
    [("status", .str "ok"), ("category", .str category.word), ("name", .str name),
      ("scope", .str r.scope), ("dry_run", .bool r.dryRun), ("paths", .strings r.paths),
      ("changes", .arr (changes.map (Change.toJson category)))] ++
      if changes.isEmpty then [("reason", .str nothingSelected)] else []

def Report.toJson (r : Report) : Json := .obj r.fields

/-- The category that a report names. -/
def categoryFor (s : Setting) (name : String) : Advice.Category :=
  if Table.contains name s.advice.architectures then .architecture else .pattern

/-- The files that a request selects, if its paths lead to any. -/
def selectedFiles (s : Setting) (t : Tree) (r : Request) : Except Failure (Option (List Path)) := do
  let files ← sources t r.paths
  if files.isEmpty then return none
  else return some (← select s.registry t (Naming.canonical r.name) r files)

def enforce (s : Setting) (t : Tree) (r : Request) : Tree × Except Failure Report :=
  if r.paths.isEmpty then (t, .ok .refused)
  else
    let name := Naming.canonical r.name
    let category := categoryFor s name
    match selectedFiles s t r with
    | .error failure => (t, .error failure)
    | .ok none => (t, .ok (.idle category))
    | .ok (some files) =>
      let (t, changes) := applyTo s.workshop name r t files
      (t, changes.map (.done category name r))

end DesignLens.Enforcement
