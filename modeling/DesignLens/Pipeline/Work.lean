import DesignLens.Json.Reader
import DesignLens.Pipeline.Result
import DesignLens.World

/-!
# The work of a stage

A stage runs other programs, reads and saves files, and notes on the way what it finds and what is
wrong. What it has noted remains when it breaks off.
-/

namespace DesignLens.Pipeline

open Workspace

/-- The world and what a stage has noted so far. -/
structure Draft where
  world : World
  output : Table Json
  errors : List String
  artifacts : List Path

def Draft.blank (w : World) : Draft := ⟨w, [], [], []⟩

abbrev Work : Type → Type := ExceptT Failure (StateM Draft)

namespace Work

/-- Runs another program. -/
def command (words : List String) : Work ProcessOutput := do
  let d ← get
  let (processes, answer) := d.world.processes.run words
  set { d with world := { d.world with processes := processes } }
  MonadExcept.ofExcept answer

/-- Looks at the files. -/
def look {α : Type} (question : Tree → Except Failure α) : Work α := do
  MonadExcept.ofExcept (question (← get).world.tree)

def setTree (t : Tree) : Work Unit :=
  modify fun d => { d with world := { d.world with tree := t } }

/-- Changes the files, unless that fails. -/
def change (step : Tree → Except Failure Tree) : Work Unit := do setTree (← look step)

/-- Creates the folder for reports, if there is to be one. -/
def ensureFolder : Option Path → Work Unit
  | none => pure ()
  | some folder => do
    let (t, failure) := (← get).world.tree.makeFolders folder
    setTree t
    match failure with
    | none => pure ()
    | some f => throw f

/-- Saves a report, if there is a folder for reports. -/
def save (folder : Option Path) (name text : String) : Work Unit :=
  match folder with
  | none => pure ()
  | some folder => change fun t => t.writeText (folder.child name) text

/-- Notes a finding. -/
def put (name : String) (v : Json) : Work Unit :=
  modify fun d => { d with output := Table.insert name v d.output }

/-- Notes what is wrong. -/
def complain (messages : List String) : Work Unit :=
  modify fun d => { d with errors := d.errors ++ messages }

/-- Notes a file to be kept. -/
def keep (p : Path) : Work Unit := modify fun d => { d with artifacts := d.artifacts ++ [p] }

/-- Goes on with something else after some kinds of failures. -/
def recover {α : Type} (covers : FailureKind → Bool) (other : Failure → α) (work : Work α) :
    Work α :=
  tryCatch work fun f => if covers f.kind then pure (other f) else throw f

/-- The result of a stage: what it noted until it ended or broke off. A stage that the user
interrupts has none. -/
def toResult (name : Json) (lead : String) (work : Work Bool) (w : World) :
    World × Except Failure StageResult :=
  let (ending, d) := StateT.run (ExceptT.run work) (.blank w)
  let result (success : Bool) (errors : List String) : StageResult :=
    ⟨name, .bool success, noTime, .obj d.output, .strings errors, d.artifacts⟩
  (d.world, Failure.handle (fun f => result false (d.errors ++ [lead ++ f.message]))
    (ending.map fun success => result success d.errors))

end Work

/-- Whether a program that was to succeed did not. -/
def isProcessFailure (kind : FailureKind) : Bool := kind == .processFailed

/-- What a program reports in JSON: nothing, something unreadable, or a value. -/
inductive ReportText where
  | nothing
  | unreadable (message : String)
  | value (v : Json)

def ReportText.ofString (text : String) : Except Failure ReportText :=
  if text.isEmpty then .ok .nothing
  else
    match Json.read text with
    | .ok v => .ok (.value v)
    | .error fault =>
      match fault.cause with
      -- a number that is too long does not make a report unreadable but breaks off the reading
      | .tooManyDigits _ => .error (.badValue (fault.message text))
      | _ => .ok (.unreadable (fault.message text))

/-- Reads what a program reports. -/
def Work.reported (answer : ProcessOutput) : Work ReportText :=
  MonadExcept.ofExcept (ReportText.ofString answer.stdout)

/-- The folder for reports among the arguments of a stage. -/
def folderOf (arguments : Table Json) : Option Path :=
  (Arguments.text? arguments "output_dir").map Path.ofString

def flagOf (arguments : Table Json) (name : String) (default : Bool) : Bool :=
  (argumentD arguments name (.bool default)).truthy

end DesignLens.Pipeline
