import DesignLens.Table
import DesignLens.Workspace.Content
import DesignLens.Workspace.Path

/-!
# File trees

The files and folders that operations read and change. A place is the list of names that leads from
the root to a file or folder; a path is followed from the root to a place, and every folder on the
way has to exist. Paths that start with a slash lead nowhere, and there is nothing above the root.
-/

namespace DesignLens.Workspace

abbrev Place : Type := List String

/-- The place that names lead to from a place, if they can be followed. -/
def destinationFrom (place : Place) : List String → Place
  | [] => place
  | name :: rest =>
    if name = ".." then destinationFrom place.dropLast rest
    else destinationFrom (place ++ [name]) rest

/-- The place that a path leads to, if it can be followed. -/
def Path.destination (p : Path) : Place := destinationFrom [] p.parts

/-- Folders other than the root, and files with their contents. -/
structure Tree where
  folders : List Place
  files : List (Place × Content)
  deriving Repr

inductive Entry where
  | folder
  | file (content : Content)

def causeText : SystemCause → String
  | .missing => "[Errno 2] No such file or directory"
  | .alreadyThere => "[Errno 17] File exists"
  | .notFolder => "[Errno 20] Not a directory"
  | .isFolder => "[Errno 21] Is a directory"
  | .nameTooLong => "[Errno 36] File name too long"

/-- A refusal of the file system about a path. -/
def refusal (cause : SystemCause) (p : Path) : Failure :=
  ⟨.system (some cause), s!"{causeText cause}: {Text.quoted p.toString}"⟩

/-- The greatest number of bytes in a name. -/
def nameLimit : Nat := 255

/-- The greatest number of bytes in a path. -/
def pathLimit : Nat := 4095

/-- No file has a null character in its path. -/
def Path.isWritable (p : Path) : Bool := !p.parts.any fun part => part.toList.contains '\x00'

def nullInPath : Failure := .badValue "embedded null byte"

namespace Tree

def empty : Tree := ⟨[], []⟩

def fileAt? (t : Tree) (place : Place) : Option Content :=
  (t.files.find? fun f => f.1 == place).map Prod.snd

def isFolderAt (t : Tree) (place : Place) : Bool := place.isEmpty || t.folders.contains place

def entryAt? (t : Tree) (place : Place) : Option Entry :=
  if t.isFolderAt place then some .folder else (t.fileAt? place).map .file

/-- Why a place is no folder. -/
def requireFolder (t : Tree) (place : Place) : Except SystemCause Unit :=
  match t.entryAt? place with
  | some .folder => .ok ()
  | some (.file _) => .error .notFolder
  | none => .error .missing

/-- The place that names lead to from a place. -/
def follow (t : Tree) (place : Place) : List String → Except SystemCause Place
  | [] => .ok place
  | name :: rest => do
    t.requireFolder place
    if name = ".." then t.follow place.dropLast rest
    else if nameLimit < name.utf8ByteSize then .error .nameTooLong
    else t.follow (place ++ [name]) rest

/-- The place of a path, whether there is something or not. -/
def locate (t : Tree) (p : Path) : Except SystemCause Place :=
  if p.absolute then .error .missing
  else if pathLimit < p.toString.utf8ByteSize then .error .nameTooLong
  else t.follow [] p.parts

/-- What a path leads to. A path that leads nowhere is no failure, but one that cannot be followed
is. -/
def look (t : Tree) (p : Path) : Except Failure (Option Entry) :=
  if !p.isWritable then .ok none
  else
    match t.locate p with
    | .ok place => .ok (t.entryAt? place)
    | .error .nameTooLong => .error (refusal .nameTooLong p)
    | .error _ => .ok none

def exists? (t : Tree) (p : Path) : Except Failure Bool := (t.look p).map Option.isSome

def isFolder (t : Tree) (p : Path) : Except Failure Bool :=
  (t.look p).map fun entry =>
    match entry with
    | some .folder => true
    | _ => false

def isFile (t : Tree) (p : Path) : Except Failure Bool :=
  (t.look p).map fun entry =>
    match entry with
    | some (.file _) => true
    | _ => false

/-- The content of a file. -/
def content (t : Tree) (p : Path) : Except Failure Content :=
  if !p.isWritable then .error nullInPath
  else
    match t.locate p with
    | .error cause => .error (refusal cause p)
    | .ok place =>
      match t.entryAt? place with
      | some (.file c) => .ok c
      | some .folder => .error (refusal .isFolder p)
      | none => .error (refusal .missing p)

def read (t : Tree) (p : Path) : Except Failure String := t.content p >>= Content.read

/-- Puts a content in the place of a file. -/
def setFile (t : Tree) (place : Place) (c : Content) : Tree :=
  if t.files.any fun f => f.1 == place then
    { t with files := t.files.map fun f => if f.1 == place then (place, c) else f }
  else { t with files := t.files ++ [(place, c)] }

/-- The folder of a file has to exist. -/
def write (t : Tree) (p : Path) (c : Content) : Except Failure Tree :=
  if !p.isWritable then .error nullInPath
  else
    match t.locate p with
    | .error cause => .error (refusal cause p)
    | .ok place =>
      if t.isFolderAt place then .error (refusal .isFolder p) else .ok (t.setFile place c)

def writeText (t : Tree) (p : Path) (text : String) : Except Failure Tree := t.write p (.text text)

/-- Removes a file; a file that is not there is no failure. -/
def removeFile (t : Tree) (place : Place) : Tree :=
  { t with files := t.files.filter fun f => f.1 != place }

/-- Creates one folder in a folder. -/
def makeFolder (t : Tree) (p : Path) : Except SystemCause Tree := do
  let place ← t.locate p
  if (t.entryAt? place).isSome then throw .alreadyThere
  t.requireFolder place.dropLast
  return { t with folders := t.folders ++ [place] }

/-- A refusal to create a folder that is there already is no failure. -/
def settleFolder (t : Tree) (p : Path) : Except SystemCause Tree → Tree × Option Failure
  | .ok t' => (t', none)
  | .error cause =>
    match t.isFolder p with
    | .ok true => (t, none)
    | .ok false => (t, some (refusal cause p))
    | .error failure => (t, some failure)

/-- Creates a folder and those above it as far as they are missing. The names are given last name
first. On failure the folders created so far remain. -/
def makeFoldersFrom (t : Tree) (absolute : Bool) : List String → Tree × Option Failure
  | [] => t.settleFolder ⟨absolute, []⟩ (t.makeFolder ⟨absolute, []⟩)
  | name :: above =>
    let p : Path := ⟨absolute, (name :: above).reverse⟩
    match t.makeFolder p with
    | .error .missing =>
      match t.makeFoldersFrom absolute above with
      | (t', some failure) => (t', some failure)
      | (t', none) => t'.settleFolder p (t'.makeFolder p)
    | outcome => t.settleFolder p outcome

def makeFolders (t : Tree) (p : Path) : Tree × Option Failure :=
  if p.isWritable then t.makeFoldersFrom p.absolute p.parts.reverse else (t, some nullInPath)

/-- Puts a file with all folders above it, as the start of a tree. -/
def plant (t : Tree) (p : Path) (c : Content) : Tree :=
  let (t, _) := t.makeFolders p.parent
  t.setFile p.parts c

/-- The names in a folder, sorted. -/
def namesIn (t : Tree) (place : Place) : List String :=
  let inside := (t.folders ++ t.files.map Prod.fst).filter fun q =>
    !q.isEmpty && q.dropLast == place
  Text.sort (inside.map fun q => q.getLastD "")

/-- Whether a place stands no later than another, compared name by name. -/
def notAfter : Place → Place → Bool
  | [], _ => true
  | _ :: _, [] => false
  | a :: p, b :: q => decide (a < b) || (a == b && notAfter p q)

/-- The places of the files below a folder, sorted name by name. -/
def filesBelow (t : Tree) (place : Place) : List Place :=
  let inside := (t.files.map Prod.fst).filter fun q => place.isPrefixOf q
  inside.mergeSort notAfter

/-- The places of a folder and the folders below it, sorted name by name. -/
def foldersBelow (t : Tree) (place : Place) : List Place :=
  (t.folders.filter fun q => place.isPrefixOf q).mergeSort notAfter

/-- The places of the files and folders below a folder, sorted name by name. -/
def entriesBelow (t : Tree) (place : Place) : List Place :=
  let inside := (t.folders ++ t.files.map Prod.fst).filter fun q =>
    place.isPrefixOf q && q != place
  inside.mergeSort notAfter

/-- Moves a file, over another one if need be. -/
def moveFile (t : Tree) (source target : Path) : Except Failure Tree :=
  let refuse (cause : SystemCause) : Failure :=
    ⟨.system (some cause),
      s!"{causeText cause}: {Text.quoted source.toString} -> {Text.quoted target.toString}"⟩
  match t.locate source, t.locate target with
  | .error cause, _ | _, .error cause => .error (refuse cause)
  | .ok old, .ok new =>
    match t.fileAt? old, t.requireFolder new.dropLast with
    | none, _ => .error (refuse .missing)
    | _, .error cause => .error (refuse cause)
    | some c, .ok () =>
      if t.isFolderAt new then .error (refuse .isFolder)
      else .ok ((t.removeFile old).setFile new c)

/-- The files whose content is not what it was, with their content now. -/
def changesSince (t old : Tree) : List (Place × Option Content) :=
  let gone := (old.files.filter fun f => (t.fileAt? f.1).isNone).map fun f => (f.1, none)
  let changed := (t.files.filter fun f => old.fileAt? f.1 != some f.2).map fun f => (f.1, some f.2)
  gone ++ changed

end Tree

end DesignLens.Workspace
