import DesignLens.Json.Packed
import DesignLens.Json.Writer
import DesignLens.Text.Digest
import DesignLens.Workspace.Glob

/-!
# The cache

Values are kept in the files of a folder, one file per key. A file that holds no value is of no
use: looking its key up removes it. The key of a stage is its name with a digest of its inputs,
which does not depend on the order of their fields.
-/

namespace DesignLens.Pipeline

open Workspace

structure Cache where
  folder : Path

/-- Inputs are digested as one line of JSON with sorted names. -/
def keyLayout : Json.Layout := ⟨none, true, true⟩

/-- The text that is digested. -/
def keyText (inputs : Json) : String := Json.write keyLayout inputs

def cacheKey (stage : String) (inputs : Json) : String :=
  stage ++ "_" ++ Text.md5 ((keyText inputs).toUTF8.toList.map UInt8.toNat)

namespace Cache

/-- The first line of a file with a value. -/
def mark : String := "kept value\n"

def encode (v : Json) : String := mark ++ String.ofList v.pack

def decode? (c : Content) : Option Json :=
  match c with
  | .text s =>
    if Text.startsWith mark s then Json.unpack? (s.toList.drop mark.length) else none
  | .bytes .. => none

/-- Creates the folder of a cache. -/
def prepare (c : Cache) (t : Tree) : Tree × Option Failure := t.makeFolders c.folder

def file (c : Cache) (key : String) : Path := c.folder.join (Path.ofString (key ++ ".pkl"))

/-- The value of a key. A file without a value is removed. -/
def get (c : Cache) (key : String) (t : Tree) : Tree × Except Failure (Option Json) :=
  match t.exists? (c.file key) with
  | .error failure => (t, .error failure)
  | .ok false => (t, .ok none)
  | .ok true =>
    match t.content (c.file key) with
    | .error failure => (t, .error failure)
    | .ok content =>
      match decode? content with
      | some v => (t, .ok (some v))
      | none =>
        match t.locate (c.file key) with
        | .ok place => (t.removeFile place, .ok none)
        | .error _ => (t, .ok none)

/-- Keeps a value. One that cannot be written leaves an empty file. -/
def set (c : Cache) (key : String) (value : Option Json) (t : Tree) : Except Failure Tree :=
  t.writeText (c.file key) (value.elim "" encode)

/-- The files of the cache. -/
def entries (c : Cache) (t : Tree) : Except Failure (List Path) := matching t c.folder "*.pkl"

/-- Removes a file; a folder cannot be removed like that. -/
def unlink (t : Tree) (p : Path) : Except Failure Tree :=
  match t.content p, t.locate p with
  | .error failure, _ => .error failure
  | .ok _, .ok place => .ok (t.removeFile place)
  | .ok _, .error cause => .error (refusal cause p)

/-- Removes files one after another until one cannot be removed. -/
def unlinkAll (t : Tree) : List Path → Tree × Option Failure
  | [] => (t, none)
  | p :: rest =>
    match unlink t p with
    | .ok t' => unlinkAll t' rest
    | .error failure => (t, some failure)

def clear (c : Cache) (t : Tree) : Tree × Option Failure :=
  match c.entries t with
  | .ok paths => unlinkAll t paths
  | .error failure => (t, some failure)

structure Stats where
  folder : Path
  count : Nat
  /-- Bytes in all files. -/
  size : Nat

/-- What a folder takes. -/
def folderSize : Nat := 4096

def sizeAt (t : Tree) (p : Path) : Nat :=
  match t.content p with
  | .ok (.text s) => s.utf8ByteSize
  | .ok (.bytes all _) => all.length
  | .error _ => folderSize

def stats (c : Cache) (t : Tree) : Except Failure Stats := do
  let paths ← c.entries t
  return ⟨c.folder, paths.length, (paths.map (sizeAt t)).foldr (· + ·) 0⟩

end Cache

end DesignLens.Pipeline
