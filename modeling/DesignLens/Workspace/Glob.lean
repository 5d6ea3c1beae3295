import DesignLens.Workspace.Tree

/-!
# Collecting source files

A path with wildcards stands for the matching names in its folder, a folder for the files below it
that end in `.py`, and a file for itself. Files are collected once, in the order of the paths.

In a pattern `*` stands for any characters, `?` for one, and brackets for one of the characters
between them, or for one other than these after an exclamation mark.
-/

namespace DesignLens.Workspace

inductive Wild where
  | any
  | one
  | exactly (c : Char)
  | oneOf (negated : Bool) (ranges : List (Char × Char))
  deriving DecidableEq, Repr

/-- The ranges between brackets: single characters, or two with a hyphen between them. -/
def rangesOf : List Char → List (Char × Char)
  | a :: '-' :: b :: rest => if a ≤ b then (a, b) :: rangesOf rest else rangesOf rest
  | a :: rest => (a, a) :: rangesOf rest
  | [] => []

/-- What stands between brackets, after the opening one; a closing bracket at the start is one of
the characters. -/
def bracketed (cs : List Char) : Option (Bool × List Char × List Char) :=
  let (negated, cs) :=
    match cs with
    | '!' :: rest => (true, rest)
    | _ => (false, cs)
  let (front, cs) :=
    match cs with
    | ']' :: rest => ([']'], rest)
    | _ => ([], cs)
  let inside := cs.takeWhile (· != ']')
  match cs.drop inside.length with
  | _ :: rest => some (negated, front ++ inside, rest)
  | [] => none

theorem bracketed_length {cs inside rest : List Char} {negated : Bool}
    (h : bracketed cs = some (negated, inside, rest)) : rest.length < cs.length + 1 := by
  unfold bracketed at h
  have key : ∀ ds : List Char, ∀ front : List Char, ∀ n : Bool, ds.length ≤ cs.length →
      (match ds.drop (ds.takeWhile (· != ']')).length with
        | _ :: r => some (n, front ++ ds.takeWhile (· != ']'), r)
        | [] => none) = some (negated, inside, rest) → rest.length < cs.length + 1 := by
    intro ds front n hle hm
    split at hm
    · rename_i x r heq
      simp only [Option.some.injEq, Prod.mk.injEq] at hm
      have hlen := congrArg List.length heq
      simp only [List.length_drop, List.length_cons] at hlen
      rw [← hm.2.2]
      omega
    · simp at hm
  revert h
  split
  rename_i n ds hds
  split
  rename_i front ds' hds'
  intro h
  refine key ds' front n ?_ h
  have h1 : ds.length ≤ cs.length := by
    split at hds
    · rw [← (Prod.mk.inj hds).2]
      exact Nat.le_succ _
    · exact Nat.le_of_eq (congrArg List.length (Prod.mk.inj hds).2.symm)
  have h2 : ds'.length ≤ ds.length := by
    split at hds'
    · rw [← (Prod.mk.inj hds').2]
      exact Nat.le_succ _
    · exact Nat.le_of_eq (congrArg List.length (Prod.mk.inj hds').2.symm)
  omega

def wildsOf (pattern : List Char) : List Wild :=
  match pattern with
  | [] => []
  | '*' :: rest => .any :: wildsOf rest
  | '?' :: rest => .one :: wildsOf rest
  | '[' :: rest =>
    match _h : bracketed rest with
    | some (negated, inside, after) => .oneOf negated (rangesOf inside) :: wildsOf after
    | none => .exactly '[' :: wildsOf rest
  | c :: rest => .exactly c :: wildsOf rest
termination_by pattern.length
decreasing_by
  all_goals simp only [List.length_cons]
  all_goals try omega
  have := bracketed_length _h
  omega

def Wild.accepts (c : Char) : Wild → Bool
  | .any => true
  | .one => true
  | .exactly d => c == d
  | .oneOf negated ranges => (ranges.any fun r => r.1 ≤ c && c ≤ r.2) != negated

def matchesWilds : List Wild → List Char → Bool
  | [], cs => cs.isEmpty
  | .any :: rest, [] => matchesWilds rest []
  | .any :: rest, c :: cs => matchesWilds rest (c :: cs) || matchesWilds (.any :: rest) cs
  | _ :: _, [] => false
  | w :: rest, c :: cs => w.accepts c && matchesWilds rest cs
termination_by ws cs => (ws.length, cs.length)

def matchesPattern (pattern name : String) : Bool :=
  matchesWilds (wildsOf pattern.toList) name.toList

/-- A path is a pattern if it has one of these characters. -/
def isPattern (p : String) : Bool := p.toList.any ['*', '?', '[', ']'].contains

/-- The paths in a folder whose names match a pattern. Two stars in a row are only allowed alone,
and then stand for folders, of which there is no use here. -/
def matching (t : Tree) (folder : Path) (pattern : String) : Except Failure (List Path) :=
  if pattern == "**" || pattern == ".." then .ok []
  else if Text.occurs "**" pattern then
    .error (.badValue "Invalid pattern: '**' can only be an entire path component")
  else do
    if ← t.isFolder folder then
      match t.locate folder with
      | .ok place =>
        return ((t.namesIn place).filter (matchesPattern pattern)).map folder.child
      | .error _ => return []
    else return []

/-- The paths to the files below the place of a folder that are named like source files. All folders
below it are entered, which fails if the path to one of them is too long. -/
def namedBelow (t : Tree) (p : Path) (place : Place) : Except Failure (List Path) := do
  let _ ← (t.foldersBelow place).mapM fun q => t.isFolder (p.onward place q)
  let named := (t.filesBelow place).filter fun q => Text.endsWith ".py" (q.getLastD "")
  return named.map (p.onward place)

/-- The source files below the place of a folder. -/
def sourcesBelow (t : Tree) (p : Path) (place : Place) : Except Failure (List Path) := do
  let named ← namedBelow t p place
  named.filterM t.isFile

/-- The source files that an entry stands for. -/
def sourcesOf (t : Tree) (entry : String) : Except Failure (List Path) := do
  let p := Path.ofString entry
  if isPattern entry then
    let found ← matching t p.parent p.name
    found.filterM fun q => do return (← t.isFile q) && q.suffix == ".py"
  else if ← t.isFolder p then
    match t.locate p with
    | .ok place => sourcesBelow t p place
    | .error _ => return []
  else if (← t.isFile p) && p.suffix == ".py" then return [p]
  else return []

/-- The first path of those that lead to one place. -/
def distinctPlaces (t : Tree) (paths : List Path) : List Path :=
  (paths.foldl (fun (acc : List Place × List Path) p =>
    match t.locate p with
    | .ok place =>
      if acc.1.contains place then acc else (acc.1 ++ [place], acc.2 ++ [p])
    | .error _ => acc) ([], [])).2

/-- The source files that a list of entries stands for. -/
def sources (t : Tree) (entries : List String) : Except Failure (List Path) := do
  let found ← entries.mapM (sourcesOf t)
  return distinctPlaces t found.flatten

end DesignLens.Workspace
