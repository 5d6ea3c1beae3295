import DesignLens.Source.Legality

/-!
# Inspecting texts

What is defined at the top of a text, and whether readers of programs take the text for one. Besides
the parser of this library there are others whose complaints are only reported here, and an index of
definitions that may be there or not.
-/

namespace DesignLens.Scaffold

open Source

/-- The names of the functions and classes at the top of a module. -/
def definedNames (m : Module) : List String :=
  (m.body.filterMap fun s =>
    match s with
    | .functionDef d => some d.name
    | .classDef d => some d.name
    | _ => none).eraseDups

/-- The names of the functions and classes at the top of a text; a text that is no program has
none. -/
def topLevelNames (text : String) : List String :=
  match Program.parse text with
  | .error _ => []
  | .ok p => definedNames p.module

/-- A definition in an index: its kind, its name and the kind of what it stands in. -/
structure IndexEntry where
  kind : String
  name : Option String
  parent : Option String
  deriving DecidableEq, Repr

/-- Whether an index has a function or class of a name at the top; there may be no index. -/
def indexHas (index : Option (List IndexEntry)) (name : String) : Bool :=
  (index.getD []).any fun e =>
    ["function_definition", "class_definition"].contains e.kind && e.name == some name &&
      e.parent == some "module"

/-- What other readers of programs complain about, by what each of them is good at. -/
structure Complaints where
  tolerant : Option String
  lossless : Option String
  inferring : Option String
  editing : Option String
  incremental : Option String
  /-- The last of these reads everything but may mark errors in it. -/
  marksErrors : Bool
  /-- What the compiler says about a text that it refuses. -/
  compiling : String

def Complaints.none : Complaints :=
  ⟨Option.none, Option.none, Option.none, Option.none, Option.none, false, ""⟩

/-- The warnings of all readers about a text. -/
def warnings (others : Complaints) (text : String) : List String :=
  let own :=
    match Program.parse text with
    | .ok _ => []
    | .error fault => [s!"ast.parse failed: {fault.message}"]
  let say (lead : String) (complaint : Option String) : List String :=
    complaint.toList.map fun c => lead ++ " failed: " ++ c
  let marks :=
    if others.incremental.isNone && others.marksErrors then ["tree-sitter reports syntax errors"]
    else []
  own ++ say "parso.parse" others.tolerant ++ say "libcst.parse_module" others.lossless ++
    say "astroid.parse" others.inferring ++ say "RedBaron" others.editing ++
    say "tree-sitter" others.incremental ++ marks ++
    if compiles text then [] else ["py_compile failed: " ++ others.compiling]

end DesignLens.Scaffold
