import DesignLens.Source.Grammar
import DesignLens.TypeHints.Insertion

/-!
# Importing the general type

A text with new hints has to import the general type `Any`. If some import of it is there already,
nothing is needed. If the text imports something else from the same module, the name is put in
front. Otherwise a new line is added after the last import at the top, or after the description of
the module, or before its first statement; an empty line keeps it apart from what follows.
-/

namespace DesignLens.TypeHints

open Source

/-- The names that a statement imports from the module of types, if they are listed. -/
def typingNames? : Stmt → Option (List ImportName)
  | .importFrom _ (some "typing") names 0 =>
    if names.any fun n => n.name == "*" then none else some names
  | _ => none

def statementsOf (p : Program) : List Stmt :=
  (Node.walkLevels (Node.stmts p.module.body)).filterMap fun n =>
    match n with
    | .stmt s => some s
    | _ => none

/-- All lists of names imported from the module of types, in reading order. -/
def typingImports (p : Program) : List (List ImportName) :=
  let imports := (statementsOf p).filterMap fun s => (typingNames? s).map fun names => (s, names)
  (sortedBy (fun a b => a.1.span.start ≤ b.1.span.start) imports).map Prod.snd

def importsAny (names : List ImportName) : Bool :=
  names.any fun n => n.name == "Any" && n.asName.isNone

/-- Whether two statements stand on one line, one after the other. -/
def sharesLine (layout : Layout) (a b : Stmt) : Bool :=
  let between := (layout.chars.drop a.span.stop).take (b.span.start - a.span.stop)
  goesOn between
where
  goesOn : List Char → Bool
    | '\\' :: '\n' :: rest => goesOn rest
    | c :: rest => c != '\n' && c != '#' && goesOn rest
    | [] => true

/-- Statements in lines: simple statements may share one. -/
def linesOf (layout : Layout) : List Stmt → List (List Stmt)
  | [] => []
  | s :: rest =>
    match linesOf layout rest with
    | (next :: line) :: lines =>
      if sharesLine layout s next then (s :: next :: line) :: lines
      else [s] :: (next :: line) :: lines
    | lines => [s] :: lines

def isImport : Stmt → Bool
  | .import_ .. | .importFrom .. => true
  | _ => false

/-- A line with nothing but one string. -/
def isDescription (layout : Layout) (line : List Stmt) : Bool :=
  match line with
  | [.expr _ (.constant span value)] =>
    (match value with
      | .text _ | .bytes _ => true
      | _ => false) &&
      ((lex ((layout.chars.drop span.start).take (span.stop - span.start)) 1).tokens.toList.filter
        fun t => t.kind == .string).length == 1
  | _ => false

/-- The number of lines after which a new import belongs. -/
def linesBefore (layout : Layout) (lines : List (List Stmt)) : Nat :=
  let start :=
    match lines with
    | first :: _ => if isDescription layout first then 1 else 0
    | [] => 0
  lines.zipIdx.foldl (fun n (line, i) => if line.any isImport then i + 1 else n) start

/-- The position after the line that a statement ends, counted from the end of the statement. -/
def restOfLine : List Char → Nat
  | '\\' :: '\n' :: rest => restOfLine rest + 2
  | '#' :: rest => (rest.takeWhile (· != '\n')).length + 2
  | c :: rest => if c = '\n' then 1 else restOfLine rest + 1
  | [] => 0

/-- The first stretch of a statement with its decorators. -/
def firstSpan (s : Stmt) : Span :=
  let decorators :=
    match s with
    | .functionDef d => d.decorators
    | .classDef d => d.decorators
    | _ => []
  (decorators.head?.map Expr.span).getD s.span

/-- The position at which the line of another position starts. -/
def lineStart (chars : List Char) (position : Nat) : Nat :=
  position - ((chars.take position).reverse.takeWhile (· != '\n')).length

/-- Whether the next line has nothing on it. -/
def startsWithEmptyLine (chars : List Char) : Bool :=
  match chars.dropWhile fun c => c == ' ' || c == '\t' || c == '\x0c' with
  | '\n' :: _ => true
  | _ => false

/-- The line end that a text uses first. -/
def lineEndOf : List Char → String
  | '\r' :: '\n' :: _ => "\r\n"
  | '\r' :: _ => "\r"
  | '\n' :: _ => "\n"
  | _ :: rest => lineEndOf rest
  | [] => "\n"

def importLine : String := "from typing import Any"

/-- A new import line where it belongs. -/
def newLine (p : Program) : Insertion :=
  let layout := p.layout
  let lines := linesOf layout p.module.body
  let lineEnd := lineEndOf layout.written
  let n := linesBefore layout lines
  match (lines.take n).getLast?.bind List.getLast? with
  | none =>
    let first := ((p.module.body.head?).map fun s => (firstSpan s).start).getD 0
    ⟨layout.place (lineStart layout.chars first), importLine ++ lineEnd ++ lineEnd⟩
  | some last =>
    let rest := layout.chars.drop last.span.stop
    let position := last.span.stop + restOfLine rest
    let newlinePlace := layout.place (position - 1)
    if newlinePlace = layout.written.length then ⟨newlinePlace, lineEnd ++ importLine⟩
    else
      let isLast := (lines.drop n).isEmpty
      let gap := if isLast || startsWithEmptyLine (layout.chars.drop position) then "" else lineEnd
      ⟨layout.place position, importLine ++ lineEnd ++ gap⟩

/-- What has to be inserted so that the general type is imported. -/
def importInsertions (p : Program) : List Insertion :=
  let imports := typingImports p
  if imports.any importsAny then []
  else
    match imports.head?.bind List.head? with
    | some name => [⟨p.layout.place name.span.start, "Any, "⟩]
    | none => [newLine p]

end DesignLens.TypeHints
