import DesignLens.Source.Token

/-!
# Syntax trees

The tree of a Python module. Every expression, pattern and statement carries its stretch of source;
the stretch of a decorated definition starts at its keyword.

`Node` puts all kinds of tree parts under one type, `Node.children` lists the parts of a part in
reading order, and `Node.walk` lists a part and everything below it, level by level.
-/

namespace DesignLens.Source

inductive Constant where
  | none
  | bool (value : Bool)
  | ellipsis
  | integer (value : Nat)
  | real (text : String)
  | imaginary (text : String)
  | text (value : String)
  | bytes (value : List Nat)
  deriving DecidableEq, Repr

inductive BoolOp where
  | and
  | or
  deriving DecidableEq, Repr

inductive UnaryOp where
  | not
  | plus
  | minus
  | invert
  deriving DecidableEq, Repr

inductive CompareOp where
  | eq | ne | lt | le | gt | ge | is | isNot | in_ | notIn
  deriving DecidableEq, Repr

/-- An imported name, with the name it gets here. -/
structure ImportName where
  name : String
  asName : Option String
  span : Span
  deriving DecidableEq, Repr

mutual

inductive Expr where
  | boolOp (span : Span) (op : BoolOp) (values : List Expr)
  | named (span : Span) (target value : Expr)
  | binary (span : Span) (left : Expr) (op : String) (right : Expr)
  | unary (span : Span) (op : UnaryOp) (operand : Expr)
  | lambda (span : Span) (parameters : Parameters) (body : Expr)
  | conditional (span : Span) (test body orElse : Expr)
  | dict (span : Span) (entries : List DictEntry)
  | set (span : Span) (elements : List Expr)
  | listComp (span : Span) (element : Expr) (clauses : List Comprehension)
  | setComp (span : Span) (element : Expr) (clauses : List Comprehension)
  | dictComp (span : Span) (key value : Expr) (clauses : List Comprehension)
  | generator (span : Span) (element : Expr) (clauses : List Comprehension)
  | await (span : Span) (value : Expr)
  | yield (span : Span) (value : Option Expr)
  | yieldFrom (span : Span) (value : Expr)
  | compare (span : Span) (left : Expr) (ops : List CompareOp) (operands : List Expr)
  | call (span : Span) (function : Expr) (arguments : List Expr) (keywords : List Keyword)
  | formatted (span : Span) (value : Expr) (conversion : Option Char) (format : Option Expr)
  | joined (span : Span) (parts : List Expr)
  | constant (span : Span) (value : Constant)
  | attribute (span : Span) (value : Expr) (name : String)
  | subscript (span : Span) (value index : Expr)
  | starred (span : Span) (value : Expr)
  | name (span : Span) (id : String)
  | list (span : Span) (elements : List Expr)
  | tuple (span : Span) (elements : List Expr)
  | slice (span : Span) (lower upper step : Option Expr)

/-- An entry of a dictionary display; an unpacked mapping has no key. -/
structure DictEntry where
  key : Option Expr
  value : Expr

structure Comprehension where
  isAsync : Bool
  target : Expr
  iterable : Expr
  conditions : List Expr

/-- A keyword argument; an unpacked mapping has no name. -/
structure Keyword where
  name : Option String
  value : Expr
  span : Span

structure Parameter where
  name : String
  typeHint : Option Expr
  /-- The stretch of the name alone. -/
  nameSpan : Span

structure Parameters where
  positionalOnly : List Parameter
  positional : List Parameter
  /-- Defaults of the last positional parameters. -/
  defaults : List Expr
  star : Option Parameter
  keywordOnly : List Parameter
  keywordDefaults : List (Option Expr)
  doubleStar : Option Parameter

end

mutual

inductive Pattern where
  | value (span : Span) (value : Expr)
  | singleton (span : Span) (value : Constant)
  | sequence (span : Span) (patterns : List Pattern)
  | mapping (span : Span) (keys : List Expr) (patterns : List Pattern) (rest : Option String)
  | class_ (span : Span) (cls : Expr) (patterns : List Pattern) (keywords : List KeywordPattern)
  | star (span : Span) (name : Option String)
  | as_ (span : Span) (pattern : Option Pattern) (name : Option String)
  | or_ (span : Span) (patterns : List Pattern)

structure KeywordPattern where
  name : String
  pattern : Pattern

end

structure WithItem where
  context : Expr
  target : Option Expr

mutual

inductive Stmt where
  | functionDef (definition : FunctionDef)
  | classDef (definition : ClassDef)
  | return_ (span : Span) (value : Option Expr)
  | delete (span : Span) (targets : List Expr)
  | assign (span : Span) (targets : List Expr) (value : Expr)
  | augAssign (span : Span) (target : Expr) (op : String) (value : Expr)
  | hintedAssign (span : Span) (target typeHint : Expr) (value : Option Expr) (simple : Bool)
  | for_ (span : Span) (isAsync : Bool) (target iterable : Expr) (body orElse : List Stmt)
  | while_ (span : Span) (test : Expr) (body orElse : List Stmt)
  | if_ (span : Span) (test : Expr) (body orElse : List Stmt)
  | with_ (span : Span) (isAsync : Bool) (items : List WithItem) (body : List Stmt)
  | match_ (span : Span) (subject : Expr) (cases : List MatchCase)
  | raise (span : Span) (exception cause : Option Expr)
  | try_ (span : Span) (isStar : Bool) (body : List Stmt) (handlers : List Handler)
      (orElse finally_ : List Stmt)
  | assert (span : Span) (test : Expr) (message : Option Expr)
  | import_ (span : Span) (names : List ImportName)
  | importFrom (span : Span) (module : Option String) (names : List ImportName) (level : Nat)
  | global (span : Span) (names : List String)
  | nonlocal (span : Span) (names : List String)
  | expr (span : Span) (value : Expr)
  | pass (span : Span)
  | break_ (span : Span)
  | continue_ (span : Span)

structure FunctionDef where
  span : Span
  isAsync : Bool
  name : String
  parameters : Parameters
  body : List Stmt
  decorators : List Expr
  returns : Option Expr
  /-- The position after the parenthesis that closes the parameters. -/
  signatureEnd : Nat

structure ClassDef where
  span : Span
  name : String
  bases : List Expr
  keywords : List Keyword
  body : List Stmt
  decorators : List Expr

structure Handler where
  span : Span
  type : Option Expr
  name : Option String
  body : List Stmt

structure MatchCase where
  pattern : Pattern
  guard : Option Expr
  body : List Stmt

end

/-- The tree of a whole source text. -/
structure Module where
  body : List Stmt

def Expr.span : Expr → Span
  | .boolOp s .. | .named s .. | .binary s .. | .unary s .. | .lambda s .. | .conditional s ..
  | .dict s .. | .set s .. | .listComp s .. | .setComp s .. | .dictComp s .. | .generator s ..
  | .await s .. | .yield s .. | .yieldFrom s .. | .compare s .. | .call s .. | .formatted s ..
  | .joined s .. | .constant s .. | .attribute s .. | .subscript s .. | .starred s ..
  | .name s .. | .list s .. | .tuple s .. | .slice s .. => s

def Pattern.span : Pattern → Span
  | .value s .. | .singleton s .. | .sequence s .. | .mapping s .. | .class_ s .. | .star s ..
  | .as_ s .. | .or_ s .. => s

def Stmt.span : Stmt → Span
  | .functionDef d => d.span
  | .classDef d => d.span
  | .return_ s .. | .delete s .. | .assign s .. | .augAssign s .. | .hintedAssign s .. | .for_ s ..
  | .while_ s .. | .if_ s .. | .with_ s .. | .match_ s .. | .raise s .. | .try_ s ..
  | .assert s .. | .import_ s .. | .importFrom s .. | .global s .. | .nonlocal s .. | .expr s ..
  | .pass s .. | .break_ s .. | .continue_ s .. => s

/-- Any part of a syntax tree. -/
inductive Node where
  | stmt (s : Stmt)
  | expr (e : Expr)
  | parameters (p : Parameters)
  | parameter (p : Parameter)
  | keyword (k : Keyword)
  | comprehension (c : Comprehension)
  | withItem (w : WithItem)
  | handler (h : Handler)
  | matchCase (c : MatchCase)
  | pattern (p : Pattern)

namespace Node

def exprs (es : List Expr) : List Node := es.map .expr

def stmts (ss : List Stmt) : List Node := ss.map .stmt

def optional (e : Option Expr) : List Node := (e.toList).map .expr

def ofExpr : Expr → List Node
  | .boolOp _ _ values => exprs values
  | .named _ target value => [.expr target, .expr value]
  | .binary _ left _ right => [.expr left, .expr right]
  | .unary _ _ operand => [.expr operand]
  | .lambda _ params body => [.parameters params, .expr body]
  | .conditional _ test body orElse => [.expr test, .expr body, .expr orElse]
  | .dict _ entries =>
    exprs (entries.filterMap (·.key)) ++ exprs (entries.map (·.value))
  | .set _ elements | .list _ elements | .tuple _ elements => exprs elements
  | .listComp _ element clauses | .setComp _ element clauses | .generator _ element clauses =>
    .expr element :: clauses.map .comprehension
  | .dictComp _ key value clauses => .expr key :: .expr value :: clauses.map .comprehension
  | .await _ value | .yieldFrom _ value | .starred _ value | .attribute _ value _ => [.expr value]
  | .yield _ value => optional value
  | .compare _ left _ operands => .expr left :: exprs operands
  | .call _ function arguments keywords =>
    .expr function :: exprs arguments ++ keywords.map .keyword
  | .formatted _ value _ format => .expr value :: optional format
  | .joined _ parts => exprs parts
  | .constant .. | .name .. => []
  | .subscript _ value index => [.expr value, .expr index]
  | .slice _ lower upper step => optional lower ++ optional upper ++ optional step

def ofPattern : Pattern → List Node
  | .value _ value => [.expr value]
  | .singleton .. | .star .. => []
  | .sequence _ patterns | .or_ _ patterns => patterns.map .pattern
  | .mapping _ keys patterns _ => exprs keys ++ patterns.map .pattern
  | .class_ _ cls patterns keywords =>
    .expr cls :: patterns.map .pattern ++ keywords.map (fun k => .pattern k.pattern)
  | .as_ _ inner _ => inner.toList.map .pattern

def ofStmt : Stmt → List Node
  | .functionDef d =>
    .parameters d.parameters :: stmts d.body ++ exprs d.decorators ++ optional d.returns
  | .classDef d =>
    exprs d.bases ++ d.keywords.map .keyword ++ stmts d.body ++ exprs d.decorators
  | .return_ _ value => optional value
  | .delete _ targets => exprs targets
  | .assign _ targets value => exprs targets ++ [.expr value]
  | .augAssign _ target _ value => [.expr target, .expr value]
  | .hintedAssign _ target typeHint value _ => .expr target :: .expr typeHint :: optional value
  | .for_ _ _ target iterable body orElse =>
    .expr target :: .expr iterable :: stmts body ++ stmts orElse
  | .while_ _ test body orElse | .if_ _ test body orElse =>
    .expr test :: stmts body ++ stmts orElse
  | .with_ _ _ items body => items.map .withItem ++ stmts body
  | .match_ _ subject cases => .expr subject :: cases.map .matchCase
  | .raise _ exception cause => optional exception ++ optional cause
  | .try_ _ _ body handlers orElse finally_ =>
    stmts body ++ handlers.map .handler ++ stmts orElse ++ stmts finally_
  | .assert _ test message => .expr test :: optional message
  | .import_ .. | .importFrom .. | .global .. | .nonlocal .. | .pass .. | .break_ ..
  | .continue_ .. => []
  | .expr _ value => [.expr value]

def children : Node → List Node
  | .stmt s => ofStmt s
  | .expr e => ofExpr e
  | .parameters p =>
    p.positionalOnly.map .parameter ++ p.positional.map .parameter ++
      p.star.toList.map .parameter ++ p.keywordOnly.map .parameter ++
      exprs (p.keywordDefaults.filterMap id) ++ p.doubleStar.toList.map .parameter ++
      exprs p.defaults
  | .parameter p => optional p.typeHint
  | .keyword k => [.expr k.value]
  | .comprehension c => .expr c.target :: .expr c.iterable :: exprs c.conditions
  | .withItem w => .expr w.context :: optional w.target
  | .handler h => optional h.type ++ stmts h.body
  | .matchCase c => .pattern c.pattern :: optional c.guard ++ stmts c.body
  | .pattern p => ofPattern p

/-- The size of the tree part that a node stands for. -/
noncomputable def weight : Node → Nat
  | .stmt s => sizeOf s
  | .expr e => sizeOf e
  | .parameters p => sizeOf p
  | .parameter p => sizeOf p
  | .keyword k => sizeOf k
  | .comprehension c => sizeOf c
  | .withItem w => sizeOf w
  | .handler h => sizeOf h
  | .matchCase c => sizeOf c
  | .pattern p => sizeOf p

noncomputable def total (nodes : List Node) : Nat :=
  nodes.foldr (fun n rest => weight n + rest) 0

theorem total_nil : total [] = 0 := rfl

theorem total_cons (n : Node) (a : List Node) : total (n :: a) = weight n + total a := rfl

theorem total_append (a b : List Node) : total (a ++ b) = total a + total b := by
  induction a with
  | nil => rw [List.nil_append, total_nil, Nat.zero_add]
  | cons n a ih => rw [List.cons_append, total_cons, total_cons, ih, Nat.add_assoc]

theorem total_map_le {α : Type} [SizeOf α] (f : α → Node) (hf : ∀ a, weight (f a) = sizeOf a)
    (l : List α) : total (l.map f) ≤ sizeOf l := by
  induction l with
  | nil => simp [total]
  | cons a l ih => simp only [List.map_cons, total_cons, hf, List.cons.sizeOf_spec]; omega

theorem total_toList_le {α : Type} [SizeOf α] (f : α → Node) (hf : ∀ a, weight (f a) = sizeOf a)
    (o : Option α) : total (o.toList.map f) ≤ sizeOf o := by
  cases o with
  | none => simp [total]
  | some a => simp [total_cons, total_nil, hf]

theorem total_exprs_le (es : List Expr) : total (exprs es) ≤ sizeOf es :=
  total_map_le _ (fun _ => rfl) es

theorem total_stmts_le (ss : List Stmt) : total (stmts ss) ≤ sizeOf ss :=
  total_map_le _ (fun _ => rfl) ss

theorem total_optional_le (e : Option Expr) : total (optional e) ≤ sizeOf e :=
  total_toList_le _ (fun _ => rfl) e

theorem total_entries_le (entries : List DictEntry) :
    total (exprs (entries.filterMap (·.key))) + total (exprs (entries.map (·.value))) ≤
      sizeOf entries := by
  induction entries with
  | nil => simp [exprs, total]
  | cons entry rest ih =>
    obtain ⟨key, value⟩ := entry
    cases key <;> simp [exprs, total_cons, weight] at * <;> omega

theorem total_keywordPatterns_le (keywords : List KeywordPattern) :
    total (keywords.map fun k => .pattern k.pattern) ≤ sizeOf keywords := by
  induction keywords with
  | nil => simp [total]
  | cons k rest ih =>
    obtain ⟨name, inner⟩ := k
    simp [total_cons, weight] at *; omega

theorem total_filterMap_le (es : List (Option Expr)) :
    total (exprs (es.filterMap id)) ≤ sizeOf es := by
  induction es with
  | nil => simp [exprs, total]
  | cons e rest ih => cases e <;> simp [exprs, total_cons, weight] at * <;> omega

theorem total_ofExpr_lt (e : Expr) : total (ofExpr e) < sizeOf e := by
  cases e <;>
    simp only [ofExpr, total_append, total_cons, total_nil, weight, Expr.boolOp.sizeOf_spec,
      Expr.named.sizeOf_spec, Expr.binary.sizeOf_spec, Expr.unary.sizeOf_spec,
      Expr.lambda.sizeOf_spec, Expr.conditional.sizeOf_spec, Expr.dict.sizeOf_spec,
      Expr.set.sizeOf_spec, Expr.listComp.sizeOf_spec, Expr.setComp.sizeOf_spec,
      Expr.dictComp.sizeOf_spec, Expr.generator.sizeOf_spec, Expr.await.sizeOf_spec,
      Expr.yield.sizeOf_spec, Expr.yieldFrom.sizeOf_spec, Expr.compare.sizeOf_spec,
      Expr.call.sizeOf_spec, Expr.formatted.sizeOf_spec, Expr.joined.sizeOf_spec,
      Expr.constant.sizeOf_spec, Expr.attribute.sizeOf_spec, Expr.subscript.sizeOf_spec,
      Expr.starred.sizeOf_spec, Expr.name.sizeOf_spec, Expr.list.sizeOf_spec,
      Expr.tuple.sizeOf_spec, Expr.slice.sizeOf_spec]
  case dict s entries => have := total_entries_le entries; omega
  case boolOp s _ es | set s es | list s es | tuple s es | joined s es =>
    have := total_exprs_le es; omega
  case listComp s _ cs | setComp s _ cs | generator s _ cs | dictComp s _ _ cs =>
    have := total_map_le Node.comprehension (fun _ => rfl) cs; omega
  case yield s o | formatted s _ _ o => have := total_optional_le o; omega
  case compare s _ _ es => have := total_exprs_le es; omega
  case call s _ es ks =>
    have := total_exprs_le es
    have := total_map_le Node.keyword (fun _ => rfl) ks
    omega
  case slice s a b c =>
    have := total_optional_le a
    have := total_optional_le b
    have := total_optional_le c
    omega
  all_goals omega

theorem total_ofPattern_lt (p : Pattern) : total (ofPattern p) < sizeOf p := by
  cases p <;>
    simp only [ofPattern, total_append, total_cons, total_nil, weight, Pattern.value.sizeOf_spec,
      Pattern.singleton.sizeOf_spec, Pattern.sequence.sizeOf_spec, Pattern.mapping.sizeOf_spec,
      Pattern.class_.sizeOf_spec, Pattern.star.sizeOf_spec, Pattern.as_.sizeOf_spec,
      Pattern.or_.sizeOf_spec]
  case sequence s ps | or_ s ps => have := total_map_le Node.pattern (fun _ => rfl) ps; omega
  case mapping s es ps _ =>
    have := total_exprs_le es
    have := total_map_le Node.pattern (fun _ => rfl) ps
    omega
  case class_ s _ ps ks =>
    have := total_map_le Node.pattern (fun _ => rfl) ps
    have := total_keywordPatterns_le ks
    omega
  case as_ s o _ => have := total_toList_le Node.pattern (fun _ => rfl) o; omega
  all_goals omega

theorem total_ofStmt_lt (s : Stmt) : total (ofStmt s) < sizeOf s := by
  cases s <;>
    simp only [ofStmt, total_append, total_cons, total_nil, weight,
      Stmt.functionDef.sizeOf_spec, Stmt.classDef.sizeOf_spec, Stmt.return_.sizeOf_spec,
      Stmt.delete.sizeOf_spec, Stmt.assign.sizeOf_spec, Stmt.augAssign.sizeOf_spec,
      Stmt.hintedAssign.sizeOf_spec, Stmt.for_.sizeOf_spec, Stmt.while_.sizeOf_spec,
      Stmt.if_.sizeOf_spec, Stmt.with_.sizeOf_spec, Stmt.match_.sizeOf_spec,
      Stmt.raise.sizeOf_spec, Stmt.try_.sizeOf_spec, Stmt.assert.sizeOf_spec,
      Stmt.import_.sizeOf_spec, Stmt.importFrom.sizeOf_spec, Stmt.global.sizeOf_spec,
      Stmt.nonlocal.sizeOf_spec, Stmt.expr.sizeOf_spec, Stmt.pass.sizeOf_spec,
      Stmt.break_.sizeOf_spec, Stmt.continue_.sizeOf_spec]
  case functionDef d =>
    cases d with | mk _ _ _ _ body decorators returns _ =>
    have := total_stmts_le body
    have := total_exprs_le decorators
    have := total_optional_le returns
    simp only [FunctionDef.mk.sizeOf_spec]; omega
  case classDef d =>
    cases d with | mk _ _ bases keywords body decorators =>
    have := total_stmts_le body
    have := total_exprs_le decorators
    have := total_exprs_le bases
    have := total_map_le Node.keyword (fun _ => rfl) keywords
    simp only [ClassDef.mk.sizeOf_spec]; omega
  case return_ _ o | hintedAssign _ _ _ o _ | assert _ _ o => have := total_optional_le o; omega
  case delete _ es | assign _ es _ => have := total_exprs_le es; omega
  case for_ _ _ _ _ a b | while_ _ _ a b | if_ _ _ a b =>
    have := total_stmts_le a
    have := total_stmts_le b
    omega
  case with_ _ _ items body =>
    have := total_map_le Node.withItem (fun _ => rfl) items
    have := total_stmts_le body
    omega
  case match_ _ _ cases => have := total_map_le Node.matchCase (fun _ => rfl) cases; omega
  case raise _ a b =>
    have := total_optional_le a
    have := total_optional_le b
    omega
  case try_ _ _ body handlers orElse finally_ =>
    have := total_stmts_le body
    have := total_map_le Node.handler (fun _ => rfl) handlers
    have := total_stmts_le orElse
    have := total_stmts_le finally_
    omega
  all_goals omega

theorem total_children_lt (n : Node) : total n.children < weight n := by
  cases n with
  | stmt s => exact total_ofStmt_lt s
  | expr e => exact total_ofExpr_lt e
  | pattern p => exact total_ofPattern_lt p
  | parameters p =>
    cases p with
    | mk positionalOnly positional defaults star keywordOnly keywordDefaults doubleStar =>
    have := total_map_le Node.parameter (fun _ => rfl) positionalOnly
    have := total_map_le Node.parameter (fun _ => rfl) positional
    have := total_map_le Node.parameter (fun _ => rfl) keywordOnly
    have := total_toList_le Node.parameter (fun _ => rfl) star
    have := total_toList_le Node.parameter (fun _ => rfl) doubleStar
    have := total_filterMap_le keywordDefaults
    have := total_exprs_le defaults
    simp only [children, total_append, weight, Parameters.mk.sizeOf_spec]; omega
  | parameter p =>
    cases p with | mk name typeHint nameSpan =>
    have := total_optional_le typeHint
    simp only [children, weight, Parameter.mk.sizeOf_spec]; omega
  | keyword k =>
    cases k; simp only [children, total_cons, total_nil, weight, Keyword.mk.sizeOf_spec]; omega
  | comprehension c =>
    cases c with | mk isAsync target iterable conditions =>
    have := total_exprs_le conditions
    simp only [children, total_cons, weight, Comprehension.mk.sizeOf_spec]; omega
  | withItem w =>
    cases w with | mk context target =>
    have := total_optional_le target
    simp only [children, total_cons, weight, WithItem.mk.sizeOf_spec]; omega
  | handler h =>
    cases h with | mk span type name body =>
    have := total_optional_le type
    have := total_stmts_le body
    simp only [children, total_append, weight, Handler.mk.sizeOf_spec]; omega
  | matchCase c =>
    cases c with | mk p guard body =>
    have := total_optional_le guard
    have := total_stmts_le body
    simp only [children, total_append, total_cons, weight, MatchCase.mk.sizeOf_spec]; omega

theorem total_flatMap_children_le (nodes : List Node) :
    total (nodes.flatMap children) + nodes.length ≤ total nodes := by
  induction nodes with
  | nil => simp [total]
  | cons n rest ih =>
    have := total_children_lt n
    simp only [List.flatMap_cons, total_append, total_cons, List.length_cons]; omega

/-- The nodes of a list and everything below them, one level after the other. -/
def walkLevels (nodes : List Node) : List Node :=
  match nodes with
  | [] => []
  | n :: rest => n :: rest ++ walkLevels ((n :: rest).flatMap children)
termination_by total nodes
decreasing_by
  have := total_flatMap_children_le (n :: rest)
  simp only [List.length_cons] at this
  omega

/-- A node and everything below it, nearer levels first and each level in reading order. -/
def walk (n : Node) : List Node := walkLevels [n]

variable {κ : Type}

/-- The children of a node, each with what it inherits. -/
def inherit (enter : κ → Node → Node → κ) (entry : κ × Node) : List (κ × Node) :=
  entry.2.children.map fun child => (enter entry.1 entry.2 child, child)

theorem map_snd_flatMap_inherit (enter : κ → Node → Node → κ) (entries : List (κ × Node)) :
    (entries.flatMap (inherit enter)).map Prod.snd = (entries.map Prod.snd).flatMap children := by
  induction entries with
  | nil => rfl
  | cons e rest ih => simp [inherit, ih, List.map_map, Function.comp_def]

/-- Like `walkLevels`, where each node inherits something from the node above it. -/
def walkLevelsWith (enter : κ → Node → Node → κ) (entries : List (κ × Node)) : List (κ × Node) :=
  match entries with
  | [] => []
  | e :: rest => e :: rest ++ walkLevelsWith enter ((e :: rest).flatMap (inherit enter))
termination_by total (entries.map Prod.snd)
decreasing_by
  rw [map_snd_flatMap_inherit]
  have := total_flatMap_children_le ((e :: rest).map Prod.snd)
  simp only [List.map_cons, List.length_cons] at this ⊢
  omega

end Node

end DesignLens.Source
