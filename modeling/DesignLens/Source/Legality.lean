import DesignLens.Source.Grammar

/-!
# Programs that follow the grammar and still are illegal

Some rules of the language are beyond its grammar: what may be used outside a function or a loop,
where a module may speak about the future, which names may occur twice. `Module.isLegal` checks
them.
-/

namespace DesignLens.Source

/-- Whether nothing occurs twice in a list of names. -/
def allDifferent (names : List String) : Bool := names.eraseDups.length == names.length

/-! ### Statements in their place -/

/-- What a statement may do where it stands. -/
structure Situation where
  mayReturn : Bool
  mayBreak : Bool
  isAsync : Bool
  atTop : Bool
  deriving DecidableEq

def Situation.top : Situation := ⟨false, false, false, true⟩

def Situation.inLoop (s : Situation) : Situation := { s with mayBreak := true }

/-- A handler of exception groups cannot be left by a jump. -/
def Situation.inGroupHandler (s : Situation) : Situation :=
  { s with mayReturn := false, mayBreak := false }

mutual

def flowsStmt (s : Situation) : Stmt → Bool
  | .functionDef d => flowsFunction d
  | .classDef d => flowsClass d
  | .return_ .. => s.mayReturn
  | .break_ _ | .continue_ _ => s.mayBreak
  | .for_ _ isAsync _ _ body orElse =>
    (!isAsync || s.isAsync) && flowsStmts s.inLoop body && flowsStmts s orElse
  | .while_ _ _ body orElse => flowsStmts s.inLoop body && flowsStmts s orElse
  | .if_ _ _ body orElse => flowsStmts s body && flowsStmts s orElse
  | .with_ _ isAsync _ body => (!isAsync || s.isAsync) && flowsStmts s body
  | .match_ _ _ cases => flowsCases s cases
  | .try_ _ isStar body handlers orElse finally_ =>
    flowsStmts s body && flowsHandlers (if isStar then s.inGroupHandler else s) handlers &&
      flowsStmts s orElse && flowsStmts s finally_
  | .importFrom _ _ names _ => s.atTop || names.all fun n => n.name != "*"
  | _ => true

def flowsFunction : FunctionDef → Bool
  | ⟨_, isAsync, _, _, body, _, _, _⟩ => flowsStmts ⟨true, false, isAsync, false⟩ body

def flowsClass : ClassDef → Bool
  | ⟨_, _, _, _, body, _⟩ => flowsStmts ⟨false, false, false, false⟩ body

def flowsStmts (s : Situation) : List Stmt → Bool
  | [] => true
  | stmt :: rest => flowsStmt s stmt && flowsStmts s rest

/-- A handler without a type has to be the last one. -/
def flowsHandlers (s : Situation) : List Handler → Bool
  | [] => true
  | ⟨_, type, _, body⟩ :: rest =>
    (type.isSome || rest.isEmpty) && flowsStmts s body && flowsHandlers s rest

def flowsCases (s : Situation) : List MatchCase → Bool
  | [] => true
  | ⟨_, _, body⟩ :: rest => flowsStmts s body && flowsCases s rest

end

/-! ### Expressions in their place -/

/-- What an expression may do where it stands. -/
structure Reach where
  mayYield : Bool
  mayDelegate : Bool
  mayAwait : Bool
  deriving DecidableEq

def Reach.none : Reach := ⟨false, false, false⟩

def Reach.inFunction (isAsync : Bool) : Reach := ⟨true, !isAsync, isAsync⟩

/-- What a child of a node may do. Parameters, decorators and bases belong to the surroundings. -/
def Reach.enter (r : Reach) (parent child : Node) : Reach :=
  match parent, child with
  | .stmt (.functionDef d), .stmt _ => .inFunction d.isAsync
  | .stmt (.classDef _), .stmt _ => .none
  | .expr (.lambda ..), .expr _ => .inFunction false
  | .expr (.listComp ..), _ | .expr (.setComp ..), _ | .expr (.dictComp ..), _
  | .expr (.generator ..), _ => { r with mayYield := false, mayDelegate := false }
  | _, _ => r

def hasAsyncClause (clauses : List Comprehension) : Bool := clauses.any (·.isAsync)

def reaches (r : Reach) : Node → Bool
  | .expr (.yield ..) => r.mayYield
  | .expr (.yieldFrom ..) => r.mayYield && r.mayDelegate
  | .expr (.await ..) => r.mayAwait
  | .expr (.listComp _ _ clauses) | .expr (.setComp _ _ clauses)
  | .expr (.dictComp _ _ _ clauses) => r.mayAwait || !hasAsyncClause clauses
  | _ => true

/-! ### Stars -/

def isStarred : Node → Bool
  | .expr (.starred ..) => true
  | _ => false

/-- Where an expression with a star may stand. -/
def holdsStars : Node → Bool
  | .expr (.list ..) | .expr (.tuple ..) | .expr (.set ..) | .expr (.call ..)
  | .stmt (.classDef _) | .parameter _ => true
  | _ => false

/-- A sequence of targets has at most one star. -/
def starsTarget : Expr → Bool
  | .list _ elements | .tuple _ elements =>
    (elements.countP fun e => isStarred (.expr e)) ≤ 1
  | _ => true

def targetsOfNode : Node → List Expr
  | .stmt (.assign _ targets _) => targets
  | .stmt (.for_ _ _ target _ _ _) => [target]
  | .comprehension c => [c.target]
  | .withItem w => w.target.toList
  | _ => []

/-- Everything inside a target. -/
def partsOfTarget (target : Expr) : List Expr :=
  (Node.expr target).walk.filterMap fun n =>
    match n with
    | .expr e => some e
    | _ => none

def starsNode (n : Node) : Bool :=
  (holdsStars n || n.children.all fun child => !isStarred child) &&
    ((targetsOfNode n).flatMap partsOfTarget).all starsTarget

/-! ### Names that occur twice -/

def parameterNames (p : Parameters) : List String :=
  (p.positionalOnly ++ p.positional ++ p.star.toList ++ p.keywordOnly ++ p.doubleStar.toList).map
    (·.name)

def namesDiffer : Node → Bool
  | .parameters p => allDifferent (parameterNames p)
  | .expr (.call _ _ _ keywords) => allDifferent (keywords.filterMap (·.name))
  | .stmt (.classDef d) => allDifferent (d.keywords.filterMap (·.name))
  | _ => true

/-! ### Patterns -/

/-- The names that a pattern binds, one by one. -/
def boundBy (p : Pattern) : List String :=
  (Node.pattern p).walk.flatMap fun n =>
    match n with
    | .pattern (.star _ name) | .pattern (.as_ _ _ name) | .pattern (.mapping _ _ _ name) =>
      name.toList
    | _ => []

def Pattern.isStar : Pattern → Bool
  | .star .. => true
  | _ => false

/-- A pattern that fits everything. -/
def Pattern.isIrrefutable : Pattern → Bool
  | .as_ _ none _ => true
  | _ => false

/-- All but the last item satisfy a condition. -/
def allButLast {α : Type} (p : α → Bool) (items : List α) : Bool := items.dropLast.all p

def sameNames (a b : List String) : Bool := a.all b.contains && b.all a.contains

def patternIsLegal : Pattern → Bool
  | .sequence _ patterns => (patterns.countP Pattern.isStar) ≤ 1
  | .or_ _ patterns =>
    allButLast (fun p => !p.isIrrefutable) patterns &&
      patterns.all fun p => sameNames (boundBy p) (boundBy (patterns.headD p))
  | .class_ _ _ _ keywords => allDifferent (keywords.map (·.name))
  | _ => true

/-- The names that the alternatives of a pattern bind count once. -/
def bindsOnce (p : Pattern) : Bool :=
  let hasAlternatives := (Node.pattern p).walk.any fun n =>
    match n with
    | .pattern (.or_ ..) => true
    | _ => false
  hasAlternatives || allDifferent (boundBy p)

def casesAreLegal : Node → Bool
  | .stmt (.match_ _ _ cases) =>
    allButLast (fun c => c.guard.isSome || !c.pattern.isIrrefutable) cases &&
      cases.all fun c => bindsOnce c.pattern
  | .pattern p => patternIsLegal p
  | _ => true

/-! ### Names of other scopes -/

/-- The parts of a node that belong to its own scope, in the order in which they are looked at. Of
a definition these are the parts that are evaluated around it, of a comprehension its first
iterable. -/
def Node.outer : Node → List Node
  | .stmt (.functionDef d) =>
    .parameters d.parameters :: Node.optional d.returns ++ Node.exprs d.decorators
  | .stmt (.classDef d) =>
    Node.exprs d.bases ++ d.keywords.map .keyword ++ Node.exprs d.decorators
  | .stmt (.try_ _ _ body handlers orElse finally_) =>
    Node.stmts body ++ Node.stmts orElse ++ handlers.map .handler ++ Node.stmts finally_
  | .expr (.lambda _ params _) => [.parameters params]
  | .expr (.listComp _ _ clauses) | .expr (.setComp _ _ clauses)
  | .expr (.dictComp _ _ _ clauses) | .expr (.generator _ _ clauses) =>
    Node.exprs (clauses.take 1 |>.map (·.iterable))
  | n => n.children

theorem Node.total_iterables_le (clauses : List Comprehension) :
    Node.total (Node.exprs ((clauses.take 1).map (·.iterable))) ≤ sizeOf clauses := by
  cases clauses with
  | nil => simp [exprs, total]
  | cons c rest =>
    cases c
    simp only [List.take_succ_cons, List.take_zero, List.map_cons, List.map_nil, exprs,
      total_cons, total_nil, weight, List.cons.sizeOf_spec, Comprehension.mk.sizeOf_spec]
    omega

theorem Node.total_outer_lt (n : Node) : Node.total n.outer < n.weight := by
  have hchildren := total_children_lt n
  fun_cases Node.outer n
  case case1 d =>
    simp only [children, ofStmt, total_append, total_cons] at hchildren ⊢
    omega
  case case2 d =>
    simp only [children, ofStmt, total_append] at hchildren ⊢
    omega
  case case3 =>
    simp only [children, ofStmt, total_append] at hchildren ⊢
    omega
  case case4 =>
    simp only [children, ofExpr, total_cons] at hchildren ⊢
    omega
  case case5 _ _ clauses =>
    have := total_iterables_le clauses
    simp only [weight, Expr.listComp.sizeOf_spec]
    omega
  case case6 _ _ clauses =>
    have := total_iterables_le clauses
    simp only [weight, Expr.setComp.sizeOf_spec]
    omega
  case case7 _ _ _ clauses =>
    have := total_iterables_le clauses
    simp only [weight, Expr.dictComp.sizeOf_spec]
    omega
  case case8 _ _ clauses =>
    have := total_iterables_le clauses
    simp only [weight, Expr.generator.sizeOf_spec]
    omega
  case case9 => exact hchildren

/-- Nodes and everything below them that belongs to the same scope, in the order in which it is
looked at. -/
def Node.scope (nodes : List Node) : List Node :=
  match nodes with
  | [] => []
  | n :: rest => n :: Node.scope (n.outer ++ rest)
termination_by Node.total nodes
decreasing_by
  have := Node.total_outer_lt n
  simp only [Node.total_append, Node.total_cons]
  omega

/-- The names that a node uses or binds in its scope. An import may come before a declaration. -/
def namesUsed : Node → List String
  | .expr (.name _ id) => [id]
  | .stmt (.functionDef d) => [d.name]
  | .stmt (.classDef d) => [d.name]
  | .handler h => h.name.toList
  | .pattern (.star _ name) | .pattern (.as_ _ _ name) | .pattern (.mapping _ _ _ name) =>
    name.toList
  | _ => []

/-- The names that a function uses or binds: what is assigned inside a comprehension belongs to the
function around it. -/
def namesUsedInFunction (n : Node) : List String :=
  match n with
  | .expr (.listComp ..) | .expr (.setComp ..) | .expr (.dictComp ..) | .expr (.generator ..) =>
    n.walk.filterMap fun inner =>
      match inner with
      | .expr (.named _ (.name _ id) _) => some id
      | _ => none
  | _ => namesUsed n

/-- The names that a node declares to belong to another scope. -/
def namesDeclared : Node → List String
  | .stmt (.global _ names) | .stmt (.nonlocal _ names) => names
  | _ => []

/-- A declaration comes before all uses of its name in the same scope. -/
def declaredInTime (uses : Node → List String) (used : List String) : List Node → Bool
  | [] => true
  | n :: rest =>
    (namesDeclared n).all (fun name => !used.contains name) &&
      declaredInTime uses (uses n ++ used) rest

/-- The declarations in the scope that a node opens. -/
def scopeIsLegal : Node → Bool
  | .stmt (.functionDef d) =>
    declaredInTime namesUsedInFunction (parameterNames d.parameters)
      (Node.scope (Node.stmts d.body))
  | .stmt (.classDef d) => declaredInTime namesUsed [] (Node.scope (Node.stmts d.body))
  | _ => true

def isNonlocal : Node → Bool
  | .stmt (.nonlocal ..) => true
  | _ => false

/-- The declarations in the scope of the module, which has no scope around it. -/
def moduleIsLegal (m : Module) : Bool :=
  let nodes := Node.scope (Node.stmts m.body)
  nodes.all (fun n => !isNonlocal n) && declaredInTime namesUsed [] nodes

/-! ### The future -/

def futureFeatures : List String :=
  ["nested_scopes", "generators", "division", "absolute_import", "with_statement",
    "print_function", "unicode_literals", "barry_as_FLUFL", "generator_stop", "annotations"]

def futureNames? : Stmt → Option (List String)
  | .importFrom _ (some "__future__") names _ => some (names.map (·.name))
  | _ => none

def isTextStatement : Stmt → Bool
  | .expr _ (.constant _ (.text _)) => true
  | _ => false

/-- The line of the last statement about the future at the start of a module, where only texts and
other such statements come before it; none if one of them is illegal. After the start, the rest of
the line it ends in is still looked at. -/
def futureLine (started : Bool) (last previous : Nat) : List Stmt → Option Nat
  | [] => some last
  | s :: rest =>
    if started && previous < s.span.line then some last
    else
      match futureNames? s with
      | some names =>
        if started || !names.all futureFeatures.contains then none
        else futureLine false s.span.line s.span.line rest
      | none => futureLine (started || !isTextStatement s) last s.span.line rest

def futureIsLegal (m : Module) (nodes : List Node) : Bool :=
  match futureLine false 0 0 m.body with
  | none => false
  | some last => nodes.all fun n =>
      match n with
      | .stmt s => (futureNames? s).isNone || s.span.line ≤ last
      | _ => true

/-! ### All rules -/

def Module.isLegal (m : Module) : Bool :=
  let nodes := Node.walkLevels (Node.stmts m.body)
  let reached := Node.walkLevelsWith Reach.enter
    ((Node.stmts m.body).map fun n => (Reach.none, n))
  flowsStmts .top m.body && reached.all (fun (r, n) => reaches r n) &&
    nodes.all (fun n => starsNode n && namesDiffer n && casesAreLegal n && scopeIsLegal n) &&
    moduleIsLegal m && futureIsLegal m nodes

/-- A text without the mark of the byte order at its start. -/
def unmarked (text : String) : String :=
  match text.toList with
  | c :: rest => if c.toNat = 0xfeff then String.ofList rest else text
  | [] => text

/-- Whether a file with the given text can be compiled. -/
def compiles (text : String) : Bool :=
  match Program.parse (unmarked text) with
  | .ok p => p.module.isLegal
  | .error _ => false

end DesignLens.Source
