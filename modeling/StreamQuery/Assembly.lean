import StreamQuery.Chain
import StreamQuery.Clause.Builders
import StreamQuery.Draft

/-!
# Assembling a query

The stages of a chain become the clauses of a draft. The clauses finished before a failure are kept.
-/

namespace StreamQuery

/-- A report on the way to which clauses were finished. -/
structure Assembly (α : Type) where
  clauses : List Clause
  report : Report α

namespace Assembly

variable {α β : Type}

def ofReport (report : Report α) : Assembly α :=
  ⟨[], report⟩

def emit (clause : Clause) : Assembly Unit :=
  ⟨[clause], pure ()⟩

def bind (first : Assembly α) (next : α → Assembly β) : Assembly β :=
  let clauses :=
    match first.report.result with
    | .ok value => first.clauses ++ (next value).clauses
    | .error _ => first.clauses
  ⟨clauses, first.report >>= fun value => (next value).report⟩

instance : Monad Assembly where
  pure value := ofReport (pure value)
  bind := bind

instance : MonadLift Report Assembly where
  monadLift := ofReport

instance : MonadLift (Except Failure) Assembly where
  monadLift result := ofReport (.ofExcept result)

end Assembly

/-- The stages of a chain by kind. Only filters, orderings and limits may be repeated; of the
orderings and the limits the last counts. -/
structure Stages where
  filters : List Expr := []
  select : Option Expr := none
  groupBy : Option Expr := none
  having : Option Expr := none
  ordering : Option Expr := none
  window : Option Expr := none
  take : Option Nat := none
  join : Option Expr := none

namespace Stages

/-- The content of a slot that was empty. -/
def fill (kind : ClauseKind) (slot : Option Expr) (value : Expr) : Except Failure (Option Expr) :=
  match slot with
  | none => .ok (some value)
  | some _ => .error (.violation (.repeatedStage kind))

def push (stages : Stages) : Stage → Except Failure Stages
  | .filter predicate => .ok { stages with filters := stages.filters ++ [predicate] }
  | .select selector => do return { stages with select := ← fill .select stages.select selector }
  | .groupBy key => do return { stages with groupBy := ← fill .groupBy stages.groupBy key }
  | .having predicate => do
    return { stages with having := ← fill .having stages.having predicate }
  | .orderBy call _ _ => .ok { stages with ordering := some call }
  | .window argument => do
    return { stages with window := ← fill .window stages.window argument }
  | .take count => .ok { stages with take := some count }
  | .join call => do return { stages with join := ← fill .join stages.join call }

def ofChain (chain : Chain) : Except Failure Stages :=
  chain.stages.foldlM push {}

/-- The conjunction of all filters. -/
def predicate? (stages : Stages) : Option Expr :=
  match stages.filters.map (·.stripLambda) with
  | [] => none
  | first :: rest => some (rest.foldl (.binary .andAlso) first)

end Stages

/-- A clause, built from an expression, that is still to be placed. -/
structure Built where
  text : String
  source : Expr

namespace Registry

/-- The grouping clause, and the context in which all other clauses are built. -/
def buildGrouping (registry : Registry) (key : Option Expr) (context : Context) :
    Report (Option Built × Context) :=
  match key with
  | none => pure (none, context)
  | some key => do
    let text ← registry.build .groupBy key context
    let keys ← GroupByClause.groupKeys key context
    return (some ⟨text, key⟩, (context.withGrouped).withGroupKeys keys)

def buildJoin (registry : Registry) (call : Option Expr) (context : Context) :
    Report (Option (Built × Join)) :=
  match call with
  | none => pure none
  | some call => do
    let text ← registry.build .join call context
    let join ← JoinClause.analyze call context
    return some (⟨text, call⟩, join)

/-- The select list: the selector, else the projection of the join, else all columns. -/
def selectClause (registry : Registry) (selector : Option Expr) (join : Option (Built × Join))
    (context : Context) : Report Clause :=
  match selector, join with
  | some selector, _ => do
    return .ofExpr .select (← registry.build .select selector context) true selector
  | none, some (built, join) => pure (.ofExpr .select join.projection true built.source)
  | none, none => pure { part := .select, content := "*", required := true }

def sourceClause (join : Option (Built × Join)) (context : Context) : Clause :=
  let content :=
    match join with
    | some (_, join) => context.base ++ " " ++ join.outerAlias
    | none => context.base
  { part := .source, content, required := true }

/-- Adds the clause of an optional stage. -/
def addClause (registry : Registry) (kind : ClauseKind) (part : Part) (e : Option Expr)
    (context : Context) : Assembly Unit :=
  match e with
  | none => pure ()
  | some e => do
    let text ← registry.build kind e context
    Assembly.emit (.ofExpr part text false e)

def addBuilt (part : Part) (built : Option Built) : Assembly Unit :=
  match built with
  | none => pure ()
  | some built => Assembly.emit (.ofExpr part built.text false built.source)

/-- The text before the wish to emit final results only, if it ends in that. -/
def stripEmitFinal? (text : String) : Option String :=
  let suffix := WindowClause.emitFinalSuffix.toList
  let chars := text.toList
  if suffix.isSuffixOf chars then some (String.ofList (chars.take (chars.length - suffix.length)))
  else none

/-- Adds the window, and tells whether it asks for final results only. -/
def addWindow (registry : Registry) (argument : Option Expr) (context : Context) :
    Assembly Bool :=
  match argument with
  | none => pure false
  | some argument => do
    let text ← registry.build .window argument context
    match stripEmitFinal? text with
    | some stripped => do
      Assembly.emit (.ofExpr .window stripped false argument)
      return true
    | none => do
      Assembly.emit (.ofExpr .window text false argument)
      return false

def addLimit (count : Option Nat) : Assembly Unit :=
  match count with
  | none => pure ()
  | some count => Assembly.emit { part := .limit, content := toString count }

/-- Assembles all clauses but the last, and tells whether final results only are to be emitted. -/
def assemble (registry : Registry) (chain : Chain) (context : Context) : Assembly Bool := do
  let stages ← Stages.ofChain chain
  let (grouping, context) ← registry.buildGrouping stages.groupBy context
  let join ← registry.buildJoin stages.join context
  Assembly.emit (← registry.selectClause stages.select join context)
  Assembly.emit (sourceClause join context)
  addBuilt .join (join.map (·.1))
  registry.addClause .filter .filter stages.predicate? context
  let final ← registry.addWindow stages.window context
  addBuilt .groupBy grouping
  registry.addClause .having .having stages.having context
  registry.addClause .orderBy .orderBy stages.ordering context
  addLimit stages.take
  return final

end Registry

end StreamQuery
