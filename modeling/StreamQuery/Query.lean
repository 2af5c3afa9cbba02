import StreamQuery.Assembly
import StreamQuery.Identifier
import StreamQuery.Scope

/-!
# Query statements

Select statements over a stream or table, and streams and tables that are defined by a query. A push
query ends by telling when rows are sent; a pull query does so only for final results.
-/

namespace StreamQuery

namespace Query

/-- The clauses that no select statement can do without. -/
def required : List ClauseKind := [.select, .filter]

/-- The clauses that no definition by a query can do without. -/
def requiredAs : List ClauseKind := [.select, .filter, .groupBy, .window]

def selectDraft (source : String) (columns : Clause) : Draft :=
  { kind := .select
    base := source
    clauses := [columns, { part := .source, content := source, required := true }] }

def allColumns : Clause :=
  { part := .select, content := "*", required := true }

/-- Adds what a query of the given mode says about sending rows. -/
def addEmit (draft : Draft) (mode : ExecutionMode) (final : Bool) : Draft :=
  if mode = .push ∨ final then draft.add (Draft.emitClause final) else draft

def selectAll (source : String) (mode : ExecutionMode) : Report String :=
  Report.mapFailure (.inTask (.selectAll source)) do
    (addEmit (selectDraft source allColumns) mode false).render

def selectWhere (registry : Registry) (source : String) (predicate : Expr)
    (mode : ExecutionMode) : Report String :=
  Report.mapFailure (.inTask (.selectWhere source)) do
    let condition ← registry.build .filter predicate { base := source, mode }
    let draft := (selectDraft source allColumns).add (.ofExpr .filter condition true predicate)
    (addEmit draft mode false).render

def count (source : String) : Report String :=
  Report.mapFailure (.inTask (.count source)) do
    (selectDraft source { part := .select, content := "COUNT(*)", required := true }).render

/-- A select list over the whole source, which counts as one group. -/
def aggregate (registry : Registry) (source : String) (selector : Expr) : Report String :=
  Report.mapFailure (.inTask (.aggregate source)) do
    let context : Context := { base := source, mode := .pull }
    let columns ← registry.build .select selector context.withGrouped
    (selectDraft source (.ofExpr .select columns true selector)).render

/-- The statement of a chain over `base`. -/
def assembleChain (registry : Registry) (kind : StatementKind) (base : String) (chain : Chain)
    (mode : ExecutionMode) : Report String := do
  let assembly := registry.assemble chain { base, mode }
  let final ← assembly.report
  (addEmit { kind, base, clauses := assembly.clauses } mode final).render

def ofChain (registry : Registry) (source : String) (e : Expr) (mode : ExecutionMode) :
    Report String :=
  Report.mapFailure (.inTask (.chain source)) do
    assembleChain registry .select source (← Chain.classify e) mode

/-- The stream or table that a definition reads: the given one, or if that is empty the one at the
start of the chain. -/
def baseOf (base : String) (chain : Chain) : String :=
  if base = "" then chain.source.getD base else base

def createAs (registry : Registry) (kind : StatementKind) (name base : String) (e : Expr) :
    Report String := do
  validateIdentifier "object name" name
  let chain ← Chain.classify e
  assembleChain registry kind (baseOf base chain) chain .push

def createStreamAs (registry : Registry) (scope : Scope) (name base : String) (e : Expr) :
    Report String := do
  scope.ensureActive "CREATE STREAM AS"
  (createAs registry (.createStreamAs name) name base e).mapFailure
    (.inTask (.createStreamAs name base))

def createTableAs (registry : Registry) (scope : Scope) (name base : String) (e : Expr) :
    Report String := do
  scope.ensureActive "CREATE TABLE AS"
  (createAs registry (.createTableAs name) name base e).mapFailure
    (.inTask (.createTableAs name base))

end Query

end StreamQuery
