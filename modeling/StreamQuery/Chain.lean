import StreamQuery.Clause.OrderBy

/-!
# Query chains

A query is a chain of extension calls on a stream or table, the innermost call first. Reading it
gives its stages in the order in which they apply.
-/

namespace StreamQuery

inductive Stage where
  | filter (predicate : Expr)
  | select (selector : Expr)
  | groupBy (key : Expr)
  | having (predicate : Expr)
  /-- An ordering call; its receiver holds the earlier terms. -/
  | orderBy (call key : Expr) (method : OrderingMethod)
  | window (argument : Expr)
  | take (count : Nat)
  | join (call : Expr)

/-- The kinds of stages. -/
inductive StageKind where
  | filter
  | select
  | groupBy
  | having
  | orderBy
  | window
  | take
  | join
deriving DecidableEq

namespace StageKind

def name : StageKind → String
  | .filter => "Where"
  | .select => "Select"
  | .groupBy => "GroupBy"
  | .having => "Having"
  | .orderBy => "OrderBy"
  | .window => "Window"
  | .take => "Take"
  | .join => "Join"

def all : List StageKind :=
  [.filter, .select, .groupBy, .having, .orderBy, .window, .take, .join]

end StageKind

def Stage.kind : Stage → StageKind
  | .filter _ => .filter
  | .select _ => .select
  | .groupBy _ => .groupBy
  | .having _ => .having
  | .orderBy .. => .orderBy
  | .window _ => .window
  | .take _ => .take
  | .join _ => .join

structure Chain where
  source : Option String := none
  stages : List Stage := []

namespace Chain

/-- Methods that leave a query as it is. -/
def passThroughMethods : List String :=
  ["AsQueryable", "AsEnumerable", "AsStream", "AsTable"]

/-- The argument after the receiver. -/
def argument (name : String) : List Expr → Except Failure Expr
  | _ :: argument :: _ => .ok argument
  | _ => .error (.violation (.missingArgument name))

def takeCount (name : String) : Expr → Except Failure Nat
  | .constant (.int (.ofNat count)) => .ok count
  | _ => .error (.violation (.limitNotCount name))

/-- The stage of a call, or none for a method that leaves the query as it is. -/
def stageOf (name : String) (args : List Expr) (type : DataType) :
    Except Failure (Option Stage) :=
  if name = "Where" then do return some (.filter (← argument name args))
  else if name = "Select" then do return some (.select (← argument name args))
  else if name = "GroupBy" then do return some (.groupBy (← argument name args))
  else if name = "Having" then do return some (.having (← argument name args))
  else if name = "Window" then do return some (.window (← argument name args))
  else if name = "Join" then
    if args.length = 5 then .ok (some (.join (.staticCall name args type)))
    else .error (.violation .joinArguments)
  else if name = "Take" ∨ name = "Limit" then do
    return some (.take (← takeCount name (← argument name args)))
  else
    match OrderingMethod.find? name with
    | some method => do
      return some (.orderBy (.staticCall name args type) (← argument name args) method)
    | none =>
      if name ∈ passThroughMethods then .ok none
      else .error (.unsupported (.chainMethod name))

def push (chain : Chain) (stage : Option Stage) : Chain :=
  { chain with stages := chain.stages ++ stage.toList }

def classify : Expr → Except Failure Chain
  | .lambda _ body => classify body
  | .source name => .ok { source := some name }
  | .parameter .. => .ok {}
  | .staticCall name (receiver :: args) type => do
    let chain ← classify receiver
    let stage ← stageOf name (receiver :: args) type
    return chain.push stage
  | other => .error (.unsupported (.chainNode other.kind))

def count (chain : Chain) (kind : StageKind) : Nat :=
  chain.stages.countP (·.kind = kind)

end Chain

end StreamQuery
