import StreamQuery.Clause.Select

/-!
# Joins

A join of the query so far, the outer side, with a stream or table, the inner side, on equal keys.
-/

namespace StreamQuery

structure Join where
  outerType : String
  innerType : String
  outerKeys : List String
  innerKeys : List String
  /-- The select list of the joined rows. -/
  projection : String
  outerAlias : String
  innerAlias : String

namespace Join

def condition (join : Join) : String :=
  String.intercalate " AND " <| (join.outerKeys.zip join.innerKeys).map fun (outer, inner) =>
    join.outerAlias ++ "." ++ outer ++ " = " ++ join.innerAlias ++ "." ++ inner

def text (join : Join) : String :=
  join.innerType ++ " " ++ join.innerAlias ++ " ON " ++ join.condition

end Join

namespace JoinClause

def outerAlias : String := "o"

def innerAlias : String := "i"

/-- The stream or table at the start of a chain of static calls. -/
def sourceName? : Expr → Option String
  | .source name => some name
  | .staticCall _ (receiver :: _) _ => sourceName? receiver
  | _ => none

def keyColumns (rules : LoweringRules) : Expr → Except Failure (List String)
  | .lambda _ body => keyColumns rules body
  | .unary .convert operand _ => keyColumns rules operand
  | .unary .convertChecked operand _ => keyColumns rules operand
  | .object members => members.mapM fun (_, value) => do return (← value.lowerValue rules).text
  | other => do return [(← other.lowerValue rules).text]

/-- The aliases of the two parameters of a result selector. -/
def resultAliases (params : List String) : Dictionary String :=
  Dictionary.ofList (params.zip [outerAlias, innerAlias])

def innerName : Expr → Except Failure String
  | .source name => .ok name
  | other => .error (.unsupported (.joinInner other.kind))

def analyzeArgs (outer inner outerKey innerKey result : Expr) (context : Context) :
    Except Failure Join := do
  let innerType ← innerName inner
  let outerKeys ← keyColumns .join outerKey
  let innerKeys ← keyColumns .join innerKey
  if outerKeys.length ≠ innerKeys.length then .error (.violation (.keyCountMismatch "JOIN"))
  let aliases := resultAliases result.lambdaParams
  let projection ← SelectClause.build result (context.withParameterAliases aliases)
  return { outerType := (sourceName? outer).getD context.base, innerType, outerKeys, innerKeys,
           projection, outerAlias, innerAlias }

def analyze (call : Expr) (context : Context) : Except Failure Join :=
  match call with
  | .staticCall name [outer, inner, outerKey, innerKey, result] _ =>
    if name = "Join" then analyzeArgs outer inner outerKey innerKey result context
    else .error (.unsupported (.joinCall .methodCall))
  | other => .error (.unsupported (.joinCall other.kind))

def build (call : Expr) (context : Context) : Except Failure String := do
  return (← analyze call context).text

end JoinClause

end StreamQuery
