import StreamQuery.Lowering

/-!
# The conditions of a query

The condition on rows may not aggregate; the condition on groups may.
-/

namespace StreamQuery

namespace FilterClause

def build (predicate : Expr) (context : Context) : Except Failure String := do
  let condition ← predicate.lowerCondition (LoweringRules.filter.withContext context)
  if condition.hasAggregate then .error (.violation .aggregateInFilter) else return condition.text

end FilterClause

namespace HavingClause

def build (predicate : Expr) (context : Context) : Except Failure String := do
  return (← predicate.lowerCondition (LoweringRules.having.withContext context)).text

end HavingClause

end StreamQuery
