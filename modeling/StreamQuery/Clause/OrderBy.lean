import StreamQuery.Lowering
import StreamQuery.Report

/-!
# The order of rows

Ordering calls are read from the innermost on. A new ordering discards the terms before it.
-/

namespace StreamQuery

inductive SortDirection where
  | ascending
  | descending
deriving DecidableEq

def SortDirection.keyword : SortDirection → String
  | .ascending => "ASC"
  | .descending => "DESC"

/-- What an ordering method does. -/
structure OrderingMethod where
  direction : SortDirection
  /-- Whether it starts a new ordering. -/
  restart : Bool
deriving DecidableEq

def OrderingMethod.find? (name : String) : Option OrderingMethod :=
  if name = "OrderBy" then some ⟨.ascending, true⟩
  else if name = "OrderByDescending" then some ⟨.descending, true⟩
  else if name = "ThenBy" then some ⟨.ascending, false⟩
  else if name = "ThenByDescending" then some ⟨.descending, false⟩
  else none

namespace OrderByClause

def maxTerms : Nat := 5

def allowedMethods : List String :=
  ["WindowStart", "WindowEnd", "RowTime", "ToUpper", "ToLower", "Abs", "Year", "Month", "Day"]

/-- Operators, conditionals and most calls do not belong in a key. -/
def isComplex (key : Expr) : Bool :=
  key.any fun
    | .binary .. => true
    | .conditional .. => true
    | .call _ name _ _ => name ∉ allowedMethods
    | .staticCall name _ _ => name ∉ allowedMethods
    | _ => false

structure Term where
  column : String
  direction : SortDirection

def Term.text (term : Term) : String :=
  term.column ++ " " ++ term.direction.keyword

def term (rules : LoweringRules) (key : Expr) (direction : SortDirection) : Except Failure Term :=
  if isComplex key.stripLambda then .error (.violation .complexOrderKey)
  else do return { column := (← key.lowerValue rules).text, direction }

/-- The terms after an ordering call, given those before it. -/
def extend (rules : LoweringRules) (name : String) (method : OrderingMethod) (key : Expr)
    (earlier : List Term) : Except Failure (List Term) :=
  if method.restart then do return [← term rules key method.direction]
  else if earlier.isEmpty then .error (.violation (.thenByWithoutOrderBy name))
  else do return earlier ++ [← term rules key method.direction]

def terms (rules : LoweringRules) : Expr → Except Failure (List Term)
  | .staticCall name [receiver, key] _ =>
    match OrderingMethod.find? name with
    | some method => do extend rules name method key (← terms rules receiver)
    | none => .ok []
  | .lambda params body => do return [← term rules (.lambda params body) .ascending]
  | _ => .ok []

def build (ordering : Expr) (context : Context) : Report String := do
  let terms ← terms (LoweringRules.orderBy.withContext context) ordering
  if maxTerms < terms.length then throw (.violation (.tooManyOrderKeys terms.length))
  Report.notify .orderNotGuaranteed
  return String.intercalate ", " (terms.map (·.text))

end OrderByClause

end StreamQuery
