import StreamQuery.Lowering

/-!
# The grouping key

A key is flattened into its leaves, one column each. Later clauses refer to these columns through
the `Key` of a group.
-/

namespace StreamQuery

namespace Expr

mutual

/-- The names of all called methods, a call before the calls inside it. -/
def methodNames : Expr → List String
  | .parameter .. => []
  | .member target _ _ => target.methodNames
  | .bareMember .. => []
  | .call target name args _ => name :: (target.methodNames ++ argMethodNames args)
  | .staticCall name args _ => name :: argMethodNames args
  | .binary _ left right => left.methodNames ++ right.methodNames
  | .unary _ operand _ => operand.methodNames
  | .constant _ => []
  | .conditional test ifTrue ifFalse =>
    test.methodNames ++ (ifTrue.methodNames ++ ifFalse.methodNames)
  | .object members => memberMethodNames members
  | .lambda _ body => body.methodNames
  | .source _ => []

def argMethodNames : List Expr → List String
  | [] => []
  | e :: rest => e.methodNames ++ argMethodNames rest

def memberMethodNames : List (Option String × Expr) → List String
  | [] => []
  | (_, e) :: rest => e.methodNames ++ memberMethodNames rest

end

end Expr

namespace GroupByClause

def maxKeys : Nat := 10

/-- Methods that may transform a key. -/
def allowedMethods : List String :=
  ["Year", "Month", "Day", "Hour", "Minute", "Second", "DayOfWeek", "DayOfYear", "WeekOfYear",
   "Substring", "Left", "Right", "ToUpper", "ToLower", "Upper", "Lower", "Floor", "Ceiling",
   "Round", "ToString"]

/-- Methods that pick elements of a sequence, which a key cannot do. -/
def sequenceMethods : List String :=
  ["First", "FirstOrDefault", "Last", "LastOrDefault", "Single", "SingleOrDefault", "ElementAt",
   "ElementAtOrDefault", "Skip", "Take"]

def checkMethod (name : String) : Except Failure Unit :=
  if name ∈ sequenceMethods then .error (.unsupported (.groupKeyMethod name))
  else if name ∈ allowedMethods then .ok ()
  else .error (.violation (.functionInGroupKey name))

/-- The name of a member: the given one or that of the accessed member. -/
def memberName? (name : Option String) (value : Expr) : Option String :=
  match name with
  | some name => some name
  | none => value.memberName?

mutual

/-- The leaves of a key under lambdas, conversions and anonymous objects, with the name of the
member that holds them. -/
def leaves (name : Option String) : Expr → List (Option String × Expr)
  | .lambda _ body => leaves name body
  | .unary .convert operand _ => leaves name operand
  | .unary .convertChecked operand _ => leaves name operand
  | .object members => memberLeaves members
  | other => [(name, other)]

def memberLeaves : List (Option String × Expr) → List (Option String × Expr)
  | [] => []
  | (name, value) :: rest => leaves (memberName? name value) value ++ memberLeaves rest

end

structure Key where
  name : Option String
  column : String

def keyColumn (rules : LoweringRules) (leaf : Expr) : Except Failure String :=
  match leaf with
  | .parameter .. => .error (.unsupported (.groupKey .parameter))
  | .source _ => .error (.unsupported (.groupKey .source))
  | other => do return (← other.lowerValue rules).text

def keys (selector : Expr) (context : Context) : Except Failure (List Key) := do
  if selector.hasAggregate then .error (.violation .aggregateInGroupKey)
  selector.methodNames.forM checkMethod
  let rules := LoweringRules.groupBy.withContext context
  let keys ← (leaves none selector).mapM fun (name, leaf) => do
    return { name, column := ← keyColumn rules leaf : Key }
  if maxKeys < keys.length then .error (.violation (.tooManyGroupKeys keys.length))
  return keys

/-- The columns by which later clauses can refer to the key. -/
def groupKeys (selector : Expr) (context : Context) : Except Failure GroupKeys := do
  let keys ← keys selector context
  if selector.stripLambda.stripConversions.isObject then
    let members := keys.filterMap fun key => key.name.map (·, key.column)
    return { members := Dictionary.ofList members }
  else
    return { single := keys.head?.map (·.column) }

def build (selector : Expr) (context : Context) : Except Failure String := do
  return String.intercalate ", " ((← keys selector context).map (·.column))

end GroupByClause

end StreamQuery
