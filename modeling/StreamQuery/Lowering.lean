import StreamQuery.Context
import StreamQuery.Sql.Basic
import StreamQuery.Sql.Literal

/-!
# From query expressions to SQL expressions

All clauses turn expressions into SQL in the same way. They differ in how they name members, how
they spell inequality, and whether a boolean member in the place of a condition is compared with
`true`.
-/

namespace StreamQuery

/-- How a member path that starts at a lambda parameter is named. -/
inductive MemberNaming where
  /-- By its last member. -/
  | leaf
  /-- By all its members, divided by points. -/
  | path
deriving DecidableEq

structure LoweringRules where
  clause : String
  naming : MemberNaming
  inequality : Inequality
  booleanIdioms : Bool := false
  aliases : Dictionary String := []
  groupKeys : Option GroupKeys := none

namespace LoweringRules

def select : LoweringRules :=
  { clause := "SELECT", naming := .path, inequality := .angles }

def filter : LoweringRules :=
  { clause := "WHERE", naming := .leaf, inequality := .bang, booleanIdioms := true }

def having : LoweringRules :=
  { clause := "HAVING", naming := .leaf, inequality := .bang, booleanIdioms := true }

def groupBy : LoweringRules :=
  { clause := "GROUP BY", naming := .leaf, inequality := .angles }

def orderBy : LoweringRules :=
  { clause := "ORDER BY", naming := .leaf, inequality := .angles }

def join : LoweringRules :=
  { clause := "JOIN", naming := .leaf, inequality := .bang }

/-- Takes over the aliases and the grouping keys that the context records. -/
def withContext (rules : LoweringRules) (context : Context) : LoweringRules :=
  { rules with
    aliases := context.parameterAliases?.getD rules.aliases
    groupKeys := context.groupKeys? <|> rules.groupKeys }

def withAlias (rules : LoweringRules) (parameter qualifier : String) : LoweringRules :=
  { rules with aliases := Dictionary.insert parameter qualifier rules.aliases }

end LoweringRules

/-- Methods that start a query of their own when an argument is a lambda. -/
def isQueryOperator (name : String) : Bool :=
  name ∈ ["Select", "SelectMany", "Where", "GroupBy", "Join", "OrderBy", "OrderByDescending"]

/-- Members of a date or time that have a function of the same name. -/
def isDatePart (name : String) : Bool :=
  name ∈ ["Year", "Month", "Day", "Hour", "Minute", "Second", "DayOfWeek", "DayOfYear"]

namespace Expr

/-- Whether an aggregating method is called anywhere. -/
def hasAggregate (e : Expr) : Bool :=
  e.any fun node => node.methodName?.any SqlFunction.isAggregate

/-- A member with a boolean value, also as the value of a nullable one. -/
def isBoolMember : Expr → Bool
  | .member target name type =>
    if name = "HasValue" then false
    else if name = "Value" && target.dataType.isNullable then target.dataType.isBool
    else type.isBool
  | _ => false

end Expr

/-- The operator for a comparison or an arithmetic operation. -/
def LoweringRules.operator? (rules : LoweringRules) : BinaryOp → Option SqlOp
  | .add => some .add
  | .subtract => some .subtract
  | .multiply => some .multiply
  | .divide => some .divide
  | .modulo => some .modulo
  | .equal => some .equal
  | .notEqual => some (.notEqual rules.inequality)
  | .greaterThan => some .greater
  | .greaterThanOrEqual => some .greaterEqual
  | .lessThan => some .less
  | .lessThanOrEqual => some .lessEqual
  | _ => none

namespace LoweringRules

def qualify (rules : LoweringRules) (parameter column : String) : String :=
  match Dictionary.get? parameter rules.aliases with
  | some qualifier => qualifier ++ "." ++ column
  | none => column

/-- Follows a member path down to its parameter. `path` holds the members seen so far, the outermost
last, and `leaf` is the outermost. -/
def columnOfPath (rules : LoweringRules) (leaf : String) (path : List String) :
    Expr → Except Failure Sql
  | .parameter parameter _ =>
    let column :=
      match rules.naming with
      | .leaf => leaf
      | .path => String.intercalate "." path
    .ok (.column (rules.qualify parameter column))
  | .member target name _ => columnOfPath rules leaf (name :: path) target
  | .unary .convert operand _ => columnOfPath rules leaf path operand
  | .unary .convertChecked operand _ => columnOfPath rules leaf path operand
  | .unary .typeAs operand _ => columnOfPath rules leaf path operand
  | other => .error (.unsupported (.member rules.clause leaf other.kind))

/-- The column of `Key`, or of a member of `Key`, on a grouping parameter. -/
def groupKeyColumn? (rules : LoweringRules) (target : Expr) (name : String) : Option String :=
  match rules.groupKeys with
  | none => none
  | some keys =>
    match target with
    | .parameter .. => if name = "Key" then some (keys.single.getD "Key") else none
    | .member (.parameter ..) key _ =>
      if key = "Key" then Dictionary.get? name keys.members else none
    | _ => none

/-- A member access, given the lowered target. -/
def lowerMember (rules : LoweringRules) (target : Expr) (name : String)
    (lowered : Except Failure Sql) : Except Failure Sql :=
  if name = "HasValue" then do return .isNull (← lowered) true
  else if name = "Value" && target.dataType.isNullable then lowered
  else if isDatePart name && target.dataType.isTemporal then do
    return .call name [← lowered] false
  else if name = "Length" && target.dataType = .string then do
    return .call "Length" [← lowered] false
  else
    match rules.groupKeyColumn? target name with
    | some column => .ok (.column column)
    | none => rules.columnOfPath name [name] target

/-- Whether the first argument of a static aggregating call is the group itself. -/
def skipsReceiver : List Expr → Bool
  | [] => false
  | .lambda .. :: _ => false
  | .parameter .. :: _ => true
  | _ :: rest => rest.any Expr.isLambda

/-- A call, given the lowered target, if there is one, and the lowered arguments. An aggregating
call leaves out the group that it is made on. -/
def lowerCall (rules : LoweringRules) (target : Option (Except Failure Sql)) (name : String)
    (args : List Expr) (lowered : List (Except Failure Sql)) : Except Failure Sql :=
  if isQueryOperator name && args.any Expr.isLambda then
    .error (.violation (.subquery rules.clause))
  else do
    let operands :=
      match target with
      | some receiver => if SqlFunction.isAggregate name then lowered else receiver :: lowered
      | none => if SqlFunction.isAggregate name && skipsReceiver args then lowered.tail else lowered
    return .call name (← operands.mapM id) target.isSome

/-- The members of two composite keys, position by position. -/
def lowerKeyPairs (left right : List (Except Failure Sql)) : Except Failure (List (Sql × Sql)) :=
  (left.zip right).mapM fun (l, r) => do return (← l, ← r)

/-- Equality of two composite keys, given their lowered members. -/
def lowerKeys (rules : LoweringRules) (op : BinaryOp) (left right : List (Except Failure Sql)) :
    Except Failure Sql :=
  if left.length ≠ right.length then .error (.violation (.keyCountMismatch rules.clause))
  else do
    let equality := Sql.keyEquality (← lowerKeyPairs left right)
    return if op = .notEqual then .not equality else equality

/-- A comparison or an arithmetic operation, given the lowered operands. -/
def lowerOperator (rules : LoweringRules) (op : BinaryOp) (left right : Except Failure Sql) :
    Except Failure Sql :=
  match rules.operator? op with
  | some symbol => do return .binary symbol (← left) (← right)
  | none => .error (.unsupported (.operator rules.clause op))

/-- Compares a boolean value with a truth value. -/
def comparedWith (value : Bool) (lowered : Except Failure Sql) : Except Failure Sql := do
  return .binary .equal (← lowered) (.literal (if value then "true" else "false"))

end LoweringRules

/-- Whether an expression stands for a value or for a condition. -/
inductive Position where
  | value
  | condition
deriving DecidableEq

namespace Expr

open LoweringRules in
mutual

/-- The SQL expression of a query expression in the given position. -/
def lower (rules : LoweringRules) (position : Position) : Expr → Except Failure Sql
  | .parameter name _ => .ok (.star (Dictionary.get? name rules.aliases))
  | .member target name type =>
    let lowered := rules.lowerMember target name (target.lower rules .value)
    if position = .condition && rules.booleanIdioms && (Expr.member target name type).isBoolMember
    then comparedWith true lowered
    else lowered
  | .bareMember name _ => .ok (.column name)
  | .call target name args _ =>
    rules.lowerCall (some (target.lower rules .value)) name args (lowerArgs rules args)
  | .staticCall name args _ => rules.lowerCall none name args (lowerArgs rules args)
  | .binary op left right =>
    if op.isEquality && right.isNullConstant then do
      return .isNull (← left.lower rules .value) (op = .notEqual)
    else if op.isEquality && left.isNullConstant then do
      return .isNull (← right.lower rules .value) (op = .notEqual)
    else if op.isEquality && left.isObject && right.isObject then
      rules.lowerKeys op (lowerParts rules left) (lowerParts rules right)
    else
      match op with
      | .andAlso => do
        return .binary .and (← left.lower rules .condition) (← right.lower rules .condition)
      | .orElse => do
        return .binary .or (← left.lower rules .condition) (← right.lower rules .condition)
      | .coalesce => do
        return .call "Coalesce" [← left.lower rules .value, ← right.lower rules .value] false
      | other => rules.lowerOperator other (left.lower rules .value) (right.lower rules .value)
  | .unary op operand _ =>
    match op with
    | .not =>
      if position = .condition && rules.booleanIdioms && operand.isBoolMember then
        comparedWith false (operand.lower rules .value)
      else do return .not (← operand.lower rules .condition)
    | .negate => do return .negate (← operand.lower rules .value)
    | .convert => operand.lower rules .value
    | .convertChecked => operand.lower rules .value
    | .typeAs => operand.lower rules .value
    | .arrayLength => do return .call "ArrayLength" [← operand.lower rules .value] false
  | .constant value => do return .literal (← value.literal rules.clause)
  | .conditional test ifTrue ifFalse => do
    return .case (← test.lower rules .condition) (← ifTrue.lower rules .value)
      (← ifFalse.lower rules .value)
  | .object _ => .error (.unsupported (.node rules.clause .object))
  | .lambda _ body => body.lower rules position
  | .source _ => .error (.unsupported (.node rules.clause .source))

def lowerArgs (rules : LoweringRules) : List Expr → List (Except Failure Sql)
  | [] => []
  | e :: rest => e.lower rules .value :: lowerArgs rules rest

/-- The members of an anonymous object. -/
def lowerParts (rules : LoweringRules) : Expr → List (Except Failure Sql)
  | .object members => lowerMembers rules members
  | _ => []

def lowerMembers (rules : LoweringRules) :
    List (Option String × Expr) → List (Except Failure Sql)
  | [] => []
  | (_, e) :: rest => e.lower rules .value :: lowerMembers rules rest

end

/-- The SQL expression of a condition. -/
def lowerCondition (rules : LoweringRules) (e : Expr) : Except Failure Sql :=
  e.lower rules .condition

/-- The SQL expression of a value. -/
def lowerValue (rules : LoweringRules) (e : Expr) : Except Failure Sql :=
  e.lower rules .value

end Expr

end StreamQuery
