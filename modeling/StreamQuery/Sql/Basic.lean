import StreamQuery.Function.Catalog

/-!
# SQL expressions

The tree of an SQL expression and its text. Comparisons and arithmetic are always written in
parentheses, so the text shows the shape of the tree.
-/

namespace StreamQuery

/-- The two spellings of inequality. -/
inductive Inequality where
  | angles
  | bang
deriving DecidableEq

inductive SqlOp where
  | add
  | subtract
  | multiply
  | divide
  | modulo
  | equal
  | notEqual (spelling : Inequality)
  | greater
  | greaterEqual
  | less
  | lessEqual
  | and
  | or
deriving DecidableEq

def SqlOp.symbol : SqlOp → String
  | .add => "+"
  | .subtract => "-"
  | .multiply => "*"
  | .divide => "/"
  | .modulo => "%"
  | .equal => "="
  | .notEqual .angles => "<>"
  | .notEqual .bang => "!="
  | .greater => ">"
  | .greaterEqual => ">="
  | .less => "<"
  | .lessEqual => "<="
  | .and => "AND"
  | .or => "OR"

inductive Sql where
  /-- All columns, of the table with that qualifier if there is one. -/
  | star (qualifier : Option String)
  | column (name : String)
  | literal (text : String)
  | call (method : String) (args : List Sql) (onInstance : Bool)
  | binary (op : SqlOp) (left right : Sql)
  /-- Equality of composite keys, position by position. -/
  | keyEquality (pairs : List (Sql × Sql))
  | not (operand : Sql)
  | negate (operand : Sql)
  | isNull (operand : Sql) (negated : Bool)
  | case (test ifTrue ifFalse : Sql)
deriving Inhabited

namespace Sql

def children : Sql → List Sql
  | .star _ => []
  | .column _ => []
  | .literal _ => []
  | .call _ args _ => args
  | .binary _ left right => [left, right]
  | .keyEquality pairs => pairs.flatMap fun (left, right) => [left, right]
  | .not operand => [operand]
  | .negate operand => [operand]
  | .isNull operand _ => [operand]
  | .case test ifTrue ifFalse => [test, ifTrue, ifFalse]

mutual

def text : Sql → String
  | .star none => "*"
  | .star (some qualifier) => qualifier ++ ".*"
  | .column name => name
  | .literal text => text
  | .call method args onInstance => SqlFunction.renderCall method (argTexts args) onInstance
  | .binary op left right => "(" ++ left.text ++ " " ++ op.symbol ++ " " ++ right.text ++ ")"
  | .keyEquality pairs =>
    match pairTexts pairs with
    | [single] => single
    | texts => "(" ++ String.intercalate " AND " texts ++ ")"
  | .not operand => "NOT (" ++ operand.text ++ ")"
  | .negate operand => "-" ++ operand.text
  | .isNull operand negated =>
    if negated then operand.text ++ " IS NOT NULL" else operand.text ++ " IS NULL"
  | .case test ifTrue ifFalse =>
    "CASE WHEN " ++ test.text ++ " THEN " ++ ifTrue.text ++ " ELSE " ++ ifFalse.text ++ " END"

def argTexts : List Sql → List String
  | [] => []
  | e :: rest => e.text :: argTexts rest

def pairTexts : List (Sql × Sql) → List String
  | [] => []
  | (left, right) :: rest => (left.text ++ " = " ++ right.text) :: pairTexts rest

end

mutual

/-- Whether an aggregating function is called anywhere. -/
def hasAggregate : Sql → Bool
  | .star _ => false
  | .column _ => false
  | .literal _ => false
  | .call method args _ => SqlFunction.isAggregate method || argsHaveAggregate args
  | .binary _ left right => left.hasAggregate || right.hasAggregate
  | .keyEquality pairs => pairsHaveAggregate pairs
  | .not operand => operand.hasAggregate
  | .negate operand => operand.hasAggregate
  | .isNull operand _ => operand.hasAggregate
  | .case test ifTrue ifFalse =>
    test.hasAggregate || (ifTrue.hasAggregate || ifFalse.hasAggregate)

def argsHaveAggregate : List Sql → Bool
  | [] => false
  | e :: rest => e.hasAggregate || argsHaveAggregate rest

def pairsHaveAggregate : List (Sql × Sql) → Bool
  | [] => false
  | (left, right) :: rest =>
    left.hasAggregate || (right.hasAggregate || pairsHaveAggregate rest)

end

mutual

/-- Whether a column stands outside every call of an aggregating function. -/
def hasPlainColumn : Sql → Bool
  | .star _ => false
  | .column _ => true
  | .literal _ => false
  | .call method args _ => !SqlFunction.isAggregate method && argsHavePlainColumn args
  | .binary _ left right => left.hasPlainColumn || right.hasPlainColumn
  | .keyEquality pairs => pairsHavePlainColumn pairs
  | .not operand => operand.hasPlainColumn
  | .negate operand => operand.hasPlainColumn
  | .isNull operand _ => operand.hasPlainColumn
  | .case test ifTrue ifFalse =>
    test.hasPlainColumn || (ifTrue.hasPlainColumn || ifFalse.hasPlainColumn)

def argsHavePlainColumn : List Sql → Bool
  | [] => false
  | e :: rest => e.hasPlainColumn || argsHavePlainColumn rest

def pairsHavePlainColumn : List (Sql × Sql) → Bool
  | [] => false
  | (left, right) :: rest =>
    left.hasPlainColumn || (right.hasPlainColumn || pairsHavePlainColumn rest)

end

end Sql

end StreamQuery
