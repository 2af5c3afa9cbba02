import StreamQuery.Lowering

/-!
# The select list

An anonymous object gives one column per member, under the member's name. Columns with the name of
an earlier one get a numbered name.
-/

namespace StreamQuery.SelectClause

structure Projection where
  sql : Sql
  label : Option String

/-- The name of a member: the given one, that of the accessed member, or its position. -/
def memberLabel (name : Option String) (value : Expr) (index : Nat) : String :=
  match name with
  | some name => name
  | none =>
    let accessed :=
      match value with
      | .unary _ operand _ => operand.memberName?
      | other => other.memberName?
    accessed.getD ("col" ++ toString index)

def memberProjection (rules : LoweringRules) (name : Option String) (value : Expr) (index : Nat) :
    Except Failure Projection := do
  return { sql := ← value.lowerValue rules, label := some (memberLabel name value index) }

def projections (rules : LoweringRules) : Expr → Except Failure (List Projection)
  | .object members =>
    members.zipIdx.mapM fun ((name, value), index) => memberProjection rules name value index
  | other => do return [{ sql := ← other.lowerValue rules, label := none }]

/-- Without grouping, a select list has aggregates only or none at all. -/
def validate (context : Context) (columns : List Projection) : Except Failure Unit :=
  if !context.isGrouped && columns.any (·.sql.hasAggregate) && columns.any (·.sql.hasPlainColumn)
  then .error (.violation .mixedProjection)
  else .ok ()

/-- The candidates for the name of a column, in order of preference. -/
def numbered (label : String) : Nat → String
  | 0 => label
  | n + 1 => label ++ "_" ++ toString (n + 1)

/-- The first candidate that is not used. One of the first `used.length + 1` is free. -/
def freeName (used : List String) (label : String) : String :=
  (((List.range (used.length + 1)).map (numbered label)).find? (· ∉ used)).getD label

def columnText (text name : String) : String :=
  if text = name then text else text ++ " AS " ++ name

/-- The columns after those that have taken the names `used`. -/
def columnTexts (used : List String) : List Projection → List String
  | [] => []
  | column :: rest =>
    match column.label with
    | none => column.sql.text :: columnTexts used rest
    | some label =>
      let name := freeName used label
      columnText column.sql.text name :: columnTexts (name :: used) rest

def render (columns : List Projection) : String :=
  if columns.isEmpty then "*" else String.intercalate ", " (columnTexts [] columns)

def build (selector : Expr) (context : Context) : Except Failure String := do
  let columns ← projections (LoweringRules.select.withContext context) selector.stripLambda
  validate context columns
  return render columns

end StreamQuery.SelectClause
