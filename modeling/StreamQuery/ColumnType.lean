import StreamQuery.Failure

/-!
# Column types

The SQL type of a column, and the data types that have one.
-/

namespace StreamQuery

/-- The precision and scale of a decimal column. -/
structure Precision where
  precision : Nat := 38
  scale : Nat := 9
deriving DecidableEq, Inhabited

def Precision.validate (p : Precision) : Except Failure Unit :=
  if p.precision = 0 ∨ 38 < p.precision then
    .error (.violation (.precisionOutOfRange p.precision))
  else if p.precision < p.scale then
    .error (.violation (.scaleAbovePrecision p.scale p.precision))
  else .ok ()

inductive ColumnType where
  | integer
  | bigint
  | double
  | decimal (precision : Precision)
  | varchar
  | boolean
  | timestamp
  | bytes
deriving DecidableEq

namespace ColumnType

def text : ColumnType → String
  | .integer => "INTEGER"
  | .bigint => "BIGINT"
  | .double => "DOUBLE"
  | .decimal p => "DECIMAL(" ++ toString p.precision ++ "," ++ toString p.scale ++ ")"
  | .varchar => "VARCHAR"
  | .boolean => "BOOLEAN"
  | .timestamp => "TIMESTAMP"
  | .bytes => "BYTES"

/-- The column type of `type`; decimals take the given precision. -/
def ofDataType (type : DataType) (precision : Precision) : Except Failure ColumnType :=
  match type.underlying with
  | .short | .int => .ok .integer
  | .long => .ok .bigint
  | .float | .double => .ok .double
  | .decimal => do
    precision.validate
    return .decimal precision
  | .string | .char | .guid => .ok .varchar
  | .bool => .ok .boolean
  | .dateTime | .dateTimeOffset => .ok .timestamp
  | .bytes => .ok .bytes
  | other => .error (.unsupportedType other)

end ColumnType

end StreamQuery
