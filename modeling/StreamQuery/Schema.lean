import StreamQuery.Entity
import StreamQuery.Identifier
import StreamQuery.Settings

/-!
# Schema statements

The definition of a stream or table by the properties of an entity.
-/

namespace StreamQuery

inductive ObjectKind where
  | stream
  | table
deriving DecidableEq

namespace ObjectKind

def keyword : ObjectKind → String
  | .stream => "STREAM"
  | .table => "TABLE"

/-- What a name of such an object is called in messages. -/
def nameRole : ObjectKind → String
  | .stream => "stream name"
  | .table => "table name"

def task : ObjectKind → String → String → Task
  | .stream => .createStream
  | .table => .createTable

end ObjectKind

namespace Schema

def columnText (settings : Settings) (property : Property) : Except Failure String := do
  let precision := property.precision.getD settings.defaultPrecision
  return Text.upper property.name ++ " " ++ (← ColumnType.ofDataType property.type precision).text

def option (name : String) (value : Option String) : List String :=
  value.toList.map fun value => name ++ "=" ++ value

def quotedOption (name : String) (value : Option String) : List String :=
  option name (value.map fun value => "'" ++ value ++ "'")

/-- The key of a table: its key columns, if there are any. -/
def keyText? (kind : ObjectKind) (entity : Entity) : Option String :=
  let keys := entity.keys.map fun property => Text.upper property.name
  if kind = .table ∧ keys ≠ [] then some (String.intercalate ", " keys) else none

def options (settings : Settings) (kind : ObjectKind) (topic : String) (entity : Entity) :
    List String :=
  quotedOption "KAFKA_TOPIC" (some topic) ++
    quotedOption "VALUE_FORMAT" (some settings.valueFormat.name) ++
    quotedOption "KEY" (keyText? kind entity) ++
    quotedOption "KEY_FORMAT" (settings.keyFormat.map (·.name)) ++
    option "PARTITIONS" (settings.partitions.map toString) ++
    option "REPLICAS" (settings.replicas.map toString)

def statement (settings : Settings) (kind : ObjectKind) (name topic : String) (entity : Entity) :
    Except Failure String := do
  validateIdentifier kind.nameRole name
  validateTopic topic
  let columns ← entity.columns.mapM (columnText settings)
  if columns.isEmpty then .error (.violation (.noColumns entity.typeName))
  return "CREATE " ++ kind.keyword ++ " " ++ name ++ " (" ++ String.intercalate ", " columns ++
    ") WITH (" ++ String.intercalate ", " (options settings kind topic entity) ++ ")"

def create (settings : Settings) (kind : ObjectKind) (name topic : String) (entity : Entity) :
    Except Failure String :=
  (statement settings kind name topic entity).mapError (.inTask (kind.task name topic))

end Schema

end StreamQuery
