import StreamQuery.ColumnType
import StreamQuery.Text.Case

/-!
# Entities

The properties of the rows of a stream or table, which of them form its key, and its topic.
-/

namespace StreamQuery

structure Property where
  name : String
  type : DataType
  ignore : Bool := false
  precision : Option Precision := none
deriving DecidableEq, Inhabited

structure Entity where
  typeName : String
  topic : Option String := none
  properties : List Property := []
  keyProperties : List String := []
deriving DecidableEq, Inhabited

namespace Entity

/-- The properties that become columns. -/
def columns (entity : Entity) : List Property :=
  entity.properties.filter (!·.ignore)

/-- The key properties that are columns, in the order of the key. -/
def keys (entity : Entity) : List Property :=
  entity.keyProperties.filterMap fun key => entity.columns.find? (·.name = key)

/-- The given topic, or the type name in lower case. -/
def topicName (entity : Entity) : String :=
  entity.topic.getD (Text.lower entity.typeName)

def withTopic (entity : Entity) (topic : String) : Entity :=
  { entity with topic := some topic }

def withProperty (entity : Entity) (property : Property) : Entity :=
  { entity with properties := entity.properties ++ [property] }

def withKey (entity : Entity) (name : String) : Entity :=
  { entity with keyProperties := entity.keyProperties ++ [name] }

end Entity

end StreamQuery
