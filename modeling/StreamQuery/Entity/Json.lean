import StreamQuery.Entity
import StreamQuery.Settings.Json

/-!
# Entities in JSON

A type without content is written as its name, one with content as an object with that name.
-/

namespace StreamQuery

namespace DataType

def ofJson? : Json → Option DataType
  | .string name => ofName? name
  | .object [("Enum", content)] => content.toString?.map .enum
  | .object [("Object", content)] => content.toString?.map .object
  | .object [("Nullable", content)] => (ofJson? content).map .nullable
  | .object [(name, .null)] => ofName? name
  | _ => none

def toJson : DataType → Json
  | .enum name => .object [("Enum", .string name)]
  | .object name => .object [("Object", .string name)]
  | .nullable inner => .object [("Nullable", inner.toJson)]
  | other => .string other.schemaName

end DataType

namespace Property

def ofJson? (json : Json) : Option Property := do
  let fields ← json.toFields? ["name", "type", "ignore", "decimal"]
  let name ← Json.required? Json.toString? fields "name"
  let type ← Json.required? DataType.ofJson? fields "type"
  let ignore ← Json.optional? Json.toBool? false fields "ignore"
  let precision ← Json.optional? (Json.toOption? Precision.ofJson?) none fields "decimal"
  return { name, type, ignore, precision }

def toJson (property : Property) : Json :=
  .object
    [("decimal", Json.ofOption Precision.toJson property.precision),
     ("ignore", .bool property.ignore), ("name", .string property.name),
     ("type", property.type.toJson)]

end Property

namespace Entity

def ofJson? (json : Json) : Option Entity := do
  let fields ← json.toFields? ["type_name", "topic", "properties", "key_properties"]
  let typeName ← Json.required? Json.toString? fields "type_name"
  let topic ← Json.optional? (Json.toOption? Json.toString?) none fields "topic"
  let properties ← Json.optional? (Json.toList? Property.ofJson?) [] fields "properties"
  let keyProperties ← Json.optional? Json.toStrings? [] fields "key_properties"
  return { typeName, topic, properties, keyProperties }

def toJson (entity : Entity) : Json :=
  .object
    [("key_properties", .array (entity.keyProperties.map .string)),
     ("properties", .array (entity.properties.map Property.toJson)),
     ("topic", Json.ofOption .string entity.topic), ("type_name", .string entity.typeName)]

end Entity

end StreamQuery
