import StreamQuery.Entity
import StreamQuery.SettingsFile

/-!
# Entity files

Entities written in YAML. A type with content is written with a tag.
-/

namespace StreamQuery

open Yaml

def DataType.ofYaml? : Node → Option DataType
  | .scalar text _ (some (.named "Enum")) => some (.enum text)
  | .scalar text _ (some (.named "Object")) => some (.object text)
  | .scalar text _ (some (.named "Nullable")) => (DataType.ofName? text).map .nullable
  | other => other.toChoice?.bind DataType.ofName?

def Property.ofYaml? (node : Node) : Option Property := do
  let fields ← node.toFields?
  let name ← Node.required? Node.toText? fields "name"
  let type ← Node.required? DataType.ofYaml? fields "type"
  let ignore ← Node.optional? Node.toBool? false fields "ignore"
  let precision ← Node.optional? (Node.toOption? Precision.ofYaml?) none fields "decimal"
  return { name, type, ignore, precision }

namespace Entity

def ofYaml? (node : Node) : Option Entity := do
  let fields ← node.toFields?
  let typeName ← Node.required? Node.toText? fields "type_name"
  let topic ← Node.optional? (Node.toOption? Node.toText?) none fields "topic"
  let properties ← Node.optional? (Node.toList? Property.ofYaml?) [] fields "properties"
  let keyProperties ← Node.optional? (Node.toList? Node.toText?) [] fields "key_properties"
  return { typeName, topic, properties, keyProperties }

def ofText (text : String) : Except Failure Entity :=
  match (Node.ofText? text).bind ofYaml? with
  | none => .error (.settings .malformedYaml)
  | some entity => .ok entity

end Entity

end StreamQuery
