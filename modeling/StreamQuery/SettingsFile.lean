import StreamQuery.Settings
import StreamQuery.Yaml.Node

/-!
# Settings files

Settings written in YAML. Fields that are not known are passed over.
-/

namespace StreamQuery

open Yaml

def Precision.ofYaml? (node : Node) : Option Precision := do
  let fields ← node.toFields?
  let precision ← Node.required? (Node.toNat? 255) fields "precision"
  let scale ← Node.required? (Node.toNat? 255) fields "scale"
  return { precision, scale }

def Format.ofYaml? (node : Node) : Option Format :=
  node.toChoice?.bind Format.ofName?

namespace Settings

def ofYaml? (node : Node) : Option Settings := do
  let fields ← node.toFields?
  let valueFormat ← Node.optional? Format.ofYaml? .avro fields "value_format"
  let keyFormat ← Node.optional? (Node.toOption? Format.ofYaml?) none fields "key_format"
  let defaultPrecision ← Node.optional? Precision.ofYaml? {} fields "default_decimal"
  let partitions ←
    Node.optional? (Node.toOption? (Node.toNat? (UInt32.size - 1))) none fields "partitions"
  let replicas ←
    Node.optional? (Node.toOption? (Node.toNat? (UInt16.size - 1))) none fields "replicas"
  return { valueFormat, keyFormat, defaultPrecision, partitions, replicas }

/-- Reads settings, whose default precision must be one that a column can have. -/
def ofText (text : String) : Except Failure Settings :=
  match (Node.ofText? text).bind ofYaml? with
  | none => .error (.settings .malformedYaml)
  | some settings => do
    settings.defaultPrecision.validate
    return settings

/-- Reads the content of a file, if it could be read. -/
def ofFile (content : Option String) : Except Failure Settings :=
  match content with
  | none => .error (.settings .unreadableFile)
  | some text => ofText text

end Settings

end StreamQuery
