import StreamQuery.Json
import StreamQuery.Settings

/-!
# Settings in JSON

A record is an object, or the list of its values in the order of the fields.
-/

namespace StreamQuery

namespace Precision

def ofJson? (json : Json) : Option Precision := do
  let fields ← json.toFields? ["precision", "scale"]
  let precision ← Json.required? Json.toByte? fields "precision"
  let scale ← Json.required? Json.toByte? fields "scale"
  return { precision, scale }

def toJson (precision : Precision) : Json :=
  .object [("precision", .ofInt precision.precision), ("scale", .ofInt precision.scale)]

end Precision

namespace Format

def ofJson? (json : Json) : Option Format :=
  json.toChoice?.bind ofName?

def toJson (format : Format) : Json :=
  .string format.name

end Format

namespace Settings

def ofJson? (json : Json) : Option Settings := do
  let fields ←
    json.toFields? ["value_format", "key_format", "default_decimal", "partitions", "replicas"]
  let valueFormat ← Json.optional? Format.ofJson? .avro fields "value_format"
  let keyFormat ← Json.optional? (Json.toOption? Format.ofJson?) none fields "key_format"
  let defaultPrecision ← Json.optional? Precision.ofJson? {} fields "default_decimal"
  let partitions ← Json.optional? (Json.toOption? Json.toWord?) none fields "partitions"
  let replicas ←
    Json.optional? (Json.toOption? (Json.toNat? (UInt16.size - 1))) none fields "replicas"
  return { valueFormat, keyFormat, defaultPrecision, partitions, replicas }

def toJson (settings : Settings) : Json :=
  .object
    [("default_decimal", settings.defaultPrecision.toJson),
     ("key_format", Json.ofOption Format.toJson settings.keyFormat),
     ("partitions", Json.ofOption (fun n => .ofInt n) settings.partitions),
     ("replicas", Json.ofOption (fun n => .ofInt n) settings.replicas),
     ("value_format", settings.valueFormat.toJson)]

end Settings

end StreamQuery
