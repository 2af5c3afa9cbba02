import StreamQuery.ColumnType

/-!
# Settings

What schema statements take from the surroundings: formats, the default precision, and the size of
new topics.
-/

namespace StreamQuery

inductive Format where
  | avro
  | json
  | protobuf
  | delimited
  | kafka
deriving DecidableEq, Inhabited

namespace Format

def name : Format → String
  | .avro => "AVRO"
  | .json => "JSON"
  | .protobuf => "PROTOBUF"
  | .delimited => "DELIMITED"
  | .kafka => "KAFKA"

/-- Reads a name in upper or in lower case. -/
def ofName? (name : String) : Option Format :=
  if name = "AVRO" ∨ name = "avro" then some .avro
  else if name = "JSON" ∨ name = "json" then some .json
  else if name = "PROTOBUF" ∨ name = "protobuf" then some .protobuf
  else if name = "DELIMITED" ∨ name = "delimited" then some .delimited
  else if name = "KAFKA" ∨ name = "kafka" then some .kafka
  else none

end Format

structure Settings where
  valueFormat : Format := .avro
  keyFormat : Option Format := none
  defaultPrecision : Precision := {}
  partitions : Option Nat := none
  replicas : Option Nat := none
deriving DecidableEq, Inhabited

end StreamQuery
