/-!
# Data types

The static types that query expressions and entity properties carry.
-/

namespace StreamQuery

inductive DataType where
  | bool
  | short
  | int
  | long
  | float
  | double
  | decimal
  | string
  | char
  | dateTime
  | dateTimeOffset
  | guid
  | bytes
  | enum (name : String)
  | object (name : String)
  | nullable (inner : DataType)
  | unknown
deriving DecidableEq, Inhabited

namespace DataType

/-- The type under all nullable wrappers. -/
def underlying : DataType → DataType
  | .nullable inner => inner.underlying
  | other => other

def isNullable : DataType → Bool
  | .nullable _ => true
  | _ => false

def isBool (type : DataType) : Bool :=
  type.underlying = .bool

def isTemporal (type : DataType) : Bool :=
  type.underlying = .dateTime || type.underlying = .dateTimeOffset

def text : DataType → String
  | .bool => "bool"
  | .short => "short"
  | .int => "int"
  | .long => "long"
  | .float => "float"
  | .double => "double"
  | .decimal => "decimal"
  | .string => "string"
  | .char => "char"
  | .dateTime => "DateTime"
  | .dateTimeOffset => "DateTimeOffset"
  | .guid => "Guid"
  | .bytes => "byte[]"
  | .enum name => name
  | .object name => name
  | .nullable inner => inner.text ++ "?"
  | .unknown => "Unknown"

/-- The name under which schemas refer to a type, its content apart. -/
def schemaName : DataType → String
  | .bool => "Bool"
  | .short => "Short"
  | .int => "Int"
  | .long => "Long"
  | .float => "Float"
  | .double => "Double"
  | .decimal => "Decimal"
  | .string => "String"
  | .char => "Char"
  | .dateTime => "DateTime"
  | .dateTimeOffset => "DateTimeOffset"
  | .guid => "Guid"
  | .bytes => "Bytes"
  | .enum _ => "Enum"
  | .object _ => "Object"
  | .nullable _ => "Nullable"
  | .unknown => "Unknown"

/-- The types without content. -/
def simple : List DataType :=
  [.bool, .short, .int, .long, .float, .double, .decimal, .string, .char, .dateTime,
   .dateTimeOffset, .guid, .bytes, .unknown]

/-- The type without content that has the given name. -/
def ofName? (name : String) : Option DataType :=
  simple.find? fun type => type.schemaName = name

end DataType

end StreamQuery
