import StreamQuery.Dictionary

/-!
# JSON values

Values of free shape, and their readings as values of a fixed shape.
-/

namespace StreamQuery

inductive Json where
  | null
  | bool (value : Bool)
  /-- The number `mantissa / 10 ^ places`. -/
  | number (mantissa : Int) (places : Nat)
  | string (value : String)
  | array (items : List Json)
  | object (entries : List (String × Json))
deriving Inhabited

namespace Json

def ofInt (n : Int) : Json :=
  .number n 0

def toBool? : Json → Option Bool
  | .bool value => some value
  | _ => none

def toString? : Json → Option String
  | .string value => some value
  | _ => none

/-- A whole number between `low` and `high`, written without a point. -/
def toInt? (low high : Int) : Json → Option Int
  | .number n 0 => if low ≤ n ∧ n ≤ high then some n else none
  | _ => none

def toInt64? : Json → Option Int :=
  toInt? (-0x8000000000000000) 0x7FFFFFFFFFFFFFFF

def toNat? (high : Nat) (json : Json) : Option Nat :=
  (json.toInt? 0 high).map Int.toNat

def toByte? : Json → Option Nat :=
  toNat? 255

def toWord? : Json → Option Nat :=
  toNat? (UInt32.size - 1)

/-- A value that may be null. -/
def toOption? {α : Type} (read : Json → Option α) : Json → Option (Option α)
  | .null => some none
  | other => (read other).map some

def toList? {α : Type} (read : Json → Option α) : Json → Option (List α)
  | .array items => items.mapM read
  | _ => none

def toStrings? : Json → Option (List String) :=
  toList? toString?

def toStringMap? : Json → Option (Dictionary String)
  | .object entries => entries.mapM fun (key, value) => value.toString?.map (key, ·)
  | _ => none

def ofStringMap (entries : Dictionary String) : Json :=
  .object (entries.map fun (key, value) => (key, .string value))

def ofOption {α : Type} (write : α → Json) : Option α → Json
  | some value => write value
  | none => .null

/-- The fields of a record: the entries of an object, or the items of a list, which stand for the
first of the given names. -/
def toFields? (names : List String) : Json → Option (Dictionary Json)
  | .object entries => some entries
  | .array items => if items.length ≤ names.length then some (names.zip items) else none
  | _ => none

def required? {α : Type} (read : Json → Option α) (fields : Dictionary Json) (name : String) :
    Option α :=
  (Dictionary.get? name fields).bind read

/-- The value of a field, or a default if it is missing. -/
def optional? {α : Type} (read : Json → Option α) (default : α) (fields : Dictionary Json)
    (name : String) : Option α :=
  match Dictionary.get? name fields with
  | some json => read json
  | none => some default

/-- A choice by name: the name alone, or an object with null under it. -/
def toChoice? : Json → Option String
  | .string name => some name
  | .object [(name, .null)] => some name
  | _ => none

end Json

end StreamQuery
