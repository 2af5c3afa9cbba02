import StreamQuery.Text.Case

/-!
# SQL functions

A method that queries may call, the SQL function it stands for, and how a call is written. A
template has numbered slots, which are filled one after the other.
-/

namespace StreamQuery

inductive FunctionCategory where
  | string
  | math
  | date
  | aggregate
  | array
  | json
  | cast
  | conditional
  | url
  | geo
  | crypto
  | window
deriving DecidableEq

namespace FunctionCategory

def name : FunctionCategory → String
  | .string => "String"
  | .math => "Math"
  | .date => "Date"
  | .aggregate => "Aggregate"
  | .array => "Array"
  | .json => "JSON"
  | .cast => "Cast"
  | .conditional => "Conditional"
  | .url => "URL"
  | .geo => "GEO"
  | .crypto => "Crypto"
  | .window => "Window"

def all : List FunctionCategory :=
  [.string, .math, .date, .aggregate, .array, .json, .cast, .conditional, .url, .geo, .crypto,
   .window]

end FunctionCategory

structure SqlFunction where
  method : String
  sql : String
  category : FunctionCategory
  aggregate : Bool := false
  /-- Whether calls are written in a way of their own. -/
  special : Bool := false
  template : Option String := none
  /-- Whether the template is for calls on an instance only. -/
  instanceOnly : Bool := false
deriving DecidableEq

namespace SqlFunction

/-- The digit of slot `index`. -/
def slotDigit (index : Nat) : Char :=
  Char.ofNat (0x30 + index)

def hasSlot (index : Nat) : List Char → Bool
  | '\x7b' :: d :: '\x7d' :: rest => d = slotDigit index || hasSlot index (d :: '\x7d' :: rest)
  | _ :: rest => hasSlot index rest
  | [] => false

/-- Replaces every occurrence of slot `index` by `arg`. -/
def fillSlot (index : Nat) (arg : List Char) : List Char → List Char
  | '\x7b' :: d :: '\x7d' :: rest =>
    if d = slotDigit index then arg ++ fillSlot index arg rest
    else '\x7b' :: fillSlot index arg (d :: '\x7d' :: rest)
  | c :: rest => c :: fillSlot index arg rest
  | [] => []

/-- Fills the slots from `index` on. Slots in the text of an earlier argument are filled too. -/
def fillSlots (index : Nat) (template : List Char) : List String → List Char
  | [] => template
  | arg :: rest => fillSlots (index + 1) (fillSlot index arg.toList template) rest

/-- The number of slots, counted from slot 0 up to the first missing one. -/
def slotCount (template : List Char) : Nat :=
  ((List.range 10).takeWhile (hasSlot · template)).length

def template? (f : SqlFunction) (argCount : Nat) (onInstance : Bool) : Option String :=
  f.template.filter fun template =>
    (!f.instanceOnly || onInstance) && slotCount template.toList = argCount

/-- A call with arguments that are already written. -/
def render (f : SqlFunction) (args : List String) (onInstance : Bool) : String :=
  match f.template? args.length onInstance with
  | some template => String.ofList (fillSlots 0 template.toList args)
  | none =>
    if args.isEmpty && f.aggregate then f.sql ++ "(*)"
    else f.sql ++ "(" ++ String.intercalate ", " args ++ ")"

end SqlFunction

end StreamQuery
