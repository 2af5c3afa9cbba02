import StreamQuery.Failure
import StreamQuery.Json

/-!
# Contexts

What a clause needs to know of the query around it: the stream or table it reads, the way it runs,
and values of free shape under known names.
-/

namespace StreamQuery

inductive ExecutionMode where
  | pull
  | push
deriving DecidableEq, Inhabited

namespace ExecutionMode

def name : ExecutionMode → String
  | .pull => "PullQuery"
  | .push => "PushQuery"

def ofName? (name : String) : Option ExecutionMode :=
  if name = "PullQuery" then some .pull else if name = "PushQuery" then some .push else none

def ofJson? (json : Json) : Option ExecutionMode :=
  json.toChoice?.bind ofName?

end ExecutionMode

/-- The columns of a grouping key: one for a simple key, one per member for a composite key. -/
structure GroupKeys where
  single : Option String := none
  members : Dictionary String := []
deriving DecidableEq, Inhabited

namespace GroupKeys

def toJson (keys : GroupKeys) : Json :=
  .object
    [("members", Json.ofStringMap keys.members),
     ("single", Json.ofOption .string keys.single)]

/-- Reads an object, in which `single` may be missing, or the list of the two fields. -/
def ofJson? : Json → Option GroupKeys
  | .object entries => do
    let members ← (← Dictionary.get? "members" entries).toStringMap?
    let single ← ((Dictionary.get? "single" entries).getD .null).toOption? Json.toString?
    return { single, members }
  | .array [single, members] => do
    let single ← single.toOption? Json.toString?
    let members ← members.toStringMap?
    return { single, members }
  | _ => none

end GroupKeys

structure Context where
  base : String := ""
  mode : ExecutionMode := .push
  metadata : Dictionary Json := []
deriving Inhabited

namespace Context

def isPull (context : Context) : Bool :=
  context.mode = .pull

def withMetadata (context : Context) (key : String) (value : Json) : Context :=
  { context with metadata := Dictionary.insert key value context.metadata }

def metadata? (context : Context) (key : String) : Option Json :=
  Dictionary.get? key context.metadata

def hasMetadata (context : Context) (key : String) : Bool :=
  Dictionary.contains key context.metadata

def isGrouped (context : Context) : Bool :=
  ((context.metadata? "grouped").bind Json.toBool?).getD false

def groupKeys? (context : Context) : Option GroupKeys :=
  (context.metadata? "group_keys").bind GroupKeys.ofJson?

/-- The table aliases of lambda parameters. -/
def parameterAliases? (context : Context) : Option (Dictionary String) :=
  (context.metadata? "parameter_aliases").bind Json.toStringMap?

def withGrouped (context : Context) : Context :=
  context.withMetadata "grouped" (.bool true)

def withGroupKeys (context : Context) (keys : GroupKeys) : Context :=
  context.withMetadata "group_keys" keys.toJson

def withParameterAliases (context : Context) (aliases : Dictionary String) : Context :=
  context.withMetadata "parameter_aliases" (Json.ofStringMap aliases)

def summary (context : Context) : String :=
  "Base: " ++ context.base ++ ", Mode: " ++ context.mode.name ++ ", Metadata: [" ++
    String.intercalate ", " (Dictionary.keys context.metadata) ++ "]"

def ofFields? (base mode metadata : Json) : Option Context := do
  let base ← base.toString?
  let mode ← ExecutionMode.ofJson? mode
  match metadata with
  | .object entries => return { base, mode, metadata := entries }
  | _ => none

/-- Reads an object with all three fields, or the list of their values. -/
def ofJson? : Json → Option Context
  | .object entries => do
    let base ← Dictionary.get? "base_object" entries
    let mode ← Dictionary.get? "execution_mode" entries
    let metadata ← Dictionary.get? "metadata" entries
    ofFields? base mode metadata
  | .array [base, mode, metadata] => ofFields? base mode metadata
  | _ => none

def ofJson (json : Json) : Except Failure Context :=
  match ofJson? json with
  | some context => .ok context
  | none => .error (.assembly .malformedContext)

end Context

end StreamQuery
