import StreamQuery.About
import StreamQuery.EntityFile
import StreamQuery.Schema

/-!
# The command line

Writes the schema statement of an entity file.
-/

namespace StreamQuery

namespace CommandLine

structure Options where
  entity : Option String := none
  config : Option String := none
  name : Option String := none
  topic : Option String := none
  table : Bool := false
deriving DecidableEq

/-- The options that take a value. -/
inductive ValueOption where
  | entity
  | config
  | name
  | topic
deriving DecidableEq

namespace ValueOption

def ofLong? (name : String) : Option ValueOption :=
  [("entity", .entity), ("config", .config), ("name", .name), ("topic", .topic)].lookup name

def ofShort? (c : Char) : Option ValueOption :=
  [('e', .entity), ('c', .config), ('n', .name), ('t', .topic)].lookup c

/-- Paths of files are not empty. -/
def isPath : ValueOption → Bool
  | .entity | .config => true
  | .name | .topic => false

def get? (options : Options) : ValueOption → Option String
  | .entity => options.entity
  | .config => options.config
  | .name => options.name
  | .topic => options.topic

def set (options : Options) (value : String) : ValueOption → Options
  | .entity => { options with entity := some value }
  | .config => { options with config := some value }
  | .name => { options with name := some value }
  | .topic => { options with topic := some value }

end ValueOption

/-- What the arguments ask for. -/
inductive Request where
  | run (options : Options)
  | version
  | help
  | malformed
deriving DecidableEq

/-- Sets an option, which may be given only once. -/
def setOption? (options : Options) (option : ValueOption) (value : String) : Option Options :=
  if (option.get? options).isSome || (option.isPath && value = "") then none
  else some (option.set options value)

/-- An argument that is no value of the option before it: one that starts with a hyphen, except for
the single hyphen. -/
def isOption (arg : String) : Bool :=
  match arg.toList with
  | '-' :: _ :: _ => true
  | _ => false

/-- What a single argument is. -/
inductive Argument where
  | valued (option : ValueOption) (value : Option String)
  | table
  | version
  | help
  | separator
  | malformed
deriving DecidableEq

namespace Argument

/-- A long option, whose value may follow an equals sign. -/
def ofLong (chars : List Char) : Argument :=
  let name := String.ofList (chars.takeWhile (· ≠ '='))
  let value := (chars.dropWhile (· ≠ '=')).tail
  let hasValue := '=' ∈ chars
  match ValueOption.ofLong? name with
  | some option => .valued option (if hasValue then some (String.ofList value) else none)
  | none =>
    if hasValue then .malformed
    else if name = "table" then .table
    else if name = "version" then .version
    else if name = "help" then .help
    else .malformed

/-- A short option, whose value may follow at once or after an equals sign. -/
def ofShort (short : Char) (rest : List Char) : Argument :=
  match ValueOption.ofShort? short with
  | some option =>
    match rest with
    | [] => .valued option none
    | '=' :: value => .valued option (some (String.ofList value))
    | value => .valued option (some (String.ofList value))
  | none => if short = 'V' then .version else if short = 'h' then .help else .malformed

def ofText (arg : String) : Argument :=
  match arg.toList with
  | ['-', '-'] => .separator
  | '-' :: '-' :: long => ofLong long
  | '-' :: short :: rest => ofShort short rest
  | _ => .malformed

end Argument

/-- The request once all arguments are read: the entity file must be given. -/
def finish (options : Options) : Request :=
  if options.entity.isSome then .run options else .malformed

/-- Reads the arguments in order. -/
def parse (options : Options) : List String → Request
  | [] => finish options
  | arg :: rest =>
    match Argument.ofText arg with
    | .table => if options.table then .malformed else parse { options with table := true } rest
    | .version => .version
    | .help => .help
    | .separator => if rest.isEmpty then finish options else .malformed
    | .malformed => .malformed
    | .valued option (some value) =>
      match setOption? options option value with
      | some options => parse options rest
      | none => .malformed
    | .valued option none =>
      match rest with
      | [] => .malformed
      | value :: rest =>
        if isOption value then .malformed
        else
          match setOption? options option value with
          | some options => parse options rest
          | none => .malformed

/-- The exit code and the two output streams of a run. -/
structure Outcome where
  code : Nat
  output : String := ""
  error : Option String := none
deriving DecidableEq

/-- The statement for an entity file; `read` gives the content of a file. The settings are read
first. -/
def statement (read : String → Option String) (options : Options) : Except Failure String := do
  let settings ←
    match options.config with
    | some path => Settings.ofFile (read path)
    | none => .ok {}
  let entity ←
    match options.entity.bind read with
    | some text => Entity.ofText text
    | none => .error (.settings .unreadableFile)
  let name := options.name.getD (Text.upper entity.typeName)
  let topic := options.topic.getD entity.topicName
  Schema.create settings (if options.table then .table else .stream) name topic entity

def versionText : String :=
  "ksql-ddl " ++ version ++ "\n"

def helpText : String :=
  "Generate KSQL CREATE STREAM/TABLE statements from entity models\n\n" ++
    "Usage: ksql-ddl [OPTIONS] --entity <ENTITY>\n"

def respond (read : String → Option String) : Request → Outcome
  | .malformed => { code := 2 }
  | .version => { code := 0, output := versionText }
  | .help => { code := 0, output := helpText }
  | .run options =>
    match statement read options with
    | .ok text => { code := 0, output := text ++ ";\n" }
    | .error failure => { code := 1, error := some ("Error: " ++ failure.message) }

def run (read : String → Option String) (args : List String) : Outcome :=
  respond read (parse {} args)

end CommandLine

end StreamQuery
