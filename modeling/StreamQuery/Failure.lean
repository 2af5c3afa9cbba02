import StreamQuery.Clause.Kind
import StreamQuery.Expr.Basic

/-!
# Failures

Every reason for which a clause or a statement cannot be produced, and its wording. A failure in a
clause or in a statement keeps the failure that caused it.
-/

namespace StreamQuery

/-- The lengths that a window limits to between a second and thirty days. -/
inductive WindowSpan where
  | size
  | advance
  | gap
deriving DecidableEq

def WindowSpan.label : WindowSpan → String
  | .size => "Window size"
  | .advance => "AdvanceBy"
  | .gap => "Session gap"

/-- The window settings that must not be negative. -/
inductive WindowAllowance where
  | retention
  | gracePeriod
deriving DecidableEq

def WindowAllowance.label : WindowAllowance → String
  | .retention => "Retention"
  | .gracePeriod => "Grace period"

def WindowKind.keyword : WindowKind → String
  | .tumbling => "TUMBLING"
  | .hopping => "HOPPING"
  | .session => "SESSION"

/-- Rules that a well-formed query or schema keeps. -/
inductive Violation where
  | precisionOutOfRange (precision : Nat)
  | scaleAbovePrecision (scale precision : Nat)
  | subquery (clause : String)
  | keyCountMismatch (clause : String)
  | mixedProjection
  | aggregateInFilter
  | aggregateInGroupKey
  | functionInGroupKey (name : String)
  | tooManyGroupKeys (count : Nat)
  | thenByWithoutOrderBy (method : String)
  | complexOrderKey
  | tooManyOrderKeys (count : Nat)
  | windowWithoutKind
  | windowWithoutSize (kind : WindowKind)
  | sessionWithoutGap
  | spanNotPositive (span : WindowSpan)
  | spanTooLong (span : WindowSpan)
  | spanTooShort (span : WindowSpan)
  | negativeAllowance (allowance : WindowAllowance)
  | nestedWindow
  | repeatedStage (clause : ClauseKind)
  | missingArgument (method : String)
  | joinArguments
  | limitNotCount (method : String)
  | malformedIdentifier (role name : String)
  | malformedTopic (name : String)
  | noColumns (entity : String)
deriving DecidableEq

namespace Violation

def clause : Violation → String
  | .precisionOutOfRange _ => "DDL"
  | .scaleAbovePrecision _ _ => "DDL"
  | .subquery clause => clause
  | .keyCountMismatch clause => clause
  | .mixedProjection => "SELECT"
  | .aggregateInFilter => "WHERE"
  | .aggregateInGroupKey => "GROUP BY"
  | .functionInGroupKey _ => "GROUP BY"
  | .tooManyGroupKeys _ => "GROUP BY"
  | .thenByWithoutOrderBy _ => "ORDER BY"
  | .complexOrderKey => "ORDER BY"
  | .tooManyOrderKeys _ => "ORDER BY"
  | .windowWithoutKind => "WINDOW"
  | .windowWithoutSize _ => "WINDOW"
  | .sessionWithoutGap => "WINDOW"
  | .spanNotPositive _ => "WINDOW"
  | .spanTooLong _ => "WINDOW"
  | .spanTooShort _ => "WINDOW"
  | .negativeAllowance _ => "WINDOW"
  | .nestedWindow => "WINDOW"
  | .repeatedStage _ => "QUERY"
  | .missingArgument _ => "QUERY"
  | .joinArguments => "JOIN"
  | .limitNotCount _ => "LIMIT"
  | .malformedIdentifier _ _ => "DDL"
  | .malformedTopic _ => "DDL"
  | .noColumns _ => "DDL"

def message : Violation → String
  | .precisionOutOfRange precision =>
    "DECIMAL precision must be between 1 and 38, got " ++ toString precision
  | .scaleAbovePrecision scale precision =>
    "DECIMAL scale " ++ toString scale ++ " cannot exceed precision " ++ toString precision
  | .subquery clause => "Subqueries are not supported in " ++ clause ++ " clause in KSQL"
  | .keyCountMismatch _ => "Composite key expressions must have the same number of properties"
  | .mixedProjection =>
    "SELECT clause cannot mix aggregate functions with non-aggregate columns without GROUP BY"
  | .aggregateInFilter =>
    "Aggregate functions are not allowed in WHERE clause. Use HAVING clause instead."
  | .aggregateInGroupKey => "Aggregate functions are not allowed in GROUP BY clause"
  | .functionInGroupKey name => "Function '" ++ name ++ "' is not allowed in GROUP BY clause"
  | .tooManyGroupKeys count =>
    "GROUP BY supports maximum 10 keys for optimal performance. Found " ++ toString count ++
      " keys. Consider using composite keys or data denormalization."
  | .thenByWithoutOrderBy method =>
    method ++ " requires a preceding OrderBy or OrderByDescending"
  | .complexOrderKey =>
    "ORDER BY in KSQL should use simple column references. " ++
      "Complex expressions in ORDER BY may not be supported."
  | .tooManyOrderKeys count =>
    "ORDER BY supports maximum 5 columns for optimal performance. Found " ++ toString count ++
      " columns. Consider reducing sort columns."
  | .windowWithoutKind =>
    "Window definition must specify window type (Tumbling, Hopping, or Session)"
  | .windowWithoutSize kind => kind.keyword ++ " window requires Size"
  | .sessionWithoutGap => "SESSION window requires Gap"
  | .spanNotPositive span => span.label ++ " must be greater than zero"
  | .spanTooLong span => span.label ++ " cannot exceed 30 days"
  | .spanTooShort span => span.label ++ " must be at least 1 second"
  | .negativeAllowance allowance => allowance.label ++ " cannot be negative"
  | .nestedWindow => "Multiple Window calls are not supported"
  | .repeatedStage clause => "Multiple " ++ clause.name ++ " calls are not supported"
  | .missingArgument method => method ++ " requires an argument"
  | .joinArguments => "Join requires inner source, outer key, inner key and result selector"
  | .limitNotCount method => method ++ " requires a non-negative integer constant"
  | .malformedIdentifier role name =>
    "Invalid " ++ role ++ " '" ++ name ++
      "': expected a letter or underscore followed by letters, digits or underscores"
  | .malformedTopic name => "Invalid Kafka topic name '" ++ name ++ "'"
  | .noColumns entity => "Entity '" ++ entity ++ "' has no columns"

end Violation

/-- Constructs that have no counterpart in the place where they stand. -/
inductive Unsupported where
  | node (clause : String) (kind : NodeKind)
  | member (clause name : String) (on : NodeKind)
  | operator (clause : String) (op : BinaryOp)
  | windowConstant (clause : String)
  | groupKey (kind : NodeKind)
  | groupKeyMethod (name : String)
  | joinCall (kind : NodeKind)
  | joinInner (kind : NodeKind)
  | chainNode (kind : NodeKind)
  | chainMethod (name : String)
deriving DecidableEq

namespace Unsupported

def clause : Unsupported → String
  | .node clause _ => clause
  | .member clause _ _ => clause
  | .operator clause _ => clause
  | .windowConstant clause => clause
  | .groupKey _ => "GROUP BY"
  | .groupKeyMethod _ => "GROUP BY"
  | .joinCall _ => "JOIN"
  | .joinInner _ => "JOIN"
  | .chainNode _ => "QUERY"
  | .chainMethod _ => "QUERY"

/-- The name of the construct that is not supported. -/
def construct : Unsupported → String
  | .node _ kind => kind.name
  | .member _ _ _ => NodeKind.memberAccess.name
  | .operator _ op => op.name
  | .windowConstant _ => "Window"
  | .groupKey kind => kind.name
  | .groupKeyMethod _ => NodeKind.methodCall.name
  | .joinCall kind => kind.name
  | .joinInner kind => kind.name
  | .chainNode kind => kind.name
  | .chainMethod name => name

def message : Unsupported → String
  | .node clause kind =>
    "Expression type '" ++ kind.name ++ "' is not supported in " ++ clause ++ " clause"
  | .member clause name on =>
    "Member '" ++ name ++ "' on a " ++ on.name ++ " expression is not supported in " ++ clause ++
      " clause"
  | .operator clause op => "Operator " ++ op.name ++ " is not supported in " ++ clause ++ " clause"
  | .windowConstant clause => "Window definitions are not supported in " ++ clause ++ " clause"
  | .groupKey kind => "Unsupported expression type in GROUP BY clause: " ++ kind.name
  | .groupKeyMethod name =>
    "Unsupported expression type in GROUP BY clause: " ++ NodeKind.methodCall.name ++ " ('" ++
      name ++ "')"
  | .joinCall _ => "JOIN clause expects Join(outer, inner, outerKey, innerKey, resultSelector)"
  | .joinInner _ => "The inner side of a JOIN must be a stream or table"
  | .chainNode kind =>
    "Expression type '" ++ kind.name ++ "' cannot start or continue a query chain"
  | .chainMethod name => "Method '" ++ name ++ "' is not supported in KSQL query chains"

end Unsupported

/-- What keeps a statement from being put together. -/
inductive AssemblyFault where
  | emptyRequired (part : Part)
  | noClauses
  | malformedContext
deriving DecidableEq

def AssemblyFault.message : AssemblyFault → String
  | .emptyRequired part => "Required " ++ part.name ++ " clause has no content"
  | .noClauses => "No valid query clauses to assemble"
  | .malformedContext => "Invalid context metadata"

inductive SettingsFault where
  | missingBuilders (kinds : List ClauseKind)
  | noBuilder (kind : ClauseKind)
  | malformedYaml
  | unreadableFile
deriving DecidableEq

def SettingsFault.message : SettingsFault → String
  | .missingBuilders kinds =>
    "Required builders are not registered: " ++ String.intercalate ", " (kinds.map (·.name))
  | .noBuilder kind => "No builder registered for " ++ kind.name
  | .malformedYaml => "Invalid YAML"
  | .unreadableFile => "I/O error"

/-- The statement that was being produced. -/
inductive Task where
  | selectAll (source : String)
  | selectWhere (source : String)
  | count (source : String)
  | aggregate (source : String)
  | chain (source : String)
  | createStream (name topic : String)
  | createTable (name topic : String)
  | createStreamAs (name base : String)
  | createTableAs (name base : String)
deriving DecidableEq

namespace Task

def operation : Task → String
  | .selectAll _ => "SELECT * generation"
  | .selectWhere _ => "SELECT with condition generation"
  | .count _ => "COUNT query generation"
  | .aggregate _ => "Aggregate query generation"
  | .chain _ => "LINQ query generation"
  | .createStream _ _ => "CREATE STREAM generation"
  | .createTable _ _ => "CREATE TABLE generation"
  | .createStreamAs _ _ => "CREATE STREAM AS generation"
  | .createTableAs _ _ => "CREATE TABLE AS generation"

def context : Task → String
  | .selectAll source => "Source: " ++ source
  | .selectWhere source => "Source: " ++ source
  | .count source => "Source: " ++ source
  | .aggregate source => "Source: " ++ source
  | .chain source => "Source: " ++ source
  | .createStream name topic => "Stream: " ++ name ++ ", Topic: " ++ topic
  | .createTable name topic => "Table: " ++ name ++ ", Topic: " ++ topic
  | .createStreamAs name base => "Stream: " ++ name ++ ", Base: " ++ base
  | .createTableAs name base => "Table: " ++ name ++ ", Base: " ++ base

end Task

inductive Failure where
  | outsideScope (operation : String)
  | violation (cause : Violation)
  | unsupported (cause : Unsupported)
  | unsupportedType (type : DataType)
  | inClause (kind : ClauseKind) (cause : Failure)
  | inTask (task : Task) (cause : Failure)
  | assembly (cause : AssemblyFault)
  | settings (cause : SettingsFault)
deriving DecidableEq

namespace Failure

/-- The failure under all clauses and statements that it passed through. -/
def root : Failure → Failure
  | .inClause _ cause => cause.root
  | .inTask _ cause => cause.root
  | other => other

def isViolation (failure : Failure) : Bool :=
  match failure.root with
  | .violation _ => true
  | _ => false

def isUnsupported (failure : Failure) : Bool :=
  match failure.root with
  | .unsupported _ | .unsupportedType _ => true
  | _ => false

def message : Failure → String
  | .outsideScope operation =>
    "'" ++ operation ++
      "' can only be used while the model is being defined (inside a model creation scope)"
  | .violation cause => cause.message
  | .unsupported cause => cause.message
  | .unsupportedType type => "Type '" ++ type.text ++ "' is not supported."
  | .inClause kind cause =>
    kind.name ++ " builder failed during " ++ kind.name ++ " clause: " ++ cause.message
  | .inTask task cause =>
    task.operation ++ " failed (" ++ task.context ++ "): " ++ cause.message
  | .assembly cause => "Query assembly failed: " ++ cause.message
  | .settings cause => "Configuration error: " ++ cause.message

end Failure

end StreamQuery
