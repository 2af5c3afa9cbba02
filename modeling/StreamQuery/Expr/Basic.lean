import StreamQuery.DataType
import StreamQuery.Number.Binary64
import StreamQuery.Number.Decimal
import StreamQuery.Window

/-!
# Query expressions

The typed expression tree of a quoted query: member accesses, calls, operators, constants,
projections, lambdas, and the streams or tables that a query starts from. An extension call is a
static call whose first argument is the receiver.
-/

namespace StreamQuery

inductive Constant where
  | null
  | bool (value : Bool)
  | int (value : Int)
  | float (value : Binary64)
  | decimal (value : Decimal)
  | string (value : String)
  | duration (value : Duration)
  | window (value : Window)
deriving DecidableEq, Inhabited

inductive BinaryOp where
  | add
  | subtract
  | multiply
  | divide
  | modulo
  | equal
  | notEqual
  | greaterThan
  | greaterThanOrEqual
  | lessThan
  | lessThanOrEqual
  | andAlso
  | orElse
  | coalesce
  | and
  | or
  | exclusiveOr
  | leftShift
  | rightShift
  | power
  | arrayIndex
deriving DecidableEq

namespace BinaryOp

def isEquality : BinaryOp → Bool
  | .equal | .notEqual => true
  | _ => false

def name : BinaryOp → String
  | .add => "Add"
  | .subtract => "Subtract"
  | .multiply => "Multiply"
  | .divide => "Divide"
  | .modulo => "Modulo"
  | .equal => "Equal"
  | .notEqual => "NotEqual"
  | .greaterThan => "GreaterThan"
  | .greaterThanOrEqual => "GreaterThanOrEqual"
  | .lessThan => "LessThan"
  | .lessThanOrEqual => "LessThanOrEqual"
  | .andAlso => "AndAlso"
  | .orElse => "OrElse"
  | .coalesce => "Coalesce"
  | .and => "And"
  | .or => "Or"
  | .exclusiveOr => "ExclusiveOr"
  | .leftShift => "LeftShift"
  | .rightShift => "RightShift"
  | .power => "Power"
  | .arrayIndex => "ArrayIndex"

def symbol : BinaryOp → String
  | .add => "+"
  | .subtract => "-"
  | .multiply => "*"
  | .divide => "/"
  | .modulo => "%"
  | .equal => "=="
  | .notEqual => "!="
  | .greaterThan => ">"
  | .greaterThanOrEqual => ">="
  | .lessThan => "<"
  | .lessThanOrEqual => "<="
  | .andAlso => "&&"
  | .orElse => "||"
  | .coalesce => "??"
  | .and => "&"
  | .or => "|"
  | .exclusiveOr => "^"
  | .leftShift => "<<"
  | .rightShift => ">>"
  | .power => "**"
  | .arrayIndex => "[]"

def all : List BinaryOp :=
  [.add, .subtract, .multiply, .divide, .modulo, .equal, .notEqual, .greaterThan,
   .greaterThanOrEqual, .lessThan, .lessThanOrEqual, .andAlso, .orElse, .coalesce, .and, .or,
   .exclusiveOr, .leftShift, .rightShift, .power, .arrayIndex]

end BinaryOp

inductive UnaryOp where
  | not
  | negate
  | convert
  | convertChecked
  | typeAs
  | arrayLength
deriving DecidableEq

namespace UnaryOp

def name : UnaryOp → String
  | .not => "Not"
  | .negate => "Negate"
  | .convert => "Convert"
  | .convertChecked => "ConvertChecked"
  | .typeAs => "TypeAs"
  | .arrayLength => "ArrayLength"

def all : List UnaryOp :=
  [.not, .negate, .convert, .convertChecked, .typeAs, .arrayLength]

end UnaryOp

inductive Expr where
  | parameter (name : String) (type : DataType)
  | member (target : Expr) (name : String) (type : DataType)
  | bareMember (name : String) (type : DataType)
  | call (target : Expr) (name : String) (args : List Expr) (type : DataType)
  | staticCall (name : String) (args : List Expr) (type : DataType)
  | binary (op : BinaryOp) (left right : Expr)
  | unary (op : UnaryOp) (operand : Expr) (type : DataType)
  | constant (value : Constant)
  | conditional (test ifTrue ifFalse : Expr)
  | object (members : List (Option String × Expr))
  | lambda (params : List String) (body : Expr)
  | source (name : String)
deriving Inhabited

/-- The kinds of nodes that messages distinguish. -/
inductive NodeKind where
  | parameter
  | memberAccess
  | methodCall
  | binary
  | unary
  | constant
  | conditional
  | object
  | lambda
  | source
deriving DecidableEq

def NodeKind.name : NodeKind → String
  | .parameter => "Parameter"
  | .memberAccess => "MemberAccess"
  | .methodCall => "MethodCall"
  | .binary => "Binary"
  | .unary => "Unary"
  | .constant => "Constant"
  | .conditional => "Conditional"
  | .object => "New"
  | .lambda => "Lambda"
  | .source => "Source"

namespace Expr

def kind : Expr → NodeKind
  | .parameter .. => .parameter
  | .member .. => .memberAccess
  | .bareMember .. => .memberAccess
  | .call .. => .methodCall
  | .staticCall .. => .methodCall
  | .binary .. => .binary
  | .unary .. => .unary
  | .constant .. => .constant
  | .conditional .. => .conditional
  | .object .. => .object
  | .lambda .. => .lambda
  | .source .. => .source

def dataType : Expr → DataType
  | .parameter _ type => type
  | .member _ _ type => type
  | .bareMember _ type => type
  | .call _ _ _ type => type
  | .staticCall _ _ type => type
  | .unary _ _ type => type
  | _ => .unknown

/-- The expression under all outer lambdas. -/
def stripLambda : Expr → Expr
  | .lambda _ body => body.stripLambda
  | other => other

/-- The expression under all outer numeric conversions. -/
def stripConversions : Expr → Expr
  | .unary .convert operand _ => operand.stripConversions
  | .unary .convertChecked operand _ => operand.stripConversions
  | other => other

def lambdaParams : Expr → List String
  | .lambda params _ => params
  | _ => []

def isLambda : Expr → Bool
  | .lambda .. => true
  | _ => false

def isObject : Expr → Bool
  | .object .. => true
  | _ => false

def isNullConstant : Expr → Bool
  | .constant .null => true
  | _ => false

def methodName? : Expr → Option String
  | .call _ name _ _ => some name
  | .staticCall name _ _ => some name
  | _ => none

def memberName? : Expr → Option String
  | .member _ name _ => some name
  | .bareMember name _ => some name
  | _ => none

/-- The direct children, a call's target before its arguments. -/
def children : Expr → List Expr
  | .parameter .. => []
  | .member target _ _ => [target]
  | .bareMember .. => []
  | .call target _ args _ => target :: args
  | .staticCall _ args _ => args
  | .binary _ left right => [left, right]
  | .unary _ operand _ => [operand]
  | .constant _ => []
  | .conditional test ifTrue ifFalse => [test, ifTrue, ifFalse]
  | .object members => members.map (·.2)
  | .lambda _ body => [body]
  | .source _ => []

mutual

/-- Whether some node of the tree satisfies `p`. -/
def any (p : Expr → Bool) : Expr → Bool
  | e@(.parameter ..) => p e
  | e@(.member target _ _) => p e || target.any p
  | e@(.bareMember ..) => p e
  | e@(.call target _ args _) => p e || (target.any p || anyArg p args)
  | e@(.staticCall _ args _) => p e || anyArg p args
  | e@(.binary _ left right) => p e || (left.any p || right.any p)
  | e@(.unary _ operand _) => p e || operand.any p
  | e@(.constant _) => p e
  | e@(.conditional test ifTrue ifFalse) => p e || (test.any p || (ifTrue.any p || ifFalse.any p))
  | e@(.object members) => p e || anyMember p members
  | e@(.lambda _ body) => p e || body.any p
  | e@(.source _) => p e

def anyArg (p : Expr → Bool) : List Expr → Bool
  | [] => false
  | e :: rest => e.any p || anyArg p rest

def anyMember (p : Expr → Bool) : List (Option String × Expr) → Bool
  | [] => false
  | (_, e) :: rest => e.any p || anyMember p rest

end

end Expr

/-- Equality of constants as values: 1.0 equals 1.00, and what is not a number differs from
itself. -/
def Constant.same : Constant → Constant → Bool
  | .float x, .float y => x.same y
  | .decimal x, .decimal y => x.same y
  | x, y => x = y

namespace Expr

mutual

/-- Equality of trees, with constants compared as values. -/
def same : Expr → Expr → Bool
  | .parameter a s, .parameter b t => a = b && s = t
  | .member e a s, .member f b t => e.same f && (a = b && s = t)
  | .bareMember a s, .bareMember b t => a = b && s = t
  | .call e a es s, .call f b fs t => e.same f && (a = b && (sameArgs es fs && s = t))
  | .staticCall a es s, .staticCall b fs t => a = b && (sameArgs es fs && s = t)
  | .binary p a b, .binary q c d => p = q && (a.same c && b.same d)
  | .unary p e s, .unary q f t => p = q && (e.same f && s = t)
  | .constant c, .constant d => c.same d
  | .conditional a b c, .conditional d e f => a.same d && (b.same e && c.same f)
  | .object ms, .object ns => sameMembers ms ns
  | .lambda ps e, .lambda qs f => ps = qs && e.same f
  | .source a, .source b => a = b
  | _, _ => false

def sameArgs : List Expr → List Expr → Bool
  | [], [] => true
  | e :: es, f :: fs => e.same f && sameArgs es fs
  | _, _ => false

def sameMembers : List (Option String × Expr) → List (Option String × Expr) → Bool
  | [], [] => true
  | (a, e) :: es, (b, f) :: fs => a = b && (e.same f && sameMembers es fs)
  | _, _ => false

end

end Expr

end StreamQuery
