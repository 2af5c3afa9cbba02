import StreamQuery.Expr.Basic

/-!
# Writing queries

Query stages written in the order in which they read: each takes the query so far as receiver.
-/

namespace StreamQuery.Expr

/-- An extension call: the receiver is the first argument of a static call. -/
def extend (receiver : Expr) (name : String) (args : List Expr) : Expr :=
  .staticCall name (receiver :: args) .unknown

/-- An anonymous object whose members have the given names. -/
def named (members : List (String × Expr)) : Expr :=
  .object (members.map fun (name, value) => (some name, value))

/-- An anonymous object whose members are named by their values. -/
def anonymous (values : List Expr) : Expr :=
  .object (values.map (none, ·))

/-- Logical negation, of the type of its operand. -/
def not (operand : Expr) : Expr :=
  .unary .not operand operand.dataType

/-- Arithmetic negation, of the type of its operand. -/
def neg (operand : Expr) : Expr :=
  .unary .negate operand operand.dataType

def filter (query predicate : Expr) : Expr :=
  query.extend "Where" [predicate]

def select (query selector : Expr) : Expr :=
  query.extend "Select" [selector]

def groupBy (query key : Expr) : Expr :=
  query.extend "GroupBy" [key]

def having (query predicate : Expr) : Expr :=
  query.extend "Having" [predicate]

def orderBy (query key : Expr) : Expr :=
  query.extend "OrderBy" [key]

def orderByDescending (query key : Expr) : Expr :=
  query.extend "OrderByDescending" [key]

def thenBy (query key : Expr) : Expr :=
  query.extend "ThenBy" [key]

def thenByDescending (query key : Expr) : Expr :=
  query.extend "ThenByDescending" [key]

def window (query : Expr) (window : Window) : Expr :=
  query.extend "Window" [.constant (.window window)]

def windowOf (query : Expr) (size : Duration) : Expr :=
  query.extend "Window" [.constant (.duration size)]

def take (query : Expr) (count : Int) : Expr :=
  query.extend "Take" [.constant (.int count)]

def join (query inner outerKey innerKey result : Expr) : Expr :=
  query.extend "Join" [inner, outerKey, innerKey, result]

end StreamQuery.Expr
