/-!
# Kinds of clauses

The clauses that are built from expressions, and the parts of a statement in the order in which
they are written.
-/

namespace StreamQuery

inductive ClauseKind where
  | select
  | filter
  | groupBy
  | having
  | join
  | window
  | projection
  | orderBy
deriving DecidableEq

namespace ClauseKind

def name : ClauseKind → String
  | .select => "Select"
  | .filter => "Where"
  | .groupBy => "GroupBy"
  | .having => "Having"
  | .join => "Join"
  | .window => "Window"
  | .projection => "Projection"
  | .orderBy => "OrderBy"

def all : List ClauseKind :=
  [.select, .filter, .groupBy, .having, .join, .window, .projection, .orderBy]

end ClauseKind

inductive Part where
  | select
  | source
  | join
  | filter
  | window
  | groupBy
  | having
  | orderBy
  | limit
  | emit
deriving DecidableEq

namespace Part

/-- The position of a part in a statement. -/
def rank : Part → Nat
  | .select => 0
  | .source => 1
  | .join => 2
  | .filter => 3
  | .window => 4
  | .groupBy => 5
  | .having => 6
  | .orderBy => 7
  | .limit => 8
  | .emit => 9

def name : Part → String
  | .select => "Select"
  | .source => "From"
  | .join => "Join"
  | .filter => "Where"
  | .window => "Window"
  | .groupBy => "GroupBy"
  | .having => "Having"
  | .orderBy => "OrderBy"
  | .limit => "Limit"
  | .emit => "EmitChanges"

def keyword : Part → String
  | .select => "SELECT"
  | .source => "FROM"
  | .join => "JOIN"
  | .filter => "WHERE"
  | .window => "WINDOW"
  | .groupBy => "GROUP BY"
  | .having => "HAVING"
  | .orderBy => "ORDER BY"
  | .limit => "LIMIT"
  | .emit => "EMIT"

def all : List Part :=
  [.select, .source, .join, .filter, .window, .groupBy, .having, .orderBy, .limit, .emit]

end Part

end StreamQuery
