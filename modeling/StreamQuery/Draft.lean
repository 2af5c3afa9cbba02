import StreamQuery.Expr.Text
import StreamQuery.Failure
import StreamQuery.Text.Blank

/-!
# Drafts of statements

A draft collects clauses in any order. It is written in the order of the parts of a statement, and
blank clauses are left out.
-/

namespace StreamQuery

structure Clause where
  part : Part
  content : String
  required : Bool := false
  /-- The text of the expression that the clause was built from. -/
  source : Option String := none
deriving DecidableEq

namespace Clause

def isBlank (clause : Clause) : Bool :=
  Text.trim clause.content = ""

def text (clause : Clause) : String :=
  clause.part.keyword ++ " " ++ Text.trim clause.content

def ofExpr (part : Part) (content : String) (required : Bool) (e : Expr) : Clause :=
  { part, content, required, source := some e.text }

end Clause

inductive StatementKind where
  | select
  | createStreamAs (name : String)
  | createTableAs (name : String)
deriving DecidableEq

namespace StatementKind

/-- What stands before the query. -/
def opening : StatementKind → String
  | .select => ""
  | .createStreamAs name => "CREATE STREAM " ++ name ++ " AS "
  | .createTableAs name => "CREATE TABLE " ++ name ++ " AS "

def category : StatementKind → String
  | .select => "DML"
  | .createStreamAs _ => "DDL"
  | .createTableAs _ => "DDL"

end StatementKind

structure Draft where
  kind : StatementKind
  base : String
  clauses : List Clause := []

namespace Draft

def add (draft : Draft) (clause : Clause) : Draft :=
  { draft with clauses := draft.clauses ++ [clause] }

def addAll (draft : Draft) (clauses : List Clause) : Draft :=
  { draft with clauses := draft.clauses ++ clauses }

/-- The first clause of a part. -/
def find? (draft : Draft) (part : Part) : Option Clause :=
  draft.clauses.find? (·.part = part)

def contains (draft : Draft) (part : Part) : Bool :=
  (draft.find? part).isSome

/-- The clause that tells when rows are sent. -/
def emitClause (final : Bool) : Clause :=
  { part := .emit, content := if final then "FINAL" else "CHANGES", required := true }

/-- The clauses that are written, in the order of their parts. -/
def ordered (clauses : List Clause) : List Clause :=
  (clauses.filter (!·.isBlank)).mergeSort (·.part.rank ≤ ·.part.rank)

def render (draft : Draft) : Except Failure String :=
  match draft.clauses.find? fun clause => clause.required && clause.isBlank with
  | some clause => .error (.assembly (.emptyRequired clause.part))
  | none =>
    match ordered draft.clauses with
    | [] => .error (.assembly .noClauses)
    | clauses => .ok (draft.kind.opening ++ String.intercalate " " (clauses.map (·.text)))

end Draft

end StreamQuery
