import StreamQuery.Report

/-!
# Model creation

Some statements may be generated only while a model is being defined. A thread is inside a
definition as long as it holds a guard; a task may be inside one of its own.
-/

namespace StreamQuery

structure Scope where
  /-- The number of guards that the thread holds. -/
  depth : Nat := 0
  /-- Whether the running task is inside a definition. -/
  inTask : Bool := false
deriving DecidableEq, Inhabited

namespace Scope

def isActive (scope : Scope) : Bool :=
  0 < scope.depth || scope.inTask

def enter (scope : Scope) : Scope :=
  { scope with depth := scope.depth + 1 }

def leave (scope : Scope) : Scope :=
  { scope with depth := scope.depth - 1 }

/-- Runs `body` under a guard, which is given back however the body ends. -/
def within {α : Type} (body : Scope → α × Scope) (scope : Scope) : α × Scope :=
  let result := body scope.enter
  (result.1, result.2.leave)

def ensureActive (scope : Scope) (operation : String) : Report Unit :=
  if scope.isActive then pure ()
  else do
    Report.notify (.outsideScope operation)
    throw (.outsideScope operation)

end Scope

end StreamQuery
