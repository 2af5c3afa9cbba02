import StreamQuery.Query
import StreamQuery.Schema

/-!
# Programs over the model creation scope

Lists of steps that enter and leave the scope, ask for it, and define streams and tables. A guard
belongs to the list that entered it and is given back when the list ends.
-/

namespace StreamQuery

inductive ScopeStep where
  | check
  | enter
  | leave
  | ensure (operation : String)
  | createAs (kind : ObjectKind) (name base : String) (query : Expr)
  /-- Steps under a guard. -/
  | within (steps : List ScopeStep)
  /-- Steps in a task with a scope of its own. -/
  | run (steps : List ScopeStep)
  /-- Steps in a task without one. -/
  | task (steps : List ScopeStep)
  /-- Steps on another thread, which starts outside of any scope. -/
  | thread (steps : List ScopeStep)
  /-- Two tasks on one thread that take turns, the first in a scope of its own. -/
  | interleave (inside outside : List ScopeStep)

inductive ScopeResult where
  | done
  | left (hadGuard : Bool)
  | ensured (result : Except Failure Unit)
  | statement (result : Except Failure String)
  | steps (answers : List (Bool × ScopeResult))
  | turns (inside outside : List (Bool × ScopeResult))

namespace ScopeStep

/-- Whether the scope is active after a step, and the result of the step. -/
abbrev Answer := Bool × ScopeResult

/-- The scope of the running thread and task, and how many of the guards the current list holds. -/
structure Holding where
  scope : Scope
  own : Nat := 0

/-- The scope once the guards of the current list are given back. -/
def Holding.release (holding : Holding) : Scope :=
  { holding.scope with depth := holding.scope.depth - holding.own }

structure Effect (α : Type) where
  notices : List Notice
  holding : Holding
  value : α

/-- What a step does in the scope that it finds. -/
abbrev Action := Holding → Effect ScopeResult

def perform (action : Action) (holding : Holding) : Effect Answer :=
  let effect := action holding
  ⟨effect.notices, effect.holding, (effect.holding.scope.isActive, effect.value)⟩

def performAll : List Action → Holding → Effect (List Answer)
  | [], holding => ⟨[], holding, []⟩
  | action :: rest, holding =>
    let first := perform action holding
    let others := performAll rest first.holding
    ⟨first.notices ++ others.notices, others.holding, first.value :: others.value⟩

/-- Two lists that take turns, a step each. They share the depth of the thread, and a list that has
ended gives back its guards when it would be its turn again. -/
def performTurns : List Action → List Action → Holding → Holding →
    Effect (List Answer × List Answer)
  | [], outside, first, second =>
    let second := { second with scope.depth := first.release.depth }
    let others := performAll outside second
    ⟨others.notices, ⟨others.holding.release, 0⟩, ([], others.value)⟩
  | action :: rest, [], first, second =>
    let turn := perform action first
    let second := { second with scope.depth := turn.holding.scope.depth }
    let first := { turn.holding with scope.depth := second.release.depth }
    let others := performAll rest first
    ⟨turn.notices ++ others.notices, ⟨others.holding.release, 0⟩, (turn.value :: others.value, [])⟩
  | action :: rest, other :: outside, first, second =>
    let turn := perform action first
    let reply := perform other { second with scope.depth := turn.holding.scope.depth }
    let first := { turn.holding with scope.depth := reply.holding.scope.depth }
    let others := performTurns rest outside first reply.holding
    ⟨turn.notices ++ reply.notices ++ others.notices, others.holding,
      (turn.value :: others.value.1, reply.value :: others.value.2)⟩

/-- Runs a list and gives back its guards. -/
def runList (actions : List Action) (scope : Scope) : (List Notice × List Answer) × Scope :=
  let effect := performAll actions { scope }
  ((effect.notices, effect.value), effect.holding.release)

/-- Runs a nested list on the thread of the list around it. -/
def nested (run : Scope → (List Notice × List Answer) × Scope) (holding : Holding) :
    Effect ScopeResult :=
  let result := run holding.scope
  ⟨result.1.1, { holding with scope := result.2 }, .steps result.1.2⟩

def createStatement (registry : Registry) (kind : ObjectKind) (scope : Scope) (name base : String)
    (query : Expr) : Report String :=
  match kind with
  | .stream => Query.createStreamAs registry scope name base query
  | .table => Query.createTableAs registry scope name base query

mutual

def action : ScopeStep → Action
  | .check, holding => ⟨[], holding, .done⟩
  | .enter, holding => ⟨[], ⟨holding.scope.enter, holding.own + 1⟩, .done⟩
  | .leave, holding =>
    if holding.own = 0 then ⟨[], holding, .left false⟩
    else ⟨[], ⟨holding.scope.leave, holding.own - 1⟩, .left true⟩
  | .ensure operation, holding =>
    let report := holding.scope.ensureActive operation
    ⟨report.notices, holding, .ensured report.result⟩
  | .createAs kind name base query, holding =>
    let report := createStatement .standard kind holding.scope name base query
    ⟨report.notices, holding, .statement report.result⟩
  | .within steps, holding => nested (Scope.within (runList (actions steps))) holding
  | .run steps, holding =>
    let inTask (scope : Scope) :=
      let result := runList (actions steps) { scope with inTask := true }
      (result.1, { result.2 with inTask := scope.inTask })
    nested inTask holding
  | .task steps, holding => nested (runList (actions steps)) holding
  | .thread steps, holding => nested (fun scope => ((runList (actions steps) {}).1, scope)) holding
  | .interleave inside outside, holding =>
    let effect := performTurns (actions inside) (actions outside)
      { scope := { holding.scope with inTask := true } } { scope := holding.scope }
    ⟨effect.notices, { holding with scope.depth := effect.holding.scope.depth },
      .turns effect.value.1 effect.value.2⟩

def actions : List ScopeStep → List Action
  | [] => []
  | step :: rest => step.action :: actions rest

end

/-- Runs a program outside of any scope; tells also whether the scope is active after it. -/
def runProgram (steps : List ScopeStep) : List Notice × List Answer × Bool :=
  let effect := performAll (actions steps) { scope := {} }
  (effect.notices, effect.value, effect.holding.release.isActive)

end ScopeStep

end StreamQuery
