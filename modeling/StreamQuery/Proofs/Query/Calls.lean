import StreamQuery.Proofs.Query.Steps

/-!
# Reading a query back

A query that is written call by call is read back as it was written: its chain has one stage for
each step, in the order in which the steps were taken, and the steps can be read off the stages
again. A call of a method that no chain knows is refused, and of several such calls the innermost is
named.
-/

namespace StreamQuery

/-- The methods that a chain can be made of. -/
def Chain.knownMethods : List String :=
  ["Where", "Select", "GroupBy", "Having", "Window", "Join", "Take", "Limit", "OrderBy",
    "OrderByDescending", "ThenBy", "ThenByDescending"] ++ passThroughMethods

theorem Chain.stageOf_foreign {method : String} (h : method ∉ knownMethods) (args : List Expr)
    (type : DataType) : stageOf method args type = .error (.unsupported (.chainMethod method)) := by
  simp only [knownMethods, List.mem_append, List.mem_cons, List.not_mem_nil, or_false,
    not_or] at h
  simp [stageOf, OrderingMethod.find?, h]

/-- A call on a query: a step, or a method that no chain knows. -/
inductive Call where
  | known (step : Step)
  | foreign (method : String) (args : List Expr) (unknown : method ∉ Chain.knownMethods)

namespace Call

/-- The query after the call. -/
def apply (query : Expr) : Call → Expr
  | .known step => step.apply query
  | .foreign method args _ => query.extend method args

def step? : Call → Option Step
  | .known step => some step
  | .foreign .. => none

def foreign? : Call → Option String
  | .known _ => none
  | .foreign method _ _ => some method

/-- The steps among the calls. -/
def steps (calls : List Call) : List Step :=
  calls.filterMap step?

/-- The query that makes the calls on a stream or table, the innermost call first. -/
def query (source : String) (calls : List Call) : Expr :=
  calls.foldl apply (.source source)

theorem exists_extend (query : Expr) (call : Call) :
    ∃ method args, call.apply query = query.extend method args := by
  cases call with
  | foreign method args unknown => exact ⟨method, args, rfl⟩
  | known step =>
      cases step with
      | orderBy method key =>
          obtain ⟨direction, restart⟩ := method
          cases direction <;> cases restart <;> exact ⟨_, _, rfl⟩
      | _ => exact ⟨_, _, rfl⟩

/-- What keeps a query from being read keeps every longer query from it. -/
theorem classify_foldl_apply_error (calls : List Call) {query : Expr} {failure : Failure}
    (h : Chain.classify query = .error failure) :
    Chain.classify (calls.foldl apply query) = .error failure := by
  induction calls generalizing query with
  | nil => exact h
  | cons call rest ih =>
      refine ih ?_
      obtain ⟨method, args, hcall⟩ := exists_extend query call
      rw [hcall, Expr.extend, Chain.classify, h]
      rfl

/-- Calls on a query that can be read: its stages and those of the steps, or the first failure. -/
theorem classify_foldl_apply (calls : List Call) {query : Expr} {chain : Chain}
    (h : Chain.classify query = .ok chain) :
    Chain.classify (calls.foldl apply query) =
      (calls.findSome? foreign?).elim
        (.ok { chain with stages := chain.stages ++ Step.stages query (steps calls) })
        fun method => .error (.unsupported (.chainMethod method)) := by
  induction calls generalizing query chain with
  | nil => simpa [steps, Step.stages] using h
  | cons call rest ih =>
      cases call with
      | known step =>
          have hforeign : (known step :: rest).findSome? foreign? = rest.findSome? foreign? := rfl
          have hsteps : steps (known step :: rest) = step :: steps rest := rfl
          rw [List.foldl_cons, apply, ih (Step.classify_apply h step), hforeign, hsteps,
            Step.stages, Chain.push, List.append_assoc]
      | foreign method args unknown =>
          refine classify_foldl_apply_error rest ?_
          rw [apply, Expr.extend, Chain.classify, h, Chain.stageOf_foreign unknown]
          rfl

end Call

/-- The step that a stage came from. -/
def Stage.step? : Stage → Option Step
  | .filter predicate => some (.filter predicate)
  | .select selector => some (.select selector)
  | .groupBy key => some (.groupBy key)
  | .having predicate => some (.having predicate)
  | .orderBy _ key method => some (.orderBy method key)
  | .window (.constant (.window settings)) => some (.window settings)
  | .window (.constant (.duration size)) => some (.windowOf size)
  | .take count => some (.take count)
  | .join (.staticCall _ [_, inner, outerKey, innerKey, result] _) =>
    some (.join inner outerKey innerKey result)
  | _ => none

namespace Step

/-- Whether the step stands for a stage. -/
def isStage (step : Step) : Bool :=
  step.kind?.isSome

theorem filterMap_stage? (query : Expr) (step : Step) :
    (step.stage? query).toList.filterMap Stage.step? = [step].filter isStage := by
  cases step <;> rfl

theorem filterMap_stages (query : Expr) (steps : List Step) :
    (stages query steps).filterMap Stage.step? = steps.filter isStage := by
  induction steps generalizing query with
  | nil => rfl
  | cons step rest ih =>
      rw [stages, List.filterMap_append, filterMap_stage?, ih, ← List.filter_append,
        List.singleton_append]

end Step

/-- Reading a query undoes writing it. Its chain has the source and the stages of its steps, each of
which tells the step that it came from; only steps that leave a query as it is have no stage. Calls
of methods that no chain knows are refused, wherever they stand, and the innermost is named. -/
theorem Chain.classify_calls (source : String) (calls : List Call) :
    classify (Call.query source calls) =
      (calls.findSome? Call.foreign?).elim
        (.ok { source := some source, stages := Step.stages (.source source) (Call.steps calls) })
        (fun method => .error (.unsupported (.chainMethod method))) ∧
    (Step.stages (.source source) (Call.steps calls)).filterMap Stage.step? =
      (Call.steps calls).filter Step.isStage := by
  have hsource : classify (.source source) = .ok { source := some source } := rfl
  exact ⟨Call.classify_foldl_apply calls hsource, Step.filterMap_stages _ _⟩

/-- A join is one stage, with no trace of the chain on its inner side. -/
example (key result : Expr) :
    Chain.classify (((Expr.source "orders").take 5).join ((Expr.source "customers").take 3) key key
        result) =
      .ok ⟨some "orders", [.take 5, .join (((Expr.source "orders").take 5).join
        ((Expr.source "customers").take 3) key key result)]⟩ :=
  rfl

end StreamQuery
