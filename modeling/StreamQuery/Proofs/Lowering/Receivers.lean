import StreamQuery.Proofs.Lowering.References
import StreamQuery.Proofs.Sql.Shape

/-!
# The receiver of an aggregating call

An aggregating call can be made on a group or with the group as its first argument. Lowering leaves
the group out of both forms, by different rules, and the form leaves no trace in the text, since no
aggregating function has a template.
-/

namespace StreamQuery

namespace SqlFunction

theorem callTemplate?_of_isAggregate {name : String} (h : isAggregate name) (argCount : Nat)
    (onInstance : Bool) : callTemplate? name argCount onInstance = none := by
  have hcatalog : ∀ f ∈ catalog, f.aggregate → f.template = none := by
    decide +kernel
  unfold isAggregate at h
  unfold callTemplate?
  cases hfind : find? name with
  | none => rfl
  | some f =>
      rw [hfind] at h
      have htemplate := hcatalog f (List.mem_of_find?_eq_some hfind) h
      rw [Option.bind_some, template?, htemplate]
      rfl

/-- The text of an aggregating call, given the texts of its arguments. -/
def aggregateText (name : String) (args : List String) : String :=
  sqlName name ++
    if args.isEmpty && (find? name).any (·.aggregate) then "(*)"
    else "(" ++ String.intercalate ", " args ++ ")"

theorem renderCall_of_isAggregate {name : String} (h : isAggregate name) (args : List String)
    (onInstance : Bool) : renderCall name args onInstance = aggregateText name args :=
  renderCall_of_no_template (callTemplate?_of_isAggregate h args.length onInstance)

end SqlFunction

namespace Expr

/-- Whether the receiver of an aggregating call stands for the group: a parameter does, and anything
but a lambda beside a lambda that says what is aggregated. -/
def isGroup (receiver : Expr) (args : List Expr) : Bool :=
  receiver.isParameter || !receiver.isLambda && args.any isLambda

/-- The outcome of an aggregating call, said without the group that it is made on. -/
def aggregate (rules : LoweringRules) (name : String) (args : List Expr) : Except Failure String :=
  if isQueryOperator name && args.any isLambda then .error (.violation (.subquery rules.clause))
  else do
    return SqlFunction.aggregateText name (Sql.argTexts (← (lowerArgs rules args).mapM id))

end Expr

namespace LoweringRules

variable {rules : LoweringRules}

theorem skipsReceiver_cons (receiver : Expr) (args : List Expr) :
    skipsReceiver (receiver :: args) = Expr.isGroup receiver args := by
  cases receiver with
  | lambda params body => rfl
  | _ => simp [skipsReceiver, Expr.isGroup, Expr.isParameter, Expr.isLambda]

/-- An aggregating call, given the arguments that are left and those that were there. -/
theorem lowerCall_of_isAggregate {name : String} (haggregate : SqlFunction.isAggregate name)
    (target : Option (Except Failure Sql)) (args : List Expr)
    (lowered : List (Except Failure Sql)) :
    rules.lowerCall target name args lowered =
      if isQueryOperator name && args.any Expr.isLambda then
        .error (.violation (.subquery rules.clause))
      else do
        let kept := if target.isNone && skipsReceiver args then lowered.tail else lowered
        return .call name (← kept.mapM id) target.isSome := by
  unfold lowerCall
  cases target <;> simp [haggregate]

end LoweringRules

namespace Expr

/-- The text of a lowered expression, or the failure. -/
def lowerText (rules : LoweringRules) (position : Position) (e : Expr) : Except Failure String := do
  return (← e.lower rules position).text

section

variable {rules : LoweringRules} {position : Position} {name : String}
  (haggregate : SqlFunction.isAggregate name)

include haggregate

theorem lowerText_of_lower_eq {e : Expr} {args : List Expr} {onInstance : Bool}
    (h : e.lower rules position =
      if isQueryOperator name && args.any isLambda then .error (.violation (.subquery rules.clause))
      else do return .call name (← (lowerArgs rules args).mapM id) onInstance) :
    e.lowerText rules position = aggregate rules name args := by
  unfold lowerText aggregate
  rw [h]
  by_cases hquery : isQueryOperator name && args.any isLambda
  · rw [if_pos hquery, if_pos hquery]
    rfl
  · rw [if_neg hquery, if_neg hquery]
    cases (lowerArgs rules args).mapM id with
    | error failure => rfl
    | ok lowered => exact congrArg Except.ok (SqlFunction.renderCall_of_isAggregate haggregate _ _)

theorem lowerText_call (receiver : Expr) (args : List Expr) (type : DataType) :
    (Expr.call receiver name args type).lowerText rules position = aggregate rules name args := by
  apply lowerText_of_lower_eq haggregate
  rw [lower, LoweringRules.lowerCall_of_isAggregate haggregate]
  rfl

theorem lowerText_staticCall {receiver : Expr} {args : List Expr} (hgroup : isGroup receiver args)
    (type : DataType) :
    (Expr.staticCall name (receiver :: args) type).lowerText rules position =
      aggregate rules name args := by
  have hskips : LoweringRules.skipsReceiver (receiver :: args) = true := by
    rw [LoweringRules.skipsReceiver_cons]
    exact hgroup
  have hlambda : receiver.isLambda = false := by
    cases receiver with
    | lambda params body => cases hgroup
    | _ => rfl
  apply lowerText_of_lower_eq haggregate
  rw [lower, LoweringRules.lowerCall_of_isAggregate haggregate, hskips, List.any_cons, hlambda,
    Bool.false_or]
  rfl

end

/-- An aggregating call on a group and the call with the group as its first argument fail alike or
have the same text. What comes of them is said without the receiver. -/
theorem lowerText_aggregate_forms (rules : LoweringRules) (name : String)
    (haggregate : SqlFunction.isAggregate name) (receiver : Expr) (args : List Expr)
    (hgroup : receiver.isParameter ∨ receiver.isLambda = false ∧ args.any isLambda)
    (position : Position) (type type' : DataType) :
    (Expr.staticCall name (receiver :: args) type).lowerText rules position =
      aggregate rules name args ∧
    (Expr.call receiver name args type').lowerText rules position = aggregate rules name args := by
  have hgroup : isGroup receiver args := by
    simpa [isGroup] using hgroup
  exact ⟨lowerText_staticCall haggregate hgroup type, lowerText_call haggregate receiver args type'⟩

/-- The three latest amounts by the SQL name of the function, which is no method itself. -/
theorem lowerText_aggregate_forms_latest :
    let orders : Expr := .source "orders"
    let amount : Expr := .lambda ["o"] (.member (.parameter "o" .unknown) "Amount" .int)
    SqlFunction.isAggregate "latest_by_offset" ∧
    (Expr.staticCall "latest_by_offset" [orders, amount, .constant (.int 3)] .int).lowerText .select
      .value = .ok "LATEST_BY_OFFSET(Amount, 3)" ∧
    (Expr.call orders "latest_by_offset" [amount, .constant (.int 3)] .int).lowerText .select
      .value = .ok "LATEST_BY_OFFSET(Amount, 3)" := by
  intro orders amount
  have haggregate : SqlFunction.isAggregate "latest_by_offset" := by decide +kernel
  have houtcome : aggregate .select "latest_by_offset" [amount, .constant (.int 3)] =
      .ok "LATEST_BY_OFFSET(Amount, 3)" := by
    decide +kernel
  have hforms := lowerText_aggregate_forms .select "latest_by_offset" haggregate orders
    [amount, .constant (.int 3)] (Or.inr ⟨rfl, rfl⟩) .value .int .int
  rw [houtcome] at hforms
  exact ⟨haggregate, hforms⟩

end Expr

end StreamQuery
