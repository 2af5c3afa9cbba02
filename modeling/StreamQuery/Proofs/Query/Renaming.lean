import Mathlib.Logic.Equiv.Basic
import StreamQuery.Expr.Fluent
import StreamQuery.Proofs.Clause.Renaming
import StreamQuery.Proofs.Query.Alike

/-!
# Queries under other parameter names

A query is a statement about streams and tables, whatever its lambdas call their parameters.
Renaming them renames the stages of the chain one by one, and each stage builds as before.
-/

namespace StreamQuery

variable {rename : String → String}

def Stage.renamed (rename : String → String) : Stage → Stage
  | .filter predicate => .filter (predicate.renamed rename)
  | .select selector => .select (selector.renamed rename)
  | .groupBy key => .groupBy (key.renamed rename)
  | .having predicate => .having (predicate.renamed rename)
  | .orderBy call key method => .orderBy (call.renamed rename) (key.renamed rename) method
  | .window argument => .window (argument.renamed rename)
  | .take count => .take count
  | .join call => .join (call.renamed rename)

namespace Chain

def renamed (rename : String → String) (chain : Chain) : Chain :=
  { chain with stages := chain.stages.map (Stage.renamed rename) }

theorem argument_renamed (rename : String → String) (name : String) (args : List Expr) :
    argument name (args.map (Expr.renamed rename)) =
      do return (← argument name args).renamed rename := by
  match args with
  | [] | [_] | _ :: _ :: _ => rfl

theorem takeCount_renamed (rename : String → String) (name : String) (e : Expr) :
    takeCount name (e.renamed rename) = takeCount name e := by
  cases e <;> rfl

theorem stageOf_renamed (rename : String → String) (name : String) (args : List Expr)
    (type : DataType) :
    stageOf name (args.map (Expr.renamed rename)) type =
      do return (← stageOf name args type).map (Stage.renamed rename) := by
  have hcall : Expr.staticCall name (args.map (Expr.renamed rename)) type =
      (Expr.staticCall name args type).renamed rename := by
    unfold Expr.renamed
    rw [Expr.mapLeaves, Expr.mapArgs_eq_map]
  let rest (stage : Option Stage) : Except Failure (Option Stage) :=
    pure (stage.map (Stage.renamed rename))
  have hbranch : ∀ (c : Prop) [Decidable c] {x y x' y' : Except Failure (Option Stage)},
      x' = x >>= rest → y' = y >>= rest →
        (if c then x' else y') = (if c then x else y) >>= rest := by
    intro c _ x y x' y' hx hy
    by_cases hc : c
    · rw [if_pos hc, if_pos hc, hx]
    · rw [if_neg hc, if_neg hc, hy]
  have htake : ∀ count : Except Failure Nat,
      (do return some (Stage.take (← count))) =
        (do return some (Stage.take (← count))) >>= rest := by
    intro count
    cases count <;> rfl
  change _ = stageOf name args type >>= rest
  unfold stageOf
  rw [argument_renamed, List.length_map, hcall]
  -- Each stage reads the argument after the receiver, or the call as a whole.
  generalize argument name args = argument
  refine hbranch _ ?_ (hbranch _ ?_ (hbranch _ ?_ (hbranch _ ?_ (hbranch _ ?_
    (hbranch _ (hbranch _ rfl rfl) (hbranch _ ?_ ?_))))))
  · cases argument <;> rfl
  · cases argument <;> rfl
  · cases argument <;> rfl
  · cases argument <;> rfl
  · cases argument <;> rfl
  · cases argument with
    | error failure => rfl
    | ok count =>
        exact (congrArg (fun count => do return some (Stage.take (← count)))
          (takeCount_renamed rename name count)).trans (htake (takeCount name count))
  · cases OrderingMethod.find? name with
    | some method => cases argument <;> rfl
    | none => exact hbranch _ rfl rfl

theorem push_renamed (rename : String → String) (chain : Chain) (stage : Option Stage) :
    (chain.renamed rename).push (stage.map (Stage.renamed rename)) =
      (chain.push stage).renamed rename := by
  cases stage <;> simp [push, renamed]

theorem classify_renamed (rename : String → String) (e : Expr) :
    classify (e.renamed rename) = do return (← classify e).renamed rename := by
  induction e with
  | lambda params body ih => exact ih
  | staticCall name args type ih =>
      cases args with
      | nil => rfl
      | cons receiver args =>
          have hreceiver := ih receiver List.mem_cons_self
          have hstage := stageOf_renamed rename name (receiver :: args) type
          unfold Expr.renamed at hreceiver hstage ⊢
          rw [List.map_cons] at hstage
          rw [Expr.mapLeaves, Expr.mapArgs_eq_map, List.map_cons, classify, classify, hreceiver,
            hstage]
          cases classify receiver with
          | error failure => rfl
          | ok chain =>
              cases stageOf name (receiver :: args) type with
              | error failure => rfl
              | ok stage => exact congrArg Except.ok (push_renamed rename chain stage)
  | _ => rfl

end Chain

namespace Stages

def renamed (rename : String → String) (stages : Stages) : Stages where
  filters := stages.filters.map (Expr.renamed rename)
  select := stages.select.map (Expr.renamed rename)
  groupBy := stages.groupBy.map (Expr.renamed rename)
  having := stages.having.map (Expr.renamed rename)
  ordering := stages.ordering.map (Expr.renamed rename)
  window := stages.window.map (Expr.renamed rename)
  take := stages.take
  join := stages.join.map (Expr.renamed rename)

theorem push_renamed (rename : String → String) (stages : Stages) (stage : Stage) :
    (stages.renamed rename).push (stage.renamed rename) =
      do return (← stages.push stage).renamed rename := by
  obtain ⟨filters, select, groupBy, having, ordering, window, take, join⟩ := stages
  cases stage with
  | filter predicate =>
      have hfilters : (filters ++ [predicate]).map (Expr.renamed rename) =
          filters.map (Expr.renamed rename) ++ [predicate.renamed rename] :=
        List.map_append
      exact congrArg (fun filters => Except.ok { renamed rename _ with filters }) hfilters.symm
  | select selector => cases select <;> rfl
  | groupBy key => cases groupBy <;> rfl
  | having predicate => cases having <;> rfl
  | orderBy call key method => rfl
  | window argument => cases window <;> rfl
  | take count => rfl
  | join call => cases join <;> rfl

theorem foldlM_push_renamed (rename : String → String) (list : List Stage) (stages : Stages) :
    (list.map (Stage.renamed rename)).foldlM push (stages.renamed rename) =
      do return (← list.foldlM push stages).renamed rename := by
  induction list generalizing stages with
  | nil => rfl
  | cons stage rest ih =>
      rw [List.map_cons, List.foldlM_cons, List.foldlM_cons, push_renamed]
      cases stages.push stage with
      | error failure => rfl
      | ok next => exact ih next

theorem ofChain_chainRenamed (rename : String → String) (chain : Chain) :
    ofChain (chain.renamed rename) = do return (← ofChain chain).renamed rename :=
  foldlM_push_renamed rename chain.stages {}

theorem predicate?_renamed (rename : String → String) (stages : Stages) :
    (stages.renamed rename).predicate? = stages.predicate?.map (Expr.renamed rename) := by
  have hfold : ∀ (rest : List Expr) (first : Expr),
      (rest.map (Expr.renamed rename)).foldl (.binary .andAlso) (first.renamed rename) =
        (rest.foldl (.binary .andAlso) first).renamed rename := by
    intro rest
    induction rest with
    | nil => exact fun first => rfl
    | cons next rest ih => exact fun first => ih (.binary .andAlso first next)
  have hstrip : (stages.filters.map (Expr.renamed rename)).map (·.stripLambda) =
      (stages.filters.map (·.stripLambda)).map (Expr.renamed rename) := by
    rw [List.map_map, List.map_map]
    exact List.map_congr_left fun e _ => Expr.stripLambda_mapLeaves id rename e
  unfold predicate?
  rw [renamed, hstrip]
  cases stages.filters.map (·.stripLambda) with
  | nil => rfl
  | cons first rest => exact congrArg some (hfold rest first)

/-- Renamed stages build as before. -/
theorem alike_renamed (hrename : Function.Injective rename) (stages : Stages) :
    (stages.renamed rename).Alike stages := by
  have hrel : ∀ {R : Expr → Expr → Prop} (slot : Option Expr),
      (∀ e, R (e.renamed rename) e) → Option.Rel R (slot.map (Expr.renamed rename)) slot := by
    intro R slot hR
    cases slot with
    | none => exact .none
    | some e => exact .some (hR e)
  constructor
  · refine hrel stages.groupBy fun key => ⟨?_, fun context hcontext => ?_⟩
    · rintro builder hbuilder context hcontext
      obtain rfl := Option.some.inj hbuilder
      exact congrArg Report.ofExcept (GroupByClause.build_renamed rename hcontext key)
    · exact GroupByClause.groupKeys_renamed rename hcontext key
  · exact hrel stages.join fun call context _ => JoinClause.analyze_renamed hrename context call
  · refine hrel stages.select fun selector builder hbuilder context hcontext => ?_
    obtain rfl := Option.some.inj hbuilder
    exact congrArg Report.ofExcept
      (SelectClause.build_renamed (.of_no_aliases rename hcontext) selector)
  · rw [predicate?_renamed]
    refine hrel stages.predicate? fun predicate builder hbuilder context hcontext => ?_
    obtain rfl := Option.some.inj hbuilder
    exact congrArg Report.ofExcept (FilterClause.build_renamed rename hcontext predicate)
  · refine hrel stages.window fun argument builder hbuilder context hcontext => ?_
    obtain rfl := Option.some.inj hbuilder
    exact WindowClause.build_renamed rename argument
  · refine hrel stages.having fun predicate builder hbuilder context hcontext => ?_
    obtain rfl := Option.some.inj hbuilder
    exact congrArg Report.ofExcept (HavingClause.build_renamed rename hcontext predicate)
  · refine hrel stages.ordering fun ordering builder hbuilder context hcontext => ?_
    obtain rfl := Option.some.inj hbuilder
    exact OrderByClause.build_renamed rename hcontext ordering
  · rfl

end Stages

namespace Query

/-- What a query calls its parameters shows neither in its statement nor in its failure, nor in the
notices on the way. -/
theorem ofChain_renamed (builders : Builders) (source : String) (e : Expr) (mode : ExecutionMode)
    (rename : String → String) (hrename : Function.Injective rename) :
    ofChain builders source (e.renamed rename) mode = ofChain builders source e mode := by
  refine ofChain_congr ?_
  rw [Chain.classify_renamed]
  cases Chain.classify e with
  | error failure => exact .error failure
  | ok chain =>
      refine .ok ?_
      rw [Stages.ofChain_chainRenamed]
      cases Stages.ofChain chain with
      | error failure => exact .error failure
      | ok stages => exact .ok (stages.alike_renamed hrename)

/-- Paid orders with the names of their customers, grouped by both, the largest groups first. -/
def paidByCustomer : Expr :=
  let order := Expr.parameter "o" .unknown
  let customer := Expr.parameter "c" .unknown
  let paid := Expr.lambda ["o"] (.member order "Paid" .bool)
  let customerOfOrder := Expr.lambda ["o"] (.member order "CustomerId" .int)
  let idOfCustomer := Expr.lambda ["c"] (.member customer "Id" .int)
  let both := Expr.lambda ["o", "c"] (.object [(none, .member order "Region" .string),
    (some "Customer", .member customer "Name" .string), (none, .parameter "o" .unknown)])
  ((((Expr.source "orders").filter paid).join (.source "customers") customerOfOrder idOfCustomer
    both).groupBy (.lambda ["c"] (.member customer "Region" .string))).orderByDescending
    (.lambda ["o"] (.member order "Key" .unknown))

/-- With the names of the two parameters exchanged, each column keeps its side of the join. -/
theorem ofChain_renamed_paidByCustomer :
    (ofChain .standard "orders" (paidByCustomer.renamed (Equiv.swap "o" "c")) .push).result =
      .ok ("SELECT o.Region AS Region, i.Name AS Customer, o.* AS col2 FROM orders o " ++
        "JOIN customers i ON o.CustomerId = i.Id WHERE (Paid = true) GROUP BY Region " ++
        "ORDER BY Region DESC EMIT CHANGES") := by
  rw [ofChain_renamed .standard "orders" paidByCustomer .push (Equiv.swap "o" "c")
    (Equiv.injective _)]
  exact result_ofChain_of_inOrder? (by decide +kernel)

end Query

end StreamQuery
