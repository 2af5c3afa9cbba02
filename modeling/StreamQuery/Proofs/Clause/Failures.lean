import StreamQuery.Clause.Builders
import StreamQuery.Proofs.Lowering.Failures

/-!
# Failures of clauses

The builder of a clause fails at a root, as lowering does. It is the generator that then wraps the
failure, once, with the name of the clause.
-/

namespace StreamQuery

open Failure

theorem FilterClause.isRoot_of_build (predicate : Expr) (context : Context) :
    FailsOnly IsRoot (build predicate context) := by
  refine (Expr.isRoot_of_lower _ _ predicate).bind fun condition _ => ?_
  split
  · exact .error trivial
  · exact .ok _

theorem HavingClause.isRoot_of_build (predicate : Expr) (context : Context) :
    FailsOnly IsRoot (build predicate context) :=
  (Expr.isRoot_of_lower _ _ predicate).map

theorem SelectClause.isRoot_of_build (selector : Expr) (context : Context) :
    FailsOnly IsRoot (build selector context) := by
  have hprojections : ∀ rules e, FailsOnly IsRoot (projections rules e) := by
    intro rules e
    unfold projections
    split
    · refine .mapM ?_
      rintro ⟨⟨name, value⟩, index⟩ -
      exact (Expr.isRoot_of_lower _ _ value).map
    · exact (Expr.isRoot_of_lower _ _ _).map
  refine (hprojections _ _).bind fun columns _ => FailsOnly.map ?_
  unfold validate
  split
  · exact .error trivial
  · exact .ok _

namespace GroupByClause

theorem isRoot_of_keys (selector : Expr) (context : Context) :
    FailsOnly IsRoot (keys selector context) := by
  unfold keys
  split
  · exact .error trivial
  · refine FailsOnly.bind (.forM ?_) fun _ _ => FailsOnly.bind ?_ fun list _ => ?_
    · intro name _
      unfold checkMethod
      split
      · exact .error trivial
      split
      · exact .ok _
      · exact .error trivial
    · refine .mapM ?_
      rintro ⟨name, leaf⟩ -
      refine FailsOnly.map ?_
      unfold keyColumn
      split
      · exact .error trivial
      · exact .error trivial
      · exact (Expr.isRoot_of_lower _ _ _).map
    · split
      · exact .error trivial
      · exact .ok _

theorem isRoot_of_build (selector : Expr) (context : Context) :
    FailsOnly IsRoot (build selector context) :=
  (isRoot_of_keys selector context).map

end GroupByClause

namespace JoinClause

theorem isRoot_of_keyColumns (rules : LoweringRules) (selector : Expr) :
    FailsOnly IsRoot (keyColumns rules selector) := by
  fun_induction keyColumns rules selector with
  | case1 params body ih => exact ih
  | case2 operand type ih => exact ih
  | case3 operand type ih => exact ih
  | case4 members =>
      refine .mapM ?_
      rintro ⟨name, value⟩ -
      exact (Expr.isRoot_of_lower _ _ value).map
  | case5 other => exact (Expr.isRoot_of_lower _ _ _).map

theorem isRoot_of_analyze (call : Expr) (context : Context) :
    FailsOnly IsRoot (analyze call context) := by
  unfold analyze
  split
  · split
    · unfold analyzeArgs
      refine FailsOnly.bind ?_ fun _ _ => (isRoot_of_keyColumns _ _).bind fun _ _ =>
        (isRoot_of_keyColumns _ _).bind fun _ _ => ?_
      · unfold innerName
        split
        · exact .ok _
        · exact .error trivial
      · split
        · exact .error trivial
        · exact (SelectClause.isRoot_of_build _ _).map
    · exact .error trivial
  · exact .error trivial

theorem isRoot_of_build (call : Expr) (context : Context) :
    FailsOnly IsRoot (build call context) :=
  (isRoot_of_analyze call context).map

end JoinClause

namespace OrderByClause

theorem isRoot_of_term (rules : LoweringRules) (key : Expr) (direction : SortDirection) :
    FailsOnly IsRoot (term rules key direction) := by
  unfold term
  split
  · exact .error trivial
  · exact (Expr.isRoot_of_lower _ _ key).map

theorem isRoot_of_terms (rules : LoweringRules) (ordering : Expr) :
    FailsOnly IsRoot (terms rules ordering) := by
  fun_induction terms rules ordering with
  | case1 name receiver key type method hmethod ih =>
      refine ih.bind fun earlier _ => ?_
      unfold extend
      split
      · exact (isRoot_of_term _ _ _).map
      split
      · exact .error trivial
      · exact (isRoot_of_term _ _ _).map
  | case2 => exact .ok _
  | case3 params body => exact (isRoot_of_term _ _ _).map
  | case4 => exact .ok _

theorem isRoot_of_build (ordering : Expr) (context : Context) :
    FailsOnly IsRoot (build ordering context).result := by
  refine .report_bind (isRoot_of_terms _ ordering) fun list _ => ?_
  split
  · exact .error trivial
  · exact .ok _

end OrderByClause

namespace WindowClause

theorem isRoot_of_spec (argument : Expr) : FailsOnly IsRoot (spec argument) := by
  fun_induction spec argument with
  | case1 params body ih => exact ih
  | case2 => exact .ok _
  | case3 => exact .ok _
  | case4 => exact .error trivial
  | case5 receiver argument type hnested ih => exact ih
  | case6 => exact .error trivial
  | case7 => exact .error trivial

theorem isRoot_of_checkSpan (span : WindowSpan) (value : Duration) :
    FailsOnly IsRoot (checkSpan span value) := by
  unfold checkSpan
  split
  · exact .error trivial
  split
  · exact .error trivial
  split
  · exact .error trivial
  · exact .ok _

theorem isRoot_of_checkAllowance (allowance : WindowAllowance) (value : Option Duration) :
    FailsOnly IsRoot (checkAllowance allowance value) := by
  unfold checkAllowance
  split
  · exact .error trivial
  · exact .ok _

theorem isRoot_of_checkSized (kind : WindowKind) (spec : WindowSpec) :
    FailsOnly IsRoot (checkSized kind spec).result := by
  unfold checkSized
  split
  · exact .error trivial
  · refine .report_bind (isRoot_of_checkSpan _ _) fun _ _ => ?_
    split
    · exact .ok _
    · refine .report_bind (isRoot_of_checkSpan _ _) fun _ _ => ?_
      split <;> exact .ok _

theorem isRoot_of_checkSession (spec : WindowSpec) :
    FailsOnly IsRoot (checkSession spec).result := by
  unfold checkSession
  split
  · exact .error trivial
  · refine .report_bind (isRoot_of_checkSpan _ _) fun _ _ => ?_
    dsimp only
    split <;> split <;> exact .ok _

theorem isRoot_of_validate (spec : WindowSpec) : FailsOnly IsRoot (validate spec).result := by
  have hallowances : ∀ kind, FailsOnly IsRoot
      (do checkAllowance .retention spec.retention
          checkAllowance .gracePeriod spec.gracePeriod
          return kind : Report WindowKind).result := by
    intro kind
    exact .report_bind (isRoot_of_checkAllowance _ _) fun _ _ =>
      .report_bind (isRoot_of_checkAllowance _ _) fun _ _ => .ok kind
  unfold validate
  split
  · exact .error trivial
  · split
    · exact .report_bind (isRoot_of_checkSession spec) fun _ _ => hallowances _
    · exact .report_bind (isRoot_of_checkSized _ spec) fun _ _ => hallowances _

theorem isRoot_of_build (argument : Expr) : FailsOnly IsRoot (build argument).result :=
  .report_bind (isRoot_of_spec argument) fun window _ =>
    .report_bind (isRoot_of_validate window) fun _ _ => .ok _

end WindowClause

theorem ClauseKind.isRoot_of_build? {kind : ClauseKind} {builder : Expr → Context → Report String}
    (hbuilder : kind.build? = some builder) (e : Expr) (context : Context) :
    FailsOnly IsRoot (builder e context).result := by
  cases kind with
  | select =>
      cases hbuilder
      exact SelectClause.isRoot_of_build e context
  | filter =>
      cases hbuilder
      exact FilterClause.isRoot_of_build e context
  | groupBy =>
      cases hbuilder
      exact GroupByClause.isRoot_of_build e context
  | having =>
      cases hbuilder
      exact HavingClause.isRoot_of_build e context
  | join =>
      cases hbuilder
      exact JoinClause.isRoot_of_build e context
  | window =>
      cases hbuilder
      exact WindowClause.isRoot_of_build e
  | orderBy =>
      cases hbuilder
      exact OrderByClause.isRoot_of_build e context
  | projection => cases hbuilder

end StreamQuery
