import StreamQuery.Proofs.Query.Alike
import StreamQuery.Proofs.Query.Failures

/-!
# Chains that differ in their orderings

Chains whose stages are similar ask for the same clauses, and build them alike except for the
ordering. Next to a chain that is accepted, a similar one can only fail in its ordering.
-/

namespace StreamQuery

namespace Stage

/-- Stages that build alike, where orderings may differ in the calls that they are read from. -/
inductive Similar : Stage → Stage → Prop
  | same (stage : Stage) : Similar stage stage
  | orderBy (call call' key : Expr) (method : OrderingMethod) :
    Similar (.orderBy call key method) (.orderBy call' key method)
  | join {call call' : Expr}
    (h : ∀ context, JoinClause.analyze call context = JoinClause.analyze call' context) :
    Similar (.join call) (.join call')

theorem Similar.groupKey?_eq {stage stage' : Stage} (h : Similar stage stage') :
    stage'.groupKey? = stage.groupKey? := by
  cases h <;> rfl

end Stage

namespace Chain

theorem similar_refl (stages : List Stage) : List.Forall₂ Stage.Similar stages stages := by
  induction stages with
  | nil => exact .nil
  | cons stage rest ih => exact .cons (.same stage) ih

theorem innerContext_of_similar {chain chain' : Chain}
    (h : List.Forall₂ Stage.Similar chain.stages chain'.stages) (context : Context) :
    chain'.innerContext context = chain.innerContext context := by
  have hkeys : chain'.groupKeys = chain.groupKeys := by
    unfold groupKeys
    generalize chain.stages = stages, chain'.stages = stages' at h
    induction h with
    | nil => rfl
    | cons hhead _ ih => rw [List.filterMap_cons, List.filterMap_cons, hhead.groupKey?_eq, ih]
  unfold innerContext
  rw [hkeys]

theorem contextOf_of_similar {chain chain' : Chain}
    (h : List.Forall₂ Stage.Similar chain.stages chain'.stages) (context : Context)
    (kind : ClauseKind) : chain'.contextOf context kind = chain.contextOf context kind := by
  cases kind <;> first | rfl | exact innerContext_of_similar h context

end Chain

namespace Stages

/-- Stages that build alike, whatever their orderings. -/
structure Similar (stages stages' : Stages) : Prop where
  filters : stages.filters = stages'.filters
  select : stages.select = stages'.select
  groupBy : stages.groupBy = stages'.groupBy
  having : stages.having = stages'.having
  window : stages.window = stages'.window
  take : stages.take = stages'.take
  join : Option.Rel (fun call call' => ∀ context : Context,
    JoinClause.analyze call context = JoinClause.analyze call' context) stages.join stages'.join

theorem similar_push {stages stages' : Stages} (h : Similar stages stages') {stage stage' : Stage}
    (hstage : Stage.Similar stage stage') :
    Agree Similar (stages.push stage) (stages'.push stage') := by
  obtain ⟨filters, select, groupBy, having, ordering, window, take, join⟩ := stages
  obtain ⟨filters', select', groupBy', having', ordering', window', take', join'⟩ := stages'
  obtain ⟨rfl, rfl, rfl, rfl, rfl, rfl, hjoin⟩ := h
  have hfill : ∀ (kind : ClauseKind) (slot : Option Expr) (value : Expr)
      (next next' : Option Expr → Stages), (∀ filled, Similar (next filled) (next' filled)) →
      Agree Similar (do return next (← fill kind slot value))
        (do return next' (← fill kind slot value)) := by
    intro kind slot value next next' hnext
    cases fill kind slot value with
    | error failure => exact .error failure
    | ok filled => exact .ok (hnext filled)
  cases hstage with
  | orderBy call call' key method => exact .ok ⟨rfl, rfl, rfl, rfl, rfl, rfl, hjoin⟩
  | join hcall =>
      dsimp only at hjoin
      cases hjoin with
      | none => exact .ok ⟨rfl, rfl, rfl, rfl, rfl, rfl, .some hcall⟩
      | some _ => exact .error _
  | same stage =>
      cases stage with
      | filter predicate => exact .ok ⟨rfl, rfl, rfl, rfl, rfl, rfl, hjoin⟩
      | select selector => exact hfill _ _ _ _ _ fun _ => ⟨rfl, rfl, rfl, rfl, rfl, rfl, hjoin⟩
      | groupBy key => exact hfill _ _ _ _ _ fun _ => ⟨rfl, rfl, rfl, rfl, rfl, rfl, hjoin⟩
      | having predicate =>
          exact hfill _ _ _ _ _ fun _ => ⟨rfl, rfl, rfl, rfl, rfl, rfl, hjoin⟩
      | orderBy call key method => exact .ok ⟨rfl, rfl, rfl, rfl, rfl, rfl, hjoin⟩
      | window argument => exact hfill _ _ _ _ _ fun _ => ⟨rfl, rfl, rfl, rfl, rfl, rfl, hjoin⟩
      | take count => exact .ok ⟨rfl, rfl, rfl, rfl, rfl, rfl, hjoin⟩
      | join call =>
          dsimp only at hjoin
          cases hjoin with
          | none => exact .ok ⟨rfl, rfl, rfl, rfl, rfl, rfl, .some fun _ => rfl⟩
          | some _ => exact .error _

theorem similar_ofChain {chain chain' : Chain}
    (h : List.Forall₂ Stage.Similar chain.stages chain'.stages) :
    Agree Similar (ofChain chain) (ofChain chain') := by
  have hfold : ∀ {list list' : List Stage}, List.Forall₂ Stage.Similar list list' →
      ∀ stages stages', Similar stages stages' →
        Agree Similar (list.foldlM push stages) (list'.foldlM push stages') := by
    intro list list' hlist
    induction hlist with
    | nil => exact fun stages stages' hstages => .ok hstages
    | cons hhead _ ih =>
        intro stages stages' hstages
        rw [List.foldlM_cons, List.foldlM_cons]
        exact (similar_push hstages hhead).bind ih
  exact hfold h {} {} ⟨rfl, rfl, rfl, rfl, rfl, rfl, .none⟩

/-- All clauses but the ordering are built alike. -/
theorem Similar.argument? {stages stages' : Stages} (h : Similar stages stages')
    (kind : ClauseKind) (hkind : kind ≠ .orderBy) :
    Option.Rel (fun e e' => ∀ builder ∈ kind.build?, ∀ context, builder e context =
      builder e' context) (stages.argument? kind) (stages'.argument? kind) := by
  have hsame : ∀ {slot slot' : Option Expr}, slot = slot' → Option.Rel (fun e e' =>
      ∀ builder ∈ kind.build?, ∀ context, builder e context = builder e' context) slot slot' := by
    rintro (_ | e) _ rfl
    · exact .none
    · exact .some fun _ _ _ => rfl
  cases kind with
  | select => exact hsame h.select
  | filter =>
      refine hsame ?_
      change stages.predicate? = stages'.predicate?
      rw [Stages.predicate?, h.filters, Stages.predicate?]
  | groupBy => exact hsame h.groupBy
  | having => exact hsame h.having
  | window => exact hsame h.window
  | orderBy => exact absurd rfl hkind
  | projection => exact .none
  | join =>
      have hjoin := h.join
      change Option.Rel _ stages.join stages'.join
      generalize stages.join = call, stages'.join = call' at hjoin ⊢
      cases hjoin with
      | none => exact .none
      | some hcalls =>
          refine .some fun builder hbuilder context => ?_
          obtain rfl := Option.some.inj hbuilder
          dsimp only [JoinClause.build]
          rw [hcalls context]

theorem Similar.alike {stages stages' : Stages} (h : Similar stages stages')
    (hordering : Option.Rel ClauseKind.orderBy.BuildsAlike stages.ordering stages'.ordering) :
    Alike stages stages' := by
  have hbuilds : ∀ kind ≠ ClauseKind.orderBy,
      Option.Rel kind.BuildsAlike (stages.argument? kind) (stages'.argument? kind) := by
    intro kind hkind
    have hargument := h.argument? kind hkind
    generalize stages.argument? kind = e, stages'.argument? kind = e' at hargument ⊢
    cases hargument with
    | none => exact .none
    | some hsame => exact .some fun builder hbuilder context _ => hsame builder hbuilder context
  have hgroupBy : Option.Rel (fun key key' => ClauseKind.groupBy.BuildsAlike key key' ∧
      ∀ context : Context, context.parameterAliases? = none →
        GroupByClause.groupKeys key context = GroupByClause.groupKeys key' context)
      stages.groupBy stages'.groupBy := by
    rw [h.groupBy]
    cases stages'.groupBy with
    | none => exact .none
    | some key => exact .some ⟨fun _ _ _ _ => rfl, fun _ _ => rfl⟩
  have hjoin := h.join
  refine
    { groupBy := hgroupBy
      join := ?_
      select := hbuilds .select (by decide)
      filter := hbuilds .filter (by decide)
      window := hbuilds .window (by decide)
      having := hbuilds .having (by decide)
      ordering := hordering
      take := h.take }
  generalize stages.join = call, stages'.join = call' at hjoin ⊢
  cases hjoin with
  | none => exact .none
  | some hcalls => exact .some fun context _ => hcalls context

end Stages

namespace Builders

open Registry

variable {builders : Builders}

/-- Next to a chain that is assembled, one with similar stages can only fail in its ordering. -/
theorem FailureOf.inOrdering {chain chain' : Chain} {context : Context} {final : Bool}
    {parts : Parts} {stages' : Stages} {failure : Failure}
    (hfit : parts.Fit builders chain context final)
    (hsimilar : List.Forall₂ Stage.Similar chain.stages chain'.stages)
    (hstages' : Stages.ofChain chain' = .ok stages')
    (h : builders.FailureOf chain' context failure) (hcontains : builders.contains .orderBy) :
    ∃ call' context' cause, stages'.ordering = some call' ∧
      (OrderByClause.build call' context').result = .error cause ∧
      failure = .inClause .orderBy cause := by
  have hslots : Stages.Similar parts.stages stages' := by
    have hagree := Stages.similar_ofChain hsimilar
    rw [hfit.stages, hstages'] at hagree
    exact hagree.related
  -- Any other clause is built from the chain that is assembled as well.
  have hbuild : ∀ {kind : ClauseKind} {e' : Expr}, kind ≠ .orderBy →
      stages'.argument? kind = some e' → ∃ e text,
      (builders.build kind e (chain'.contextOf context kind)).result = .ok text ∧
      ∀ builder ∈ kind.build?, ∀ context, builder e context = builder e' context := by
    intro kind e' hkind he'
    have hargument := hslots.argument? kind hkind
    cases he : parts.stages.argument? kind <;> rw [he, he'] at hargument
    · cases hargument
    · next e =>
        obtain ⟨text, htext⟩ := hfit.exists_build he
        rw [← Chain.contextOf_of_similar hsimilar context kind] at htext
        cases hargument with
        | some hsame => exact ⟨e, text, htext, hsame⟩
  cases h with
  | @repeated kind stage hname hsingle hcount =>
      rw [Stages.count_eq_length_slot hstages' hsingle] at hcount
      cases hslot : stages'.slot stage <;> simp [hslot] at hcount
  | @missing stages kind e' hstages he' hmissing =>
      obtain rfl := Except.ok.inj (hstages'.symm.trans hstages)
      by_cases hkind : kind = .orderBy
      · rw [hkind, hcontains] at hmissing
        cases hmissing
      · obtain ⟨e, text, htext, -⟩ := hbuild hkind he'
        rw [contains_of_build htext] at hmissing
        cases hmissing
  | @clause stages kind e' builder cause hstages he' _ hbuilder hcause =>
      obtain rfl := Except.ok.inj (hstages'.symm.trans hstages)
      by_cases hkind : kind = .orderBy
      · subst hkind
        obtain rfl := Option.some.inj hbuilder
        exact ⟨e', _, cause, he', hcause, rfl⟩
      · obtain ⟨e, text, htext, hsame⟩ := hbuild hkind he'
        rw [← hsame builder hbuilder] at hcause
        cases hcause.symm.trans (result_of_build hbuilder htext)

end Builders

end StreamQuery
