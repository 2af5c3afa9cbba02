import StreamQuery.Expr.Fluent
import StreamQuery.Proofs.Chain
import StreamQuery.Proofs.Clause.GroupKeys
import StreamQuery.Proofs.Context
import StreamQuery.Proofs.Lowering.Leaves
import StreamQuery.Proofs.Query.Draft

/-!
# Filters and the grouping of a query

All clauses of a grouped query are built in a context that knows the columns of the key. The filter
is the same as without the grouping, unless it names a member that the key gives another column.
-/

namespace StreamQuery

namespace LoweringRules

/-- Conditions on rows inside a grouping by these keys. -/
def groupedFilter (keys : GroupKeys) : LoweringRules :=
  { filter with groupKeys := some keys }

/-- Whether the keys give a member no column but its own name. -/
def KeepsName (keys : GroupKeys) (access : Expr × String) : Prop :=
  ∀ column ∈ (groupedFilter keys).groupKeyColumn? access.1 access.2, column = access.2

instance (keys : GroupKeys) (access : Expr × String) : Decidable (KeepsName keys access) :=
  inferInstanceAs (Decidable (∀ column ∈ _, _))

/-- Outside a grouping, `Key` on a parameter and the members of that are named like all others. -/
theorem memberColumn_filter_of_groupKey {keys : GroupKeys} {target : Expr} {name column : String}
    (h : (groupedFilter keys).groupKeyColumn? target name = some column) :
    filter.memberColumn target name = .ok (.column name) := by
  cases target with
  | parameter parameter type => rfl
  | member inner key type =>
      cases inner with
      | parameter parameter type => rfl
      | _ => cases h
  | _ => cases h

theorem memberColumn_groupedFilter {keys : GroupKeys} {access : Expr × String}
    (h : KeepsName keys access) :
    (groupedFilter keys).memberColumn access.1 access.2 =
      filter.memberColumn access.1 access.2 := by
  cases hkey : (groupedFilter keys).groupKeyColumn? access.1 access.2 with
  | some column =>
      rw [memberColumn_filter_of_groupKey hkey, memberColumn, hkey, h column hkey]
  | none =>
      rw [memberColumn, hkey]
      exact @columnOfPath_congr (groupedFilter keys) filter rfl rfl rfl access.2 [access.2] access.1

end LoweringRules

namespace Expr

open LoweringRules

theorem leafSimulation_groupedFilter (keys : GroupKeys) :
    LeafSimulation (fun _ => True) Eq (groupedFilter keys) LoweringRules.filter id id where
  congruence := Sql.congruence_eq _
  named_coalesce := trivial
  named_arrayLength := trivial
  truth _ := rfl
  clause_eq := rfl
  inequality_eq := rfl
  idioms_eq := rfl
  null_iff := by
    rintro value _ rfl
    rfl

theorem leavesAlike_groupedFilter {keys : GroupKeys} {e : Expr}
    (h : ∀ access ∈ e.namedMembers, KeepsName keys access) :
    LeavesAlike (fun _ => True) Eq (groupedFilter keys) LoweringRules.filter id id id id e where
  nodes node _ := by
    cases node with
    | parameter name type =>
        rintro _ rfl
        rfl
    | constant value =>
        rintro _ rfl
        exact .refl _
    | bareMember name type => rfl
    | _ => trivial
  members access haccess target htarget := by
    rw [mapLeaves_id, mapLeaves_id] at htarget
    rw [← htarget, memberColumn_groupedFilter (h access haccess)]
    exact .refl _

/-- A condition that names no member by a column of the key is the same inside the grouping. -/
theorem lower_groupedFilter {keys : GroupKeys} {e : Expr}
    (h : ∀ access ∈ e.namedMembers, KeepsName keys access) (position : Position) :
    e.lower (groupedFilter keys) position = e.lower LoweringRules.filter position :=
  ((lowersAlike_of_mapLeaves_eq (leafSimulation_groupedFilter keys) rfl
    (leavesAlike_groupedFilter h)).lower position).eq

end Expr

theorem FilterClause.build_grouped {keys : GroupKeys} {predicate : Expr}
    (h : ∀ access ∈ predicate.namedMembers, LoweringRules.KeepsName keys access) (base : String)
    (mode : ExecutionMode) :
    FilterClause.build predicate (Context.grouped { base, mode } keys) =
      FilterClause.build predicate { base, mode } := by
  have hrules : LoweringRules.filter.withContext (Context.grouped { base, mode } keys) =
      LoweringRules.groupedFilter keys :=
    LoweringRules.withContext_grouped _ base mode keys
  rw [FilterClause.build, FilterClause.build, hrules, LoweringRules.withContext_plain,
    Expr.lowerCondition, Expr.lower_groupedFilter h]
  rfl

/-- The filter of a draft is what the builder makes of this predicate in this context. -/
def Draft.FilterIs (draft : Draft) (predicate : Option Expr) (context : Context) : Prop :=
  match predicate with
  | none => draft.find? .filter = none
  | some predicate => ∃ clause, draft.find? .filter = some clause ∧
      FilterClause.build predicate context = .ok clause.content

theorem Draft.FilterIs.content_eq {draft draft' : Draft} {predicate : Option Expr}
    {context : Context} (h : draft.FilterIs predicate context)
    (h' : draft'.FilterIs predicate context) :
    (draft.find? .filter).map (·.content) = (draft'.find? .filter).map (·.content) := by
  cases predicate with
  | none => rw [show draft.find? .filter = none from h, show draft'.find? .filter = none from h']
  | some predicate =>
      obtain ⟨clause, hfind, hbuild⟩ := h
      obtain ⟨clause', hfind', hbuild'⟩ := h'
      rw [hfind, hfind']
      exact congrArg some (Except.ok.inj (hbuild.symm.trans hbuild'))

theorem Draft.FilterIs.congr {draft : Draft} {predicate : Option Expr} {context context' : Context}
    (h : draft.FilterIs predicate context)
    (hbuild : ∀ e ∈ predicate, FilterClause.build e context = FilterClause.build e context') :
    draft.FilterIs predicate context' := by
  cases predicate with
  | none => exact h
  | some e =>
      obtain ⟨clause, hfind, hclause⟩ := h
      exact ⟨clause, hfind, (hbuild e rfl).symm.trans hclause⟩

namespace Query

theorem filterIs_of_fit {builders : Builders} {context : Context} {chain : Chain} {final : Bool}
    {parts : Parts} (hfit : parts.Fit builders chain context final) {draft : Draft}
    (hclauses : ∀ part, part ≠ .emit → draft.clausesOf part = parts.ofPart part) :
    draft.FilterIs chain.predicate? parts.context := by
  have hfind : draft.find? .filter = parts.filter.head? := by
    rw [Draft.find?_eq_head?, hclauses .filter (by decide)]
    rfl
  have hfilter := hfit.filter
  rw [Stages.predicate?_eq hfit.stages] at hfilter
  cases hpredicate : chain.predicate? with
  | none =>
      rw [hpredicate] at hfilter
      rw [show parts.filter = [] from hfilter] at hfind
      exact hfind
  | some predicate =>
      rw [hpredicate] at hfilter
      obtain ⟨text, hbuild, hclauses⟩ := hfilter
      rw [hclauses] at hfind
      exact ⟨_, hfind, Builders.result_of_build rfl hbuild⟩

theorem context_of_no_groupKeys {builders : Builders} {chain : Chain} {context : Context}
    {final : Bool} {parts : Parts} (hfit : parts.Fit builders chain context final)
    (h : chain.groupKeys = []) : parts.context = context := by
  have hgrouping := hfit.grouping
  have hnone : parts.stages.groupBy = none := by
    rw [← Option.toList_eq_nil_iff, (Stages.ofChain_filters_groupBy hfit.stages).2, h]
  rw [hnone] at hgrouping
  exact (Prod.mk.inj (Except.ok.inj hgrouping)).2.symm

theorem context_of_mem_groupKeys {builders : Builders} {chain : Chain} {context : Context}
    {final : Bool} {parts : Parts} (hfit : parts.Fit builders chain context final) {key : Expr}
    (h : key ∈ chain.groupKeys) :
    ∃ keys, GroupByClause.groupKeys key context = .ok keys ∧
      parts.context = context.grouped keys := by
  have hgrouping := hfit.grouping
  have hsome : parts.stages.groupBy = some key := by
    rw [← (Stages.ofChain_filters_groupBy hfit.stages).2] at h
    exact Option.mem_toList.mp h
  rw [hsome] at hgrouping
  exact Builders.context_of_buildGrouping hgrouping

/-- The filter of a grouped query is the filter of the query without its grouping, unless it names a
member that the key gives another column. What follows the grouping is written with the columns of
the key; what a filter before it makes of such a member is left open. -/
theorem filter_eq_of_ungrouped (builders : Builders) (source : String) (e : Expr)
    (mode : ExecutionMode) (chain : Chain) (hchain : Chain.classify e = .ok chain) (key : Expr)
    (hkey : .groupBy key ∈ chain.stages) (text text' : String)
    (h : (ofChain builders source e mode).result = .ok text)
    (h' : (ofChain builders source e.ungrouped mode).result = .ok text') :
    ∃ draft draft' keys,
      draftOf builders source e mode = .ok draft ∧ draft.render = .ok text ∧
      draftOf builders source e.ungrouped mode = .ok draft' ∧ draft'.render = .ok text' ∧
      GroupByClause.groupKeys key { base := source, mode } = .ok keys ∧
      draft'.FilterIs chain.predicate? { base := source, mode } ∧
      ((∀ predicate ∈ chain.predicate?, ∀ access ∈ predicate.namedMembers,
          LoweringRules.KeepsName keys access) →
        draft.FilterIs chain.predicate? { base := source, mode } ∧
        (draft.find? .filter).map (·.content) = (draft'.find? .filter).map (·.content)) ∧
      ∀ before after, chain.stages = before ++ .groupBy key :: after →
        (∀ stage ∈ before, ∀ predicate ∈ stage.filter?, ∀ access ∈ predicate.namedMembers,
          LoweringRules.KeepsName keys access) →
        draft.FilterIs chain.predicate? (Context.grouped { base := source, mode } keys) := by
  obtain ⟨draft, hdraft, hrender⟩ := result_ofChain_eq_ok.mp h
  obtain ⟨draft', hdraft', hrender'⟩ := result_ofChain_eq_ok.mp h'
  obtain ⟨chain', hchain', -, hfilters, hkinds⟩ := Chain.classify_ungrouped hchain
  obtain ⟨parts, final, hfit, hfind⟩ := exists_parts_of_draftOf hdraft hchain
  obtain ⟨parts', final', hfit', hfind'⟩ := exists_parts_of_draftOf hdraft' hchain'
  have hfilter := filterIs_of_fit hfit hfind
  have hfilter' := filterIs_of_fit hfit' hfind'
  have hnone : chain'.groupKeys = [] := by
    refine List.filterMap_eq_nil_iff.mpr fun stage hstage => ?_
    cases stage with
    | groupBy key => exact absurd rfl (hkinds _ hstage).1
    | _ => rfl
  have hpredicate : chain'.predicate? = chain.predicate? := by
    rw [Chain.predicate?, Chain.predicate?, hfilters]
  rw [context_of_no_groupKeys hfit' hnone, hpredicate] at hfilter'
  obtain ⟨keys, hkeys, hcontext⟩ :=
    context_of_mem_groupKeys hfit (List.mem_filterMap.mpr ⟨_, hkey, rfl⟩)
  rw [hcontext] at hfilter
  -- All filters are built in the context of the grouping, wherever they stand in the chain.
  refine ⟨draft, draft', keys, hdraft, hrender, hdraft', hrender', hkeys, hfilter', ?_,
    fun _ _ _ _ => hfilter⟩
  intro hkept
  have hplain : draft.FilterIs chain.predicate? { base := source, mode } :=
    hfilter.congr fun predicate hpredicate =>
      FilterClause.build_grouped (hkept predicate hpredicate) source mode
  exact ⟨hplain, hplain.content_eq hfilter'⟩

/-- Large orders by region and city, in groups of several orders from the EU. -/
def euGroups : Expr :=
  let order := Expr.parameter "o" .unknown
  let group := Expr.parameter "g" .unknown
  let large := Expr.lambda ["o"]
    (.binary .greaterThan (.member order "Amount" .int) (.constant (.int 5)))
  let regionAndCity := Expr.lambda ["o"] (.object [(none, .member order "Region" .string),
    (some "City", .call (.member order "City" .string) "ToUpper" [] .string)])
  let inEu := Expr.lambda ["g"] (.binary .equal
    (.member (.member group "Key" .unknown) "Region" .string) (.constant (.string "EU")))
  let several := Expr.lambda ["g"]
    (.binary .greaterThan (.call group "Count" [] .int) (.constant (.int 1)))
  ((((Expr.source "orders").filter large).groupBy regionAndCity).filter inEu).having several

theorem filter_eq_of_ungrouped_euGroups :
    ∃ draft draft',
      draftOf .standard "orders" euGroups .push = .ok draft ∧
      draft.render = .ok ("SELECT * FROM orders WHERE ((Amount > 5) AND (Region = 'EU')) " ++
        "GROUP BY Region, UPPER(City) HAVING (COUNT(*) > 1) EMIT CHANGES") ∧
      draftOf .standard "orders" euGroups.ungrouped .push = .ok draft' ∧
      draft'.render =
        .ok "SELECT * FROM orders WHERE ((Amount > 5) AND (Region = 'EU')) EMIT CHANGES" ∧
      (draft.find? .filter).map (·.content) = (draft'.find? .filter).map (·.content) := by
  have hgrouped : (ofChain .standard "orders" euGroups .push).result =
      .ok ("SELECT * FROM orders WHERE ((Amount > 5) AND (Region = 'EU')) " ++
        "GROUP BY Region, UPPER(City) HAVING (COUNT(*) > 1) EMIT CHANGES") :=
    result_ofChain_of_inOrder? (by decide +kernel)
  have hungrouped : (ofChain .standard "orders" euGroups.ungrouped .push).result =
      .ok "SELECT * FROM orders WHERE ((Amount > 5) AND (Region = 'EU')) EMIT CHANGES" :=
    result_ofChain_of_inOrder? (by decide +kernel)
  obtain ⟨draft, draft', keys, hdraft, hrender, hdraft', hrender', hkeys, -, hkept, -⟩ :=
    filter_eq_of_ungrouped .standard "orders" euGroups .push _ rfl _ (.tail _ (.head _)) _ _
      hgrouped hungrouped
  obtain rfl := Except.ok.inj hkeys
  exact ⟨draft, draft', hdraft, hrender, hdraft', hrender', (hkept (by decide +kernel)).2⟩

/-- The orders of one region, picked by the key of their group. -/
def euRegion : Expr :=
  ((Expr.source "orders").groupBy
      (.lambda ["o"] (.member (.parameter "o" .unknown) "Region" .unknown))).filter
    (.lambda ["g"] (.binary .equal (.member (.parameter "g" .unknown) "Key" .unknown)
      (.constant (.string "EU"))))

/-- The key of a group is the grouped column in a filter, and a column of its own without the
grouping. -/
theorem filter_ne_of_ungrouped_euRegion :
    (ofChain .standard "orders" euRegion .push).result =
      .ok "SELECT * FROM orders WHERE (Region = 'EU') GROUP BY Region EMIT CHANGES" ∧
    (ofChain .standard "orders" euRegion.ungrouped .push).result =
      .ok "SELECT * FROM orders WHERE (Key = 'EU') EMIT CHANGES" ∧
    ∃ draft draft', draftOf .standard "orders" euRegion .push = .ok draft ∧
      draftOf .standard "orders" euRegion.ungrouped .push = .ok draft' ∧
      (draft.find? .filter).map (·.content) ≠ (draft'.find? .filter).map (·.content) :=
  ⟨result_ofChain_of_inOrder? (by decide +kernel), result_ofChain_of_inOrder? (by decide +kernel),
    _, _, rfl, rfl, by decide +kernel⟩

end Query

end StreamQuery
