import StreamQuery.Proofs.Clause.BlankKeys
import StreamQuery.Proofs.Query.Emission
import StreamQuery.Proofs.Query.Grouping
import StreamQuery.Proofs.Query.Ordering
import StreamQuery.Proofs.Query.Rendering

/-!
# What is written of a chain

Every stage of a chain has a clause in the draft, and a clause is written unless it is blank. Joins,
windows and limits are never blank. A condition is blank only if it is a column with a blank name,
and a key only if it has no columns, or one with a blank name.
-/

namespace StreamQuery

open Text

theorem Text.trim_eq_empty_iff {text : String} : trim text = "" ↔ allBlank text := by
  constructor
  · intro htrim
    by_contra hblank
    obtain ⟨c, hmem, hc⟩ := allBlank_eq_false_iff.mp (Bool.eq_false_iff.mpr hblank)
    exact trim_ne_empty hmem hc htrim
  · intro hblank
    have hstart : trimStart text.toList = [] :=
      List.dropWhile_eq_nil_iff.mpr (List.all_eq_true.mp hblank)
    rw [trim, hstart]
    rfl

theorem Clause.isBlank_eq (clause : Clause) : clause.isBlank = allBlank clause.content := by
  rw [isBlank, Bool.eq_iff_iff, decide_eq_true_iff, trim_eq_empty_iff]

namespace Draft

theorem writes_iff {draft : Draft} {part : Part} :
    draft.Writes part ↔ ∃ clause ∈ draft.clausesOf part, allBlank clause.content = false := by
  constructor
  · rintro ⟨clause, hclause, rfl⟩
    obtain ⟨hmem, hblank⟩ := mem_ordered.mp hclause
    rw [Clause.isBlank_eq, Bool.not_eq_true] at hblank
    exact ⟨clause, hmem, hblank⟩
  · rintro ⟨clause, hmem, hblank⟩
    have hpart : clause.part = part := of_decide_eq_true (List.mem_filter.mp hmem).2
    refine ⟨clause, mem_ordered.mpr ⟨hpart ▸ hmem, ?_⟩, hpart⟩
    rw [Clause.isBlank_eq, hblank]
    exact Bool.false_ne_true

/-- A part with a clause for each value of an optional stage. -/
theorem writes_of_option {α : Type} {draft : Draft} {part : Part} {stage : Option α}
    {clause : α → Clause} (h : draft.clausesOf part = stage.toList.map clause)
    (hshown : ∀ value ∈ stage, allBlank (clause value).content = false) :
    draft.Writes part ↔ stage.isSome := by
  rw [writes_iff, h]
  cases stage with
  | none => simp
  | some value => simpa using hshown value rfl

theorem writes_of_singleton {draft : Draft} {part : Part} {clause : Clause}
    (h : draft.clausesOf part = [clause]) :
    draft.Writes part ↔ allBlank clause.content = false := by
  rw [writes_iff, h]
  simp

end Draft

namespace Chain

/-- The context in which the clauses of a chain are built, inside its grouping if it has one. -/
def innerContext (chain : Chain) (context : Context) : Context :=
  match chain.groupKeys with
  | [] => context
  | key :: _ =>
    match GroupByClause.groupKeys key context with
    | .ok keys => context.grouped keys
    | .error _ => context

theorem innerContext_of_buildGrouping {builders : Builders} {chain : Chain} {stages : Stages}
    {context inner : Context} {grouping : Option Built}
    (hstages : Stages.ofChain chain = .ok stages)
    (h : (builders.buildGrouping stages.groupBy context).result = .ok (grouping, inner)) :
    inner = chain.innerContext context := by
  rw [innerContext, ← (Stages.ofChain_filters_groupBy hstages).2]
  cases hkey : stages.groupBy with
  | none =>
      rw [hkey] at h
      exact (Prod.mk.inj (Except.ok.inj h)).2.symm
  | some key =>
      rw [hkey] at h
      obtain ⟨keys, hkeys, rfl⟩ := Builders.context_of_buildGrouping h
      simp [hkeys]

/-- The only filter is blank. -/
def BlankFilter (chain : Chain) (context : Context) : Prop :=
  ∃ predicate, chain.filters = [predicate] ∧
    predicate.IsBlank (LoweringRules.filter.withContext context) .condition

/-- The condition on groups is blank. -/
def BlankHaving (chain : Chain) (context : Context) : Prop :=
  ∃ predicate, .having predicate ∈ chain.stages ∧
    predicate.IsBlank (LoweringRules.having.withContext context) .condition

/-- The key has no columns, or a single one, which is blank. -/
def BlankKey (chain : Chain) (context : Context) : Prop :=
  ∃ key ∈ chain.groupKeys, GroupByClause.leaves none key = [] ∨
    ∃ name leaf, GroupByClause.leaves none key = [(name, leaf)] ∧
      leaf.IsBlank (LoweringRules.groupBy.withContext context) .value

end Chain

/-- Which parts of a statement show, by the stages of its chain. -/
structure Draft.Shows (draft : Draft) (chain : Chain) (context : Context) : Prop where
  select : ((ordered draft.clauses).filter (·.part = .select)).length = 1
  source : ((ordered draft.clauses).filter (·.part = .source)).length = 1
  join : draft.Writes .join ↔ 0 < chain.count .join
  window : draft.Writes .window ↔ 0 < chain.count .window
  limit : draft.Writes .limit ↔ 0 < chain.count .take
  filter : draft.Writes .filter ↔
    0 < chain.count .filter ∧ ¬chain.BlankFilter (chain.innerContext context)
  having : draft.Writes .having ↔
    0 < chain.count .having ∧ ¬chain.BlankHaving (chain.innerContext context)
  groupBy : draft.Writes .groupBy ↔ 0 < chain.count .groupBy ∧ ¬chain.BlankKey context

namespace Parts

variable {builders : Builders} {chain : Chain} {context : Context} {final : Bool} {parts : Parts}

theorem Fit.context_eq (hfit : parts.Fit builders chain context final) :
    parts.context = chain.innerContext context :=
  Chain.innerContext_of_buildGrouping hfit.stages hfit.grouping

/-- The text of a join has the keyword between its two sides. -/
theorem Fit.join_shown (hfit : parts.Fit builders chain context final) :
    (∀ pair ∈ parts.join, allBlank pair.1.text = false) ∧
      parts.join.isSome = parts.stages.join.isSome := by
  have hjoin := hfit.join
  cases hcall : parts.stages.join with
  | none =>
      rw [hcall] at hjoin
      rw [← Except.ok.inj hjoin]
      simp
  | some call =>
      rw [hcall] at hjoin
      obtain ⟨text, htext, hafter⟩ := Report.result_bind_eq_ok.mp hjoin
      obtain ⟨join, hanalyze, hpure⟩ := Report.result_bind_eq_ok.mp hafter
      rw [← Except.ok.inj hpure]
      obtain ⟨other, -, hother⟩ := bind_eq_ok_iff.mp (Builders.result_of_build rfl htext)
      rw [← Except.ok.inj hother]
      have hon : allBlank " ON " = false := by decide
      simp [Join.text, allBlank_append, hon]

/-- The text of a window has its closing bracket. -/
theorem Fit.window_shown (hfit : parts.Fit builders chain context final) :
    (∃ clause ∈ parts.window, allBlank clause.content = false) ↔ parts.stages.window.isSome := by
  have hwindow := hfit.window
  cases hargument : parts.stages.window with
  | none =>
      rw [hargument] at hwindow
      obtain ⟨hnil, -⟩ := Assembly.gives_pure.mp hwindow
      simp [hnil]
  | some argument =>
      rw [hargument] at hwindow
      obtain ⟨window, kind, -, -, hclauses, -⟩ := Builders.gives_addWindow hwindow
      obtain ⟨front, hfront⟩ := WindowClause.exists_render_unfinal kind window
      refine iff_of_true ⟨_, by rw [hclauses]; exact List.mem_cons_self, ?_⟩ rfl
      rw [Clause.ofExpr, hfront, allBlank_append, show allBlank ")" = false by decide,
        Bool.and_false]

theorem Fit.required_select (hfit : parts.Fit builders chain context final) :
    parts.select.required = true := by
  have hselect := hfit.select
  unfold Registry.selectClause at hselect
  split at hselect
  · obtain ⟨text, -, hpure⟩ := Report.result_bind_eq_ok.mp hselect
    rw [← Except.ok.inj hpure]
    rfl
  · rw [← Except.ok.inj hselect]
    rfl
  · rw [← Except.ok.inj hselect]

end Parts

namespace Draft

variable {draft : Draft} {builders : Builders} {context : Context} {stage : Option Expr}

/-- The clause of a condition is written unless the condition is blank. -/
theorem writes_condition {kind : ClauseKind} {part : Part} {rules : LoweringRules}
    (hbuild : ∀ {e text}, (builders.build kind e context).result = .ok text →
      ∃ t, e.lower rules .condition = .ok t ∧ text = t.text)
    (h : builders.ClauseOf kind part context stage (draft.clausesOf part)) :
    draft.Writes part ↔ ∃ e ∈ stage, ¬e.IsBlank rules .condition := by
  cases stage with
  | none =>
      rw [writes_iff, show draft.clausesOf part = [] from h]
      simp
  | some e =>
      obtain ⟨text, htext, hclauses⟩ := h
      obtain ⟨t, ht, rfl⟩ := hbuild htext
      rw [writes_of_singleton hclauses, Clause.ofExpr, ← Bool.not_eq_true,
        Expr.allBlank_text_iff_isBlank ht]
      simp

theorem writes_filter
    (h : builders.ClauseOf .filter .filter context stage (draft.clausesOf .filter)) :
    draft.Writes .filter ↔
      ∃ e ∈ stage, ¬e.IsBlank (LoweringRules.filter.withContext context) .condition := by
  refine writes_condition (fun {e text} hbuild => ?_) h
  obtain ⟨t, ht, hcheck⟩ := bind_eq_ok_iff.mp (Builders.result_of_build rfl hbuild)
  split at hcheck
  · cases hcheck
  · exact ⟨t, ht, (Except.ok.inj hcheck).symm⟩

theorem writes_having
    (h : builders.ClauseOf .having .having context stage (draft.clausesOf .having)) :
    draft.Writes .having ↔
      ∃ e ∈ stage, ¬e.IsBlank (LoweringRules.having.withContext context) .condition := by
  refine writes_condition (fun {e text} hbuild => ?_) h
  obtain ⟨t, ht, hpure⟩ := bind_eq_ok_iff.mp (Builders.result_of_build rfl hbuild)
  exact ⟨t, ht, (Except.ok.inj hpure).symm⟩

end Draft

namespace Chain

theorem count_filter_pos (chain : Chain) : 0 < chain.count .filter ↔ chain.filters ≠ [] := by
  rw [count, List.countP_pos_iff, filters, Ne, List.filterMap_eq_nil_iff]
  constructor
  · rintro ⟨stage, hstage, hkind⟩ hnone
    have hfilter := hnone stage hstage
    cases stage <;> simp_all [Stage.kind, Stage.filter?]
  · intro hsome
    simp only [not_forall] at hsome
    obtain ⟨stage, hstage, hfilter⟩ := hsome
    refine ⟨stage, hstage, ?_⟩
    cases stage <;> simp_all [Stage.kind, Stage.filter?]

/-- The conjunction of several filters is not blank. -/
theorem exists_predicate_iff (chain : Chain) (context : Context) :
    (∃ e ∈ chain.predicate?, ¬e.IsBlank (LoweringRules.filter.withContext context) .condition) ↔
      0 < chain.count .filter ∧ ¬chain.BlankFilter context := by
  have hbinary : ∀ (rest : List Expr) (left right : Expr), ∃ left' right',
      rest.foldl (Expr.binary .andAlso) (Expr.binary .andAlso left right) =
        Expr.binary .andAlso left' right' := by
    intro rest
    induction rest with
    | nil => exact fun left right => ⟨left, right, rfl⟩
    | cons next rest ih => exact fun left right => ih _ next
  rw [count_filter_pos]
  unfold BlankFilter predicate? Stages.predicate?
  cases chain.filters with
  | nil => simp
  | cons first rest =>
      cases rest with
      | nil => simp [Expr.IsBlank, Expr.lower_stripLambda]
      | cons second rest =>
          obtain ⟨left, right, hconjunction⟩ :=
            hbinary (rest.map (·.stripLambda)) first.stripLambda second.stripLambda
          have hshown : ¬(Expr.binary .andAlso left right).IsBlank
              (LoweringRules.filter.withContext context) .condition := by
            rintro ⟨name, hname, -⟩
            exact Bool.false_ne_true (Expr.not_isAtom_of_binary hname).symm
          simpa [hconjunction] using hshown

end Chain

theorem Draft.writes_groupBy {draft : Draft} {builders : Builders} {chain : Chain}
    {context : Context} {final : Bool} {parts : Parts}
    (hfit : parts.Fit builders chain context final)
    (hclauses : draft.clausesOf .groupBy = parts.ofPart .groupBy) :
    draft.Writes .groupBy ↔ 0 < chain.count .groupBy ∧ ¬chain.BlankKey context := by
  have hkeys : parts.stages.groupBy.toList = chain.groupKeys :=
    (Stages.ofChain_filters_groupBy hfit.stages).2
  have hsome : parts.stages.groupBy.isSome ↔ 0 < chain.count .groupBy :=
    Stages.isSome_slot hfit.stages (show StageKind.groupBy ∈ Stages.singleKinds by decide)
  have hgrouping := hfit.grouping
  rw [← hsome]
  unfold Chain.BlankKey
  rw [← hkeys]
  cases hkey : parts.stages.groupBy with
  | none =>
      rw [hkey] at hgrouping
      have hnone : parts.grouping = none := (Prod.mk.inj (Except.ok.inj hgrouping)).1.symm
      rw [writes_iff, hclauses, Parts.ofPart, hnone]
      simp
  | some key =>
      rw [hkey] at hgrouping
      obtain ⟨text, htext, hafter⟩ := Report.result_bind_eq_ok.mp hgrouping
      obtain ⟨keys, -, hpure⟩ := Report.result_bind_eq_ok.mp hafter
      have hbuilt : parts.grouping = some ⟨text, key⟩ :=
        (Prod.mk.inj (Except.ok.inj hpure)).1.symm
      have hsingle : draft.clausesOf .groupBy = [.ofExpr .groupBy text false key] := by
        rw [hclauses, Parts.ofPart, hbuilt]
        rfl
      rw [writes_of_singleton hsingle, Clause.ofExpr, ← Bool.not_eq_true,
        GroupByClause.allBlank_build (Builders.result_of_build rfl htext)]
      simp

namespace Chain

theorem exists_having_iff {chain : Chain} {stages : Stages} (h : Stages.ofChain chain = .ok stages)
    (context : Context) :
    (∃ e ∈ stages.having, ¬e.IsBlank (LoweringRules.having.withContext context) .condition) ↔
      0 < chain.count .having ∧ ¬chain.BlankHaving context := by
  have hsome : stages.having.isSome ↔ 0 < chain.count .having :=
    Stages.isSome_slot h (show StageKind.having ∈ Stages.singleKinds by decide)
  have hstage : ∀ predicate, .having predicate ∈ chain.stages ↔ stages.having = some predicate :=
    fun _ => (Stages.slot_eq_some_iff_mem h Stage.slot?_having).symm
  unfold BlankHaving
  simp only [← hsome, hstage]
  cases stages.having with
  | none => simp
  | some predicate => simp

end Chain

namespace Query

variable {builders : Builders} {kind : StatementKind} {base : String} {chain : Chain}
  {mode : ExecutionMode} {draft : Draft} {text : String}

/-- A clause that is required and stands alone is written once. -/
theorem length_ordered_of_required (h : draftAs builders kind base chain mode = .ok draft)
    (hrender : draft.render = .ok text) {part : Part} {clause : Clause}
    (hclauses : draft.clausesOf part = [clause]) (hrequired : clause.required = true) :
    ((Draft.ordered draft.clauses).filter (·.part = part)).length = 1 := by
  have hmem : clause ∈ draft.clausesOf part := by simp [hclauses]
  have hshown : clause.isBlank = false :=
    (Draft.render_eq_ok_iff.mp hrender).1 clause (List.mem_of_mem_filter hmem) hrequired
  have hcomm : (draft.clauses.filter (!·.isBlank)).filter (·.part = part) =
      (draft.clausesOf part).filter (!·.isBlank) := by
    rw [Draft.clausesOf, List.filter_comm]
  rw [ordered_of_draftAs h, hcomm, hclauses]
  simp [hshown]

theorem shows_of_draftAs (h : draftAs builders kind base chain mode = .ok draft)
    (hrender : draft.render = .ok text) : draft.Shows chain { base, mode } := by
  obtain ⟨parts, final, hfit, hclauses⟩ := exists_parts_of_draftAs h
  have hparts : ∀ {part}, part ≠ .emit → draft.clausesOf part = parts.ofPart part :=
    fun hpart => clausesOf_of_fit hfit hclauses hpart
  have hcount : ∀ {kind : StageKind}, kind ∈ Stages.singleKinds →
      ((parts.stages.slot kind).isSome ↔ 0 < chain.count kind) :=
    fun hkind => Stages.isSome_slot hfit.stages hkind
  constructor
  · exact length_ordered_of_required h hrender (hparts (by decide)) hfit.required_select
  · exact length_ordered_of_required h hrender (hparts (by decide)) rfl
  · have hjoin : draft.Writes .join ↔ (parts.join.map (·.1)).isSome := by
      refine Draft.writes_of_option (hparts (by decide)) fun built hbuilt => ?_
      obtain ⟨pair, hpair, rfl⟩ := Option.map_eq_some_iff.mp hbuilt
      exact hfit.join_shown.1 pair hpair
    rw [hjoin, Option.isSome_map, hfit.join_shown.2]
    exact hcount (show StageKind.join ∈ _ by decide)
  · rw [Draft.writes_iff, hparts (by decide)]
    exact hfit.window_shown.trans (hcount (show StageKind.window ∈ _ by decide))
  · have hlimit : draft.Writes .limit ↔ parts.stages.take.isSome :=
      Draft.writes_of_option (hparts (by decide)) fun count _ => allBlank_toString_nat count
    rw [hlimit, Stages.isSome_take hfit.stages]
  · have hfilter : builders.ClauseOf .filter .filter parts.context chain.predicate?
        (draft.clausesOf .filter) := by
      rw [hparts (by decide), ← Stages.predicate?_eq hfit.stages]
      exact hfit.filter
    rw [Draft.writes_filter hfilter, hfit.context_eq, Chain.exists_predicate_iff]
  · have hhaving : builders.ClauseOf .having .having parts.context parts.stages.having
        (draft.clausesOf .having) := by
      rw [hparts (by decide)]
      exact hfit.having
    rw [Draft.writes_having hhaving, hfit.context_eq, Chain.exists_having_iff hfit.stages]
  · exact Draft.writes_groupBy hfit (hparts (by decide))

end Query

namespace Chain

section

variable {e : Expr} {chain : Chain} {base : String} {mode : ExecutionMode}

/-- Without blank names, the conditions of a chain know no blank columns of a key. -/
theorem keyColumns_shown (hchain : classify e = .ok chain) (hnames : e.hasBlankName = false)
    {rules : LoweringRules} (hrules : rules.groupKeys = none) :
    ∀ column ∈ (rules.withContext (chain.innerContext { base, mode })).keyColumns,
      allBlank column = false := by
  have hplain : ∀ column ∈ (rules.withContext { base, mode }).keyColumns,
      allBlank column = false := by
    rw [LoweringRules.withContext_plain, LoweringRules.keyColumns, hrules]
    simp
  unfold innerContext
  split
  · exact hplain
  · next key rest hkeys =>
      have hmem : key ∈ chain.groupKeys := by simp [hkeys]
      have hkey := Expr.hasBlankName_of_mem_nodes hnames (mem_nodes_of_mem_groupKeys hchain hmem)
      split
      · next groupKeys hgroupKeys =>
          obtain ⟨hsingle, hmembers⟩ := GroupByClause.allBlank_of_groupKeys hkey hgroupKeys
          rw [LoweringRules.keyColumns, LoweringRules.groupKeys_withContext]
          refine List.forall_mem_cons.mpr ⟨hsingle, fun column hcolumn => ?_⟩
          obtain ⟨entry, hentry, rfl⟩ := List.mem_map.mp hcolumn
          exact hmembers entry hentry
      · exact hplain

theorem not_isBlank_of_names (hchain : classify e = .ok chain) (hnames : e.hasBlankName = false)
    {rules : LoweringRules} (hrules : rules.groupKeys = none) (hnaming : rules.naming = .leaf)
    {part : Expr} (hpart : part ∈ e.nodes) (position : Position) :
    ¬part.IsBlank (rules.withContext (chain.innerContext { base, mode })) position := by
  rintro ⟨name, hname, hblank⟩
  have hshown := Expr.allBlank_text_of_names
    (show (rules.withContext _).naming = .leaf from hnaming)
    (Expr.hasBlankName_of_mem_nodes hnames hpart)
    (keyColumns_shown hchain hnames hrules) hname
  exact Bool.false_ne_true (hshown.symm.trans hblank)

theorem not_blankFilter (hchain : classify e = .ok chain) (hnames : e.hasBlankName = false) :
    ¬chain.BlankFilter (chain.innerContext { base, mode }) := by
  rintro ⟨predicate, hfilters, hblank⟩
  have hnode := mem_nodes_of_mem_filters hchain (hfilters ▸ List.mem_singleton_self predicate)
  exact not_isBlank_of_names hchain hnames rfl rfl hnode .condition hblank

theorem not_blankHaving (hchain : classify e = .ok chain) (hnames : e.hasBlankName = false) :
    ¬chain.BlankHaving (chain.innerContext { base, mode }) := by
  rintro ⟨predicate, hstage, hblank⟩
  have hnode := mem_nodes_of_classify hchain hstage rfl
  exact not_isBlank_of_names hchain hnames rfl rfl hnode .condition hblank

/-- Without blank names, a key is blank only if it has no columns. -/
theorem blankKey_iff (hchain : classify e = .ok chain) (hnames : e.hasBlankName = false) :
    chain.BlankKey { base, mode } ↔
      ∃ key ∈ chain.groupKeys, GroupByClause.leaves none key = [] := by
  constructor
  · rintro ⟨key, hkey, hnil | ⟨name, leaf, hleaf, column, hcolumn, hblank⟩⟩
    · exact ⟨key, hkey, hnil⟩
    · have hmem : (name, leaf) ∈ GroupByClause.leaves none key := by simp [hleaf]
      have hnode := Expr.nodes_trans (mem_nodes_of_mem_groupKeys hchain hkey)
        (GroupByClause.mem_nodes_of_mem_leaves hmem)
      have hkeys : LoweringRules.groupBy.keyColumns = [] := rfl
      rw [LoweringRules.withContext_plain] at hcolumn
      have hshown := Expr.allBlank_text_of_names rfl
        (Expr.hasBlankName_of_mem_nodes hnames hnode) (by simp [hkeys]) hcolumn
      exact absurd (hshown.symm.trans hblank) Bool.false_ne_true
  · rintro ⟨key, hkey, hnil⟩
    exact ⟨key, hkey, Or.inl hnil⟩

end

end Chain

namespace Query

/-- All stages of a chain show in its statement, but for conditions and keys that are blank. If no
member has a blank name, only a key without columns is left out. -/
theorem shows_of_chain (builders : Builders) (source : String) (e : Expr) (mode : ExecutionMode)
    (text : String) (h : (ofChain builders source e mode).result = .ok text) :
    ∃ chain draft, Chain.classify e = .ok chain ∧
      draftOf builders source e mode = .ok draft ∧ draft.render = .ok text ∧
      draft.Shows chain { base := source, mode } ∧
      (e.hasBlankName = false →
        (draft.Writes .filter ↔ 0 < chain.count .filter) ∧
        (draft.Writes .having ↔ 0 < chain.count .having) ∧
        (draft.Writes .groupBy ↔ 0 < chain.count .groupBy ∧
          ∀ key ∈ chain.groupKeys, GroupByClause.leaves none key ≠ [])) := by
  obtain ⟨draft, hdraft, hrender⟩ := result_ofChain_eq_ok.mp h
  obtain ⟨chain, hchain, hdraftAs⟩ := draftOf_eq_ok.mp hdraft
  have hshows := shows_of_draftAs hdraftAs hrender
  refine ⟨chain, draft, hchain, hdraft, hrender, hshows, fun hnames => ⟨?_, ?_, ?_⟩⟩
  · rw [hshows.filter]
    exact and_iff_left (Chain.not_blankFilter hchain hnames)
  · rw [hshows.having]
    exact and_iff_left (Chain.not_blankHaving hchain hnames)
  · rw [hshows.groupBy, Chain.blankKey_iff hchain hnames]
    simp

/-- Paid orders of large regions, by region, the first ten. -/
def paidRegions : Expr :=
  let order := Expr.parameter "o" .unknown
  let paid := Expr.lambda ["o"] (.member order "Paid" .bool)
  let large := Expr.lambda ["g"] (.binary .greaterThan
    (.staticCall "Count" [.parameter "g" .unknown] .int) (.constant (.int 5)))
  ((((Expr.source "orders").filter paid).groupBy
    (.lambda ["o"] (.member order "Region" .string))).having large).take 10

theorem shows_of_chain_paidRegions :
    ∃ draft, draftOf .standard "orders" paidRegions .push = .ok draft ∧
      draft.render = .ok ("SELECT * FROM orders WHERE (Paid = true) GROUP BY Region " ++
        "HAVING (COUNT(*) > 5) LIMIT 10 EMIT CHANGES") ∧
      draft.Writes .filter ∧ draft.Writes .groupBy ∧ draft.Writes .having ∧ draft.Writes .limit ∧
      ¬draft.Writes .join ∧ ¬draft.Writes .window := by
  have hquery : (ofChain .standard "orders" paidRegions .push).result =
      .ok ("SELECT * FROM orders WHERE (Paid = true) GROUP BY Region " ++
        "HAVING (COUNT(*) > 5) LIMIT 10 EMIT CHANGES") :=
    result_ofChain_of_inOrder? (by decide +kernel)
  obtain ⟨chain, draft, hchain, hdraft, hrender, hshows, hnamed⟩ :=
    shows_of_chain .standard "orders" paidRegions .push _ hquery
  obtain rfl := Except.ok.inj hchain
  obtain ⟨hfilter, hhaving, hgroupBy⟩ := hnamed (by decide)
  refine ⟨draft, hdraft, hrender, hfilter.mpr (by decide), hgroupBy.mpr ⟨by decide, ?_⟩,
    hhaving.mpr (by decide), hshows.limit.mpr (by decide), hshows.join.not.mpr (by decide),
    hshows.window.not.mpr (by decide)⟩
  rintro key hkey hnil
  obtain rfl := List.mem_singleton.mp hkey
  cases hnil

/-- The member of an order that has a blank name. -/
def blankMember : Expr :=
  .lambda ["o"] (.member (.parameter "o" .unknown) " " .unknown)

/-- The query on orders has a stage of this kind, and nothing of it in its statement. -/
def Drops (e : Expr) (kind : StageKind) (part : Part) : Prop :=
  ∃ chain draft, Chain.classify e = .ok chain ∧ 0 < chain.count kind ∧
    draftOf .standard "orders" e .push = .ok draft ∧ ¬draft.Writes part ∧
    (ofChain .standard "orders" e .push).result = .ok "SELECT * FROM orders EMIT CHANGES"

/-- A key without columns is dropped, and so are a key and conditions with a blank name. -/
theorem blank_stages_dropped :
    Drops ((Expr.source "orders").groupBy (.lambda ["o"] (.object []))) .groupBy .groupBy ∧
      Drops ((Expr.source "orders").groupBy blankMember) .groupBy .groupBy ∧
      Drops ((Expr.source "orders").filter blankMember) .filter .filter ∧
      Drops ((Expr.source "orders").having blankMember) .having .having := by
  refine ⟨⟨_, _, rfl, by decide, rfl, Draft.not_writes (by decide +kernel), ?_⟩,
    ⟨_, _, rfl, by decide, rfl, Draft.not_writes (by decide +kernel), ?_⟩,
    ⟨_, _, rfl, by decide, rfl, Draft.not_writes (by decide +kernel), ?_⟩,
    ⟨_, _, rfl, by decide, rfl, Draft.not_writes (by decide +kernel), ?_⟩⟩ <;>
    exact result_ofChain_of_inOrder? (by decide +kernel)

end Query

end StreamQuery
