import StreamQuery.Proofs.Query.Alike
import StreamQuery.Proofs.Query.Written

/-!
# Shortcuts for common queries

The queries for all rows, and for the rows that meet a condition, have statements of their own. They
are what the chains with no stage and with one filter are written as, provided that the condition is
not blank: a shortcut requires its condition, and a chain leaves a blank one out.
-/

namespace StreamQuery

namespace Report

/-- The value, or the root of the failure. -/
def outcome {α : Type} (report : Report α) : Except Failure α :=
  report.result.mapError Failure.root

theorem outcome_inTask {α : Type} (task : Task) (report : Report α) :
    (report.mapFailure (.inTask task)).outcome = report.outcome := by
  rw [outcome, outcome, result_mapFailure]
  cases report.result <;> rfl

end Report

/-- All that shows of a clause. A requirement shows only where the clause is blank. -/
def Clause.bare (clause : Clause) : Clause :=
  { part := clause.part
    content := clause.content
    required := clause.required && clause.isBlank }

theorem Draft.render_eq_of_bare_eq {draft draft' : Draft} (hkind : draft.kind = draft'.kind)
    (hclauses : draft.clauses.map Clause.bare = draft'.clauses.map Clause.bare) :
    draft.render = draft'.render := by
  have hbare := render_map (f := Clause.bare) (fun _ => rfl) (fun _ => rfl) fun clause => by
    change (clause.required && clause.isBlank && clause.isBlank) = _
    rw [Bool.and_assoc, Bool.and_self]
  rw [← hbare draft, ← hbare draft']
  exact render_eq_of_clauses_eq hkind hclauses

theorem Clause.bare_ofExpr {part : Part} {content : String} (h : Text.allBlank content = false)
    (required required' : Bool) (e e' : Expr) :
    (ofExpr part content required e).bare = (ofExpr part content required' e').bare := by
  have hblank : ∀ (required : Bool) (e : Expr),
      (ofExpr part content required e).isBlank = false := by
    intro required e
    rw [isBlank_eq]
    exact h
  unfold bare
  rw [hblank, hblank]
  simp [ofExpr]

namespace FilterClause

theorem build_stripLambda (predicate : Expr) (context : Context) :
    build predicate.stripLambda context = build predicate context := by
  rw [build, Expr.lowerCondition, Expr.lower_stripLambda]
  rfl

/-- With no blank names, a condition outside a grouping is not blank. -/
theorem allBlank_of_build {predicate : Expr} (hnames : predicate.hasBlankName = false)
    {base : String} {mode : ExecutionMode} {text : String}
    (h : build predicate { base, mode } = .ok text) : Text.allBlank text = false := by
  obtain ⟨condition, hcondition, hafter⟩ := bind_eq_ok_iff.mp h
  rw [LoweringRules.withContext_plain] at hcondition
  have hkeys : LoweringRules.filter.keyColumns = [] := rfl
  have hshown := Expr.allBlank_text_of_names rfl hnames (by simp [hkeys]) hcondition
  split at hafter
  · cases hafter
  · rw [← Except.ok.inj hafter]
    exact hshown

end FilterClause

theorem Builders.build_filter_stripLambda (builders : Builders) (predicate : Expr) (context : Context) :
    builders.build .filter predicate.stripLambda context =
      builders.build .filter predicate context := by
  cases hcontains : builders.contains .filter with
  | false =>
      rw [Registry.build_of_not_contains hcontains, Registry.build_of_not_contains hcontains]
  | true =>
      obtain ⟨builder, hkind, hbuild⟩ := build_of_contains hcontains
      obtain rfl := Option.some.inj hkind
      rw [hbuild, hbuild]
      dsimp only
      rw [FilterClause.build_stripLambda]

theorem Registry.assemble_filter (registry : Registry) (source : Option String) (predicate : Expr)
    (context : Context) :
    registry.assemble { source, stages := [.filter predicate] } context = (do
      Assembly.emit Query.allColumns
      Assembly.emit { part := .source, content := context.base, required := true }
      registry.addClause .filter .filter (some predicate.stripLambda) context
      return false) :=
  rfl

namespace Query

variable (builders : Builders) (source name : String) (mode : ExecutionMode)

theorem draftOf_source :
    draftOf builders source (.source name) mode =
      .ok (addEmit (selectDraft source allColumns) mode false) := rfl

theorem draftOf_filter (predicate : Expr) :
    draftOf builders source ((Expr.source name).filter predicate) mode = (do
      let condition ← (builders.build .filter predicate { base := source, mode }).result
      return addEmit ((selectDraft source allColumns).add
        (.ofExpr .filter condition false predicate.stripLambda)) mode false) := by
  have hclassify : Chain.classify ((Expr.source name).filter predicate) =
      .ok { source := some name, stages := [.filter predicate] } := rfl
  unfold draftOf
  rw [hclassify, ← builders.build_filter_stripLambda]
  change (do
    let assembly := builders.assemble { source := some name, stages := [.filter predicate] }
      { base := source, mode }
    let final ← assembly.report.result
    return addEmit { kind := .select, base := source, clauses := assembly.clauses } mode final) = _
  rw [Registry.assemble_filter, Registry.addClause]
  cases builders.build .filter predicate.stripLambda { base := source, mode } with
  | mk notices result => cases result <;> rfl

theorem outcome_ofChain (e : Expr) :
    (ofChain builders source e mode).outcome =
      (draftOf builders source e mode >>= Draft.render).mapError Failure.root := by
  rw [Report.outcome, result_ofChain]
  cases draftOf builders source e mode >>= Draft.render <;> rfl

/-- A required condition and an optional one are written alike, as long as they are not blank. -/
theorem render_add_filter {condition : String} (h : Text.allBlank condition = false)
    (draft : Draft) (predicate : Expr) :
    (addEmit (draft.add (.ofExpr .filter condition true predicate)) mode false).render =
      (addEmit (draft.add (.ofExpr .filter condition false predicate.stripLambda)) mode
        false).render := by
  have hkind : ∀ draft, (addEmit draft mode false).kind = draft.kind := by
    intro draft
    unfold addEmit
    split <;> rfl
  refine Draft.render_eq_of_bare_eq ?_ ?_
  · rw [hkind, hkind]
    rfl
  · simp only [clauses_addEmit, Draft.add, List.map_append, List.map_cons, List.map_nil]
    rw [Clause.bare_ofExpr h]

/-- The shortcuts have the outcomes of the chains that they stand for: the same statement, or
failures with the same root. -/
theorem outcome_shortcuts (builders : Builders) (source name : String) (mode : ExecutionMode) :
    (selectAll source mode).outcome = (ofChain builders source (.source name) mode).outcome ∧
    ∀ predicate : Expr, predicate.hasBlankName = false →
      (selectWhere builders source predicate mode).outcome =
        (ofChain builders source ((Expr.source name).filter predicate) mode).outcome := by
  constructor
  · rw [outcome_ofChain, draftOf_source, selectAll, Report.outcome_inTask]
    rfl
  · intro predicate hnames
    rw [outcome_ofChain, draftOf_filter, selectWhere, Report.outcome_inTask, Report.outcome,
      Report.result_bind]
    cases hbuild : (builders.build .filter predicate { base := source, mode }).result with
    | error failure => rfl
    | ok condition =>
        have hshown := FilterClause.allBlank_of_build hnames (Builders.result_of_build rfl hbuild)
        exact congrArg (Except.mapError Failure.root) (render_add_filter mode hshown _ predicate)

/-- Orders of more than five pieces. -/
def largeOrder : Expr :=
  .lambda ["o"] (.binary .greaterThan (.member (.parameter "o" .unknown) "Amount" .int)
    (.constant (.int 5)))

theorem outcome_shortcuts_largeOrder :
    largeOrder.hasBlankName = false ∧
    (selectWhere .standard "orders" largeOrder .push).outcome =
      .ok "SELECT * FROM orders WHERE (Amount > 5) EMIT CHANGES" := by
  have hnames : largeOrder.hasBlankName = false := by decide
  have hchain : (ofChain .standard "orders" ((Expr.source "o").filter largeOrder) .push).result =
      .ok "SELECT * FROM orders WHERE (Amount > 5) EMIT CHANGES" :=
    result_ofChain_of_inOrder? (by decide +kernel)
  refine ⟨hnames, ?_⟩
  rw [(outcome_shortcuts .standard "orders" "o" .push).2 largeOrder hnames, Report.outcome, hchain]
  rfl

/-- A blank condition, which the chain leaves out, is one that the shortcut cannot do without. -/
example :
    (selectWhere .standard "orders" (.bareMember " " .unknown) .pull).outcome =
      .error (.assembly (.emptyRequired .filter)) :=
  rfl

end Query

end StreamQuery
