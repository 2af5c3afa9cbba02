import StreamQuery.Proofs.Context
import StreamQuery.Proofs.Lowering.Agree
import StreamQuery.Proofs.Query.Draft

/-!
# Chains that build alike

A statement is written from the texts of its clauses, and never from the expressions that they were
built from. Two chains whose stages build the same texts have one statement, or fail with one
failure, and give the same notices on the way.
-/

namespace StreamQuery

/-- The clause without the expression that it was built from. -/
def Clause.unsourced (clause : Clause) : Clause :=
  { clause with source := none }

namespace Draft

section

variable {f : Clause → Clause} (hpart : ∀ clause, (f clause).part = clause.part)
  (hcontent : ∀ clause, (f clause).content = clause.content)

include hpart hcontent

theorem ordered_map (clauses : List Clause) :
    ordered (clauses.map f) = (ordered clauses).map f := by
  have hblank : (fun clause => !(f clause).isBlank) = fun clause => !clause.isBlank := by
    funext clause
    rw [Clause.isBlank, hcontent, Clause.isBlank]
  unfold ordered
  rw [List.filter_map, List.map_mergeSort]
  · exact congrArg (fun keep => ((clauses.filter keep).map f).mergeSort _) hblank
  · intro clause _ other _
    rw [hpart, hpart]

theorem render_map (hrequired : ∀ clause, ((f clause).required && (f clause).isBlank) =
      (clause.required && clause.isBlank)) (draft : Draft) :
    ({ draft with clauses := draft.clauses.map f } : Draft).render = draft.render := by
  have hfind : ((draft.clauses.map f).find? fun clause => clause.required && clause.isBlank) =
      (draft.clauses.find? fun clause => clause.required && clause.isBlank).map f := by
    rw [List.find?_map]
    exact congrArg (fun test => (draft.clauses.find? test).map f) (funext hrequired)
  have htexts : ∀ clauses : List Clause, (clauses.map f).map (·.text) = clauses.map (·.text) := by
    intro clauses
    rw [List.map_map]
    refine List.map_congr_left fun clause _ => ?_
    change Clause.text (f clause) = _
    rw [Clause.text, hpart, hcontent, Clause.text]
  unfold render
  dsimp only
  rw [ordered_map hpart hcontent, hfind]
  cases draft.clauses.find? fun clause => clause.required && clause.isBlank with
  | some clause =>
      change Except.error (Failure.assembly (.emptyRequired (f clause).part)) = _
      rw [hpart]
  | none =>
      cases ordered draft.clauses with
      | nil => rfl
      | cons first rest =>
          change Except.ok (_ ++ String.intercalate " " (((first :: rest).map f).map (·.text))) = _
          rw [htexts]

end

theorem render_eq_of_clauses_eq {draft draft' : Draft} (hkind : draft.kind = draft'.kind)
    (hclauses : draft.clauses = draft'.clauses) : draft.render = draft'.render := by
  unfold render
  rw [hkind, hclauses]

/-- Only the parts, the contents and the requirements of the clauses show in a statement. -/
theorem render_congr {draft draft' : Draft} (hkind : draft.kind = draft'.kind)
    (hclauses : draft.clauses.map Clause.unsourced = draft'.clauses.map Clause.unsourced) :
    draft.render = draft'.render := by
  have hunsourced := render_map (f := Clause.unsourced) (fun _ => rfl) (fun _ => rfl) fun _ => rfl
  rw [← hunsourced draft, ← hunsourced draft']
  exact render_eq_of_clauses_eq hkind hclauses

end Draft

/-- The same notices, and the same failure or two values that are related. -/
structure Report.Agree {α β : Type} (R : α → β → Prop) (report : Report α) (report' : Report β) :
    Prop where
  notices : report.notices = report'.notices
  result : StreamQuery.Agree R report.result report'.result

namespace Report.Agree

variable {α β γ δ : Type} {R : α → β → Prop} {S : γ → δ → Prop}

theorem refl (report : Report α) : Report.Agree Eq report report :=
  ⟨rfl, .refl report.result⟩

theorem ofExcept {x : Except Failure α} {y : Except Failure β} (h : StreamQuery.Agree R x y) :
    Report.Agree R (.ofExcept x) (.ofExcept y) :=
  ⟨rfl, h⟩

theorem of_eq {report report' : Report α} (h : report = report') : Report.Agree Eq report report' :=
  h ▸ refl report

theorem eq {report report' : Report α} (h : Report.Agree Eq report report') :
    report = report' := by
  cases report
  cases report'
  obtain ⟨hnotices, hresult⟩ := h
  rw [Report.mk.injEq]
  exact ⟨hnotices, hresult.eq⟩

theorem bind {x : Report α} {y : Report β} {f : α → Report γ} {g : β → Report δ}
    (h : Report.Agree R x y) (hnext : ∀ a b, R a b → Report.Agree S (f a) (g b)) :
    Report.Agree S (x >>= f) (y >>= g) := by
  obtain ⟨notices, result⟩ := x
  obtain ⟨notices', result'⟩ := y
  obtain ⟨rfl, hresult⟩ : notices = notices' ∧ StreamQuery.Agree R result result' :=
    ⟨h.notices, h.result⟩
  cases hresult with
  | error failure => exact ⟨rfl, .error failure⟩
  | ok hab =>
      obtain ⟨hnotices, hresult⟩ := hnext _ _ hab
      exact ⟨congrArg (notices ++ ·) hnotices, hresult⟩

end Report.Agree

/-- Reports that agree, on the way to which clauses with the same texts were finished. -/
structure Assembly.Agree {α β : Type} (R : α → β → Prop) (assembly : Assembly α)
    (assembly' : Assembly β) : Prop where
  clauses : assembly.clauses.map Clause.unsourced = assembly'.clauses.map Clause.unsourced
  report : assembly.report.Agree R assembly'.report

namespace Assembly.Agree

variable {α β γ δ : Type} {R : α → β → Prop} {S : γ → δ → Prop}

theorem refl (assembly : Assembly α) : Assembly.Agree Eq assembly assembly :=
  ⟨rfl, .refl _⟩

theorem pure {a : α} {b : β} (h : R a b) :
    Assembly.Agree R (Pure.pure a : Assembly α) (Pure.pure b : Assembly β) :=
  ⟨rfl, rfl, .ok h⟩

theorem lift {x : Report α} {y : Report β} (h : x.Agree R y) :
    Assembly.Agree R (liftM x : Assembly α) (liftM y : Assembly β) :=
  ⟨rfl, h⟩

theorem liftExcept {x : Except Failure α} {y : Except Failure β} (h : StreamQuery.Agree R x y) :
    Assembly.Agree R (liftM x : Assembly α) (liftM y : Assembly β) :=
  ⟨rfl, .ofExcept h⟩

theorem emit {clause clause' : Clause} (h : clause.unsourced = clause'.unsourced) :
    Assembly.Agree Eq (Assembly.emit clause) (Assembly.emit clause') :=
  ⟨congrArg (fun clause => [clause]) h, .refl _⟩

theorem emit_ofExpr (part : Part) (content : String) (required : Bool) (e e' : Expr) :
    Assembly.Agree Eq (Assembly.emit (.ofExpr part content required e))
      (Assembly.emit (.ofExpr part content required e')) :=
  emit rfl

theorem bind {x : Assembly α} {y : Assembly β} {f : α → Assembly γ} {g : β → Assembly δ}
    (h : Assembly.Agree R x y) (hnext : ∀ a b, R a b → Assembly.Agree S (f a) (g b)) :
    Assembly.Agree S (x >>= f) (y >>= g) := by
  refine ⟨?_, h.report.bind fun a b hab => (hnext a b hab).report⟩
  have herror : ∀ {α γ : Type} {x : Assembly α} {f : α → Assembly γ} {failure : Failure},
      x.report.result = .error failure → (x >>= f).clauses = x.clauses := by
    intro α γ x f failure hx
    change (Assembly.bind x f).clauses = _
    simp only [Assembly.bind, hx]
  have hok : ∀ {α γ : Type} {x : Assembly α} {f : α → Assembly γ} {value : α},
      x.report.result = .ok value → (x >>= f).clauses = x.clauses ++ (f value).clauses := by
    intro α γ x f value hx
    change (Assembly.bind x f).clauses = _
    simp only [Assembly.bind, hx]
  have hresult := h.report.result
  cases hx : x.report.result <;> cases hy : y.report.result <;> rw [hx, hy] at hresult
  · rw [herror hx, herror hy, h.clauses]
  · cases hresult
  · cases hresult
  · next a b =>
      rw [hok hx, hok hy, List.map_append, List.map_append, h.clauses,
        (hnext a b hresult.related).clauses]

end Assembly.Agree

/-- Expressions from which this clause is built alike, in every context that gives no parameter an
alias. -/
def ClauseKind.BuildsAlike (kind : ClauseKind) (e e' : Expr) : Prop :=
  ∀ builder ∈ kind.build?, ∀ context : Context, context.parameterAliases? = none →
    builder e context = builder e' context

/-- Stages from which all clauses are built alike. -/
structure Stages.Alike (stages stages' : Stages) : Prop where
  groupBy : Option.Rel (fun key key' => ClauseKind.groupBy.BuildsAlike key key' ∧
    ∀ context : Context, context.parameterAliases? = none →
      GroupByClause.groupKeys key context = GroupByClause.groupKeys key' context)
    stages.groupBy stages'.groupBy
  join : Option.Rel (fun call call' => ∀ context : Context, context.parameterAliases? = none →
    JoinClause.analyze call context = JoinClause.analyze call' context) stages.join stages'.join
  select : Option.Rel ClauseKind.select.BuildsAlike stages.select stages'.select
  filter : Option.Rel ClauseKind.filter.BuildsAlike stages.predicate? stages'.predicate?
  window : Option.Rel ClauseKind.window.BuildsAlike stages.window stages'.window
  having : Option.Rel ClauseKind.having.BuildsAlike stages.having stages'.having
  ordering : Option.Rel ClauseKind.orderBy.BuildsAlike stages.ordering stages'.ordering
  take : stages.take = stages'.take

namespace Builders

open Registry

variable {builders : Builders} {context : Context}

theorem build_congr {kind : ClauseKind} {e e' : Expr} (h : kind.BuildsAlike e e')
    (hcontext : context.parameterAliases? = none) :
    builders.build kind e context = builders.build kind e' context := by
  cases hcontains : builders.contains kind with
  | false => rw [build_of_not_contains hcontains, build_of_not_contains hcontains]
  | true =>
      obtain ⟨builder, hkind, hbuild⟩ := build_of_contains hcontains
      rw [hbuild, hbuild, h builder hkind context hcontext]

theorem agree_buildGrouping {key key' : Option Expr}
    (h : Option.Rel (fun key key' => ClauseKind.groupBy.BuildsAlike key key' ∧
      ∀ context : Context, context.parameterAliases? = none →
        GroupByClause.groupKeys key context = GroupByClause.groupKeys key' context) key key')
    (hcontext : context.parameterAliases? = none) :
    (builders.buildGrouping key context).Agree
      (fun p q => Option.Rel (fun built built' => built.text = built'.text) p.1 q.1 ∧ p.2 = q.2 ∧
        p.2.parameterAliases? = none)
      (builders.buildGrouping key' context) := by
  cases h with
  | none => exact ⟨rfl, .ok ⟨.none, rfl, hcontext⟩⟩
  | some h =>
      obtain ⟨hbuild, hkeys⟩ := h
      refine (Report.Agree.of_eq (build_congr hbuild hcontext)).bind ?_
      rintro text _ rfl
      refine (Report.Agree.of_eq (congrArg Report.ofExcept (hkeys context hcontext))).bind ?_
      rintro keys _ rfl
      refine ⟨rfl, .ok ⟨.some rfl, rfl, ?_⟩⟩
      exact (Context.parameterAliases?_grouped context keys).trans hcontext

theorem agree_buildJoin {call call' : Option Expr}
    (h : Option.Rel (fun call call' => ∀ context : Context, context.parameterAliases? = none →
      JoinClause.analyze call context = JoinClause.analyze call' context) call call')
    (hcontext : context.parameterAliases? = none) :
    (builders.buildJoin call context).Agree
      (Option.Rel fun p q => p.1.text = q.1.text ∧ p.2 = q.2)
      (builders.buildJoin call' context) := by
  cases h with
  | none => exact ⟨rfl, .ok .none⟩
  | @some call call' h =>
      have hbuild : ClauseKind.join.BuildsAlike call call' := by
        intro builder hbuilder context hcontext
        obtain rfl := Option.some.inj hbuilder
        dsimp only [JoinClause.build]
        rw [h context hcontext]
      refine (Report.Agree.of_eq (build_congr hbuild hcontext)).bind ?_
      rintro text _ rfl
      refine (Report.Agree.of_eq (congrArg Report.ofExcept (h context hcontext))).bind ?_
      rintro join _ rfl
      exact ⟨rfl, .ok (.some ⟨rfl, rfl⟩)⟩

theorem agree_selectClause {selector selector' : Option Expr} {join join' : Option (Built × Join)}
    (hselector : Option.Rel ClauseKind.select.BuildsAlike selector selector')
    (hjoin : Option.Rel (fun p q => p.1.text = q.1.text ∧ p.2 = q.2) join join')
    (hcontext : context.parameterAliases? = none) :
    (builders.selectClause selector join context).Agree
      (fun clause clause' => clause.unsourced = clause'.unsourced)
      (builders.selectClause selector' join' context) := by
  cases hselector with
  | some hselector =>
      refine (Report.Agree.of_eq (build_congr hselector hcontext)).bind ?_
      rintro text _ rfl
      exact ⟨rfl, .ok rfl⟩
  | none =>
      cases hjoin with
      | none => exact ⟨rfl, .ok rfl⟩
      | some hjoin =>
          refine ⟨rfl, .ok ?_⟩
          dsimp only [Clause.unsourced, Clause.ofExpr]
          rw [hjoin.2]

theorem sourceClause_congr {join join' : Option (Built × Join)}
    (h : Option.Rel (fun p q => p.1.text = q.1.text ∧ p.2 = q.2) join join') :
    sourceClause join context = sourceClause join' context := by
  cases h with
  | none => rfl
  | some h =>
      dsimp only [sourceClause]
      rw [h.2]

theorem agree_addClause {kind : ClauseKind} {part : Part} {e e' : Option Expr}
    (h : Option.Rel kind.BuildsAlike e e') (hcontext : context.parameterAliases? = none) :
    (builders.addClause kind part e context).Agree Eq
      (builders.addClause kind part e' context) := by
  cases h with
  | none => exact .pure rfl
  | some h =>
      refine (Assembly.Agree.lift (.of_eq (build_congr h hcontext))).bind ?_
      rintro text _ rfl
      exact .emit_ofExpr part text false _ _

theorem agree_addBuilt {part : Part} {built built' : Option Built}
    (h : Option.Rel (fun built built' => built.text = built'.text) built built') :
    (addBuilt part built).Agree Eq (addBuilt part built') := by
  cases h with
  | none => exact .pure rfl
  | some h =>
      refine .emit ?_
      dsimp only [Clause.unsourced, Clause.ofExpr]
      rw [h]

theorem agree_addWindow {argument argument' : Option Expr}
    (h : Option.Rel ClauseKind.window.BuildsAlike argument argument')
    (hcontext : context.parameterAliases? = none) :
    (builders.addWindow argument context).Agree Eq (builders.addWindow argument' context) := by
  cases h with
  | none => exact .pure rfl
  | some h =>
      refine (Assembly.Agree.lift (.of_eq (build_congr h hcontext))).bind ?_
      rintro text _ rfl
      split
      · exact (Assembly.Agree.emit_ofExpr _ _ _ _ _).bind fun _ _ _ => .pure rfl
      · exact (Assembly.Agree.emit_ofExpr _ _ _ _ _).bind fun _ _ _ => .pure rfl

/-- Chains with stages that build alike are assembled alike. -/
theorem agree_assemble {chain chain' : Chain}
    (hstages : Agree Stages.Alike (Stages.ofChain chain) (Stages.ofChain chain'))
    (hcontext : context.parameterAliases? = none) :
    (builders.assemble chain context).Agree Eq (builders.assemble chain' context) := by
  -- One step of the assembly after the other, each from the stage that it reads.
  unfold assemble
  refine (Assembly.Agree.liftExcept hstages).bind fun stages stages' halike => ?_
  refine (Assembly.Agree.lift (agree_buildGrouping halike.groupBy hcontext)).bind ?_
  rintro ⟨grouping, inner⟩ ⟨grouping', inner'⟩ ⟨hgrouping, hinner, hnone⟩
  obtain rfl : inner = inner' := hinner
  dsimp only at hgrouping hnone ⊢
  refine (Assembly.Agree.lift (agree_buildJoin halike.join hnone)).bind fun join join' hjoin => ?_
  refine (Assembly.Agree.lift (agree_selectClause halike.select hjoin hnone)).bind ?_
  intro select select' hselect
  refine (Assembly.Agree.emit hselect).bind fun _ _ _ => ?_
  rw [sourceClause_congr hjoin]
  refine (Assembly.Agree.emit rfl).bind fun _ _ _ => ?_
  have hbuilt : Option.Rel (fun built built' => built.text = built'.text) (join.map (·.1))
      (join'.map (·.1)) := by
    cases hjoin with
    | none => exact .none
    | some hjoin => exact .some hjoin.1
  refine (agree_addBuilt hbuilt).bind fun _ _ _ => ?_
  refine (agree_addClause halike.filter hnone).bind fun _ _ _ => ?_
  refine (agree_addWindow halike.window hnone).bind ?_
  rintro final _ rfl
  refine (agree_addBuilt hgrouping).bind fun _ _ _ => ?_
  refine (agree_addClause halike.having hnone).bind fun _ _ _ => ?_
  refine (agree_addClause halike.ordering hnone).bind fun _ _ _ => ?_
  rw [halike.take]
  exact .refl _

end Builders

namespace Query

variable {builders : Builders} {source : String} {mode : ExecutionMode}

theorem assembleChain_congr {kind : StatementKind} {chain chain' : Chain}
    (h : Agree Stages.Alike (Stages.ofChain chain) (Stages.ofChain chain')) :
    assembleChain builders kind source chain mode =
      assembleChain builders kind source chain' mode := by
  have hassembly : (builders.assemble chain { base := source, mode }).Agree Eq
      (builders.assemble chain' { base := source, mode }) :=
    Builders.agree_assemble h rfl
  unfold assembleChain
  dsimp only
  rw [hassembly.report.eq]
  congr 1
  funext final
  congr 1
  unfold addEmit
  split
  · exact Draft.render_congr rfl (by simp [Draft.add, hassembly.clauses])
  · exact Draft.render_congr rfl hassembly.clauses

/-- Queries whose chains fail alike, or have stages that build alike, are the same. -/
theorem ofChain_congr {e e' : Expr}
    (h : Agree
      (fun chain chain' => Agree Stages.Alike (Stages.ofChain chain) (Stages.ofChain chain'))
      (Chain.classify e) (Chain.classify e')) :
    ofChain builders source e mode = ofChain builders source e' mode := by
  unfold ofChain
  congr 1
  generalize Chain.classify e = x at h ⊢
  generalize Chain.classify e' = y at h ⊢
  cases h with
  | error failure => rfl
  | ok h => exact assembleChain_congr h

end Query

end StreamQuery
