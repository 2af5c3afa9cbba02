import StreamQuery.Proofs.Clause.Failures
import StreamQuery.Proofs.Query.Written

/-!
# Failures of queries

A query fails when its chain cannot be read, when one of its clauses cannot be built, or when too
little is left to write. A failure in a clause keeps what the builder of the clause failed with, and
names the clause. Clauses that are read a second time, for the columns of a key or of a join, do not
fail then. The statement adds its name once, and no name hides the root of the failure.
-/

namespace StreamQuery

open Failure

namespace Stages

/-- What the clause of a kind is built from. -/
def argument? (stages : Stages) : ClauseKind → Option Expr
  | .select => stages.select
  | .filter => stages.predicate?
  | .groupBy => stages.groupBy
  | .having => stages.having
  | .join => stages.join
  | .window => stages.window
  | .orderBy => stages.ordering
  | .projection => none

theorem fill_eq_error {kind : ClauseKind} {slot : Option Expr} {value : Expr} {failure : Failure}
    (h : fill kind slot value = .error failure) :
    failure = .violation (.repeatedStage kind) ∧ slot.isSome := by
  cases slot with
  | none => cases h
  | some e => exact ⟨(Except.error.inj h).symm, rfl⟩

/-- A stage is refused only if its slot is taken. -/
theorem push_eq_error {stages : Stages} {stage : Stage} {failure : Failure}
    (h : stages.push stage = .error failure) :
    ∃ kind : ClauseKind, kind.name = stage.kind.name ∧ stage.kind ∈ singleKinds ∧
      failure = .violation (.repeatedStage kind) ∧ (stages.slot stage.kind).isSome := by
  cases stage with
  | filter predicate => cases h
  | orderBy call key method => cases h
  | take count => cases h
  | _ =>
      obtain hfill | ⟨_, -, hpure⟩ := bind_eq_error_iff.mp h
      · exact ⟨_, rfl, by simp [Stage.kind, singleKinds], fill_eq_error hfill⟩
      · cases hpure

theorem ofChain_eq_error {chain : Chain} {failure : Failure} (h : ofChain chain = .error failure) :
    ∃ (kind : ClauseKind) (stage : StageKind), kind.name = stage.name ∧ stage ∈ singleKinds ∧
      failure = .violation (.repeatedStage kind) ∧ 2 ≤ chain.count stage := by
  obtain ⟨before, stage, after, reached, hchain, hbefore, hpush⟩ := foldlM_eq_error h
  obtain ⟨kind, hname, hsingle, hfailure, hslot⟩ := push_eq_error hpush
  refine ⟨kind, stage.kind, hname, hsingle, hfailure, ?_⟩
  have hreached : ofChain { stages := before } = .ok reached := hbefore
  have hcount : 0 < before.countP (·.kind = stage.kind) := (isSome_slot hreached hsingle).mp hslot
  rw [Chain.count, hchain, List.countP_append, List.countP_cons_of_pos (by simp)]
  omega

end Stages

/-- The context in which the clause of a kind is built: the grouping in the outer one, and all other
clauses inside the grouping. -/
def Chain.contextOf (chain : Chain) (context : Context) : ClauseKind → Context
  | .groupBy => context
  | _ => chain.innerContext context

namespace Builders

open Registry

/-- The reasons for which the clauses of a chain are not all built. -/
inductive FailureOf (builders : Builders) (chain : Chain) (context : Context) : Failure → Prop where
  | repeated {kind : ClauseKind} {stage : StageKind} (hname : kind.name = stage.name)
      (hsingle : stage ∈ Stages.singleKinds) (hcount : 2 ≤ chain.count stage) :
      FailureOf builders chain context (.violation (.repeatedStage kind))
  | missing {stages : Stages} {kind : ClauseKind} {e : Expr}
      (hstages : Stages.ofChain chain = .ok stages) (he : stages.argument? kind = some e)
      (hmissing : builders.contains kind = false) :
      FailureOf builders chain context (.settings (.noBuilder kind))
  | clause {stages : Stages} {kind : ClauseKind} {e : Expr}
      {builder : Expr → Context → Report String} {cause : Failure}
      (hstages : Stages.ofChain chain = .ok stages) (he : stages.argument? kind = some e)
      (hcontains : builders.contains kind = true) (hbuilder : kind.build? = some builder)
      (hcause : (builder e (chain.contextOf context kind)).result = .error cause) :
      FailureOf builders chain context (.inClause kind cause)

theorem failsOnly_ofChain (builders : Builders) (chain : Chain) (context : Context) :
    FailsOnly (builders.FailureOf chain context) (Stages.ofChain chain) := by
  intro failure h
  obtain ⟨kind, stage, hname, hsingle, rfl, hcount⟩ := Stages.ofChain_eq_error h
  exact .repeated hname hsingle hcount

/-- A join whose clause is built can be analyzed, since its clause is written from the analysis. -/
theorem exists_analyze_of_build {builders : Builders} {call : Expr} {context : Context}
    {text : String} (h : (builders.build .join call context).result = .ok text) :
    ∃ join, JoinClause.analyze call context = .ok join := by
  obtain ⟨join, hjoin, -⟩ := bind_eq_ok_iff.mp (result_of_build rfl h)
  exact ⟨join, hjoin⟩

section

variable {builders : Builders} {chain : Chain} {context : Context} {stages : Stages}
  (hstages : Stages.ofChain chain = .ok stages)

include hstages

theorem failsOnly_build (kind : ClauseKind) {e : Expr} (he : stages.argument? kind = some e) :
    FailsOnly (builders.FailureOf chain context)
      (builders.build kind e (chain.contextOf context kind)).result := by
  cases hcontains : builders.contains kind with
  | false =>
      rw [build_of_not_contains hcontains]
      exact .error (.missing hstages he hcontains)
  | true =>
      obtain ⟨builder, hbuilder, hbuild⟩ := build_of_contains hcontains
      rw [hbuild, Report.result_mapFailure]
      intro failure h
      obtain ⟨cause, hcause, rfl⟩ := mapError_eq_error_iff.mp h
      exact .clause hstages he hcontains hbuilder hcause

theorem failsOnly_buildGrouping :
    FailsOnly (builders.FailureOf chain context)
      (builders.buildGrouping stages.groupBy context).result := by
  cases hkey : stages.groupBy with
  | none => exact .ok _
  | some key =>
      refine .report_bind (failsOnly_build hstages .groupBy hkey) ?_
      intro text htext
      obtain ⟨keys, hkeys⟩ := exists_groupKeys_of_build htext
      rw [hkeys]
      exact .ok _

theorem failsOnly_buildJoin :
    FailsOnly (builders.FailureOf chain context)
      (builders.buildJoin stages.join (chain.innerContext context)).result := by
  cases hcall : stages.join with
  | none => exact .ok _
  | some call =>
      refine .report_bind (failsOnly_build hstages .join hcall) ?_
      intro text htext
      obtain ⟨join, hjoin⟩ := exists_analyze_of_build htext
      rw [hjoin]
      exact .ok _

theorem failsOnly_selectClause (join : Option (Built × Join)) :
    FailsOnly (builders.FailureOf chain context)
      (builders.selectClause stages.select join (chain.innerContext context)).result := by
  unfold selectClause
  split
  · next selector _ hselector =>
      exact .report_bind (failsOnly_build hstages .select hselector) fun _ _ => .ok _
  · exact .ok _
  · exact .ok _

theorem failsOnly_addClause (kind : ClauseKind) (part : Part) :
    FailsOnly (builders.FailureOf chain context) (builders.addClause kind part
      (stages.argument? kind) (chain.contextOf context kind)).report.result := by
  cases he : stages.argument? kind with
  | none => exact .ok _
  | some e =>
      exact .report_bind (failsOnly_build hstages kind he) fun _ _ => .ok _

theorem failsOnly_addWindow :
    FailsOnly (builders.FailureOf chain context)
      (builders.addWindow stages.window (chain.innerContext context)).report.result := by
  cases hwindow : stages.window with
  | none => exact .ok _
  | some argument =>
      refine .report_bind (failsOnly_build hstages .window hwindow) ?_
      intro text _
      dsimp only
      split <;> exact .ok _

end

theorem failsOnly_addBuilt {P : Failure → Prop} (part : Part) (built : Option Built) :
    FailsOnly P (addBuilt part built).report.result := by
  cases built <;> exact .ok _

theorem failsOnly_addLimit {P : Failure → Prop} (count : Option Nat) :
    FailsOnly P (addLimit count).report.result := by
  cases count <;> exact .ok _

/-- One step of the assembly after the other, in the context that the grouping leaves. -/
theorem failsOnly_assemble (builders : Builders) (chain : Chain) (context : Context) :
    FailsOnly (builders.FailureOf chain context)
      (builders.assemble chain context).report.result := by
  refine .report_bind (builders.failsOnly_ofChain chain context) ?_
  intro stages hstages
  refine .report_bind (failsOnly_buildGrouping hstages) ?_
  rintro ⟨grouping, inner⟩ hgrouping
  obtain rfl := Chain.innerContext_of_buildGrouping hstages hgrouping
  refine .report_bind (failsOnly_buildJoin hstages) ?_
  intro join _
  refine .report_bind (failsOnly_selectClause hstages join) ?_
  intro select _
  refine .report_bind (.ok ()) fun _ _ => .report_bind (.ok ()) fun _ _ => ?_
  refine .report_bind (failsOnly_addBuilt _ _) fun _ _ => ?_
  refine .report_bind (failsOnly_addClause hstages .filter _) fun _ _ => ?_
  refine .report_bind (failsOnly_addWindow hstages) fun final _ => ?_
  refine .report_bind (failsOnly_addBuilt _ _) fun _ _ => ?_
  refine .report_bind (failsOnly_addClause hstages .having _) fun _ _ => ?_
  refine .report_bind (failsOnly_addClause hstages .orderBy _) fun _ _ => ?_
  exact .report_bind (failsOnly_addLimit _) fun _ _ => .ok final

end Builders

/-- In an assembly that succeeds every clause that its chain asks for is built. -/
theorem Parts.Fit.exists_build {builders : Builders} {chain : Chain} {context : Context}
    {final : Bool} {parts : Parts} (hfit : parts.Fit builders chain context final)
    {kind : ClauseKind} {e : Expr} (he : parts.stages.argument? kind = some e) :
    ∃ text, (builders.build kind e (chain.contextOf context kind)).result = .ok text := by
  have hinner := hfit.context_eq
  cases kind with
  | select =>
      have hselect := hfit.select
      rw [show parts.stages.select = some e from he, hinner] at hselect
      obtain ⟨text, htext, -⟩ := Report.result_bind_eq_ok.mp hselect
      exact ⟨text, htext⟩
  | filter =>
      have hfilter := hfit.filter
      rw [show parts.stages.predicate? = some e from he, hinner] at hfilter
      obtain ⟨text, htext, -⟩ := hfilter
      exact ⟨text, htext⟩
  | groupBy =>
      have hgrouping := hfit.grouping
      rw [show parts.stages.groupBy = some e from he] at hgrouping
      obtain ⟨text, htext, -⟩ := Report.result_bind_eq_ok.mp hgrouping
      exact ⟨text, htext⟩
  | having =>
      have hhaving := hfit.having
      rw [show parts.stages.having = some e from he, hinner] at hhaving
      obtain ⟨text, htext, -⟩ := hhaving
      exact ⟨text, htext⟩
  | join =>
      have hjoin := hfit.join
      rw [show parts.stages.join = some e from he, hinner] at hjoin
      obtain ⟨text, htext, -⟩ := Report.result_bind_eq_ok.mp hjoin
      exact ⟨text, htext⟩
  | window =>
      have hwindow := hfit.window
      rw [show parts.stages.window = some e from he, hinner] at hwindow
      obtain ⟨text, htext, -⟩ := Assembly.gives_lift_bind.mp hwindow
      exact ⟨text, htext⟩
  | orderBy =>
      have hordering := hfit.ordering
      rw [show parts.stages.ordering = some e from he, hinner] at hordering
      obtain ⟨text, htext, -⟩ := hordering
      exact ⟨text, htext⟩
  | projection => cases he

namespace Builders

open Registry

variable {builders : Builders} {chain : Chain} {context : Context} {failure : Failure}

/-- Each of the reasons is enough for the assembly to fail. -/
theorem FailureOf.exists_error (h : builders.FailureOf chain context failure) :
    ∃ failure, (builders.assemble chain context).report.result = .error failure := by
  cases hresult : (builders.assemble chain context).report.result with
  | error failure => exact ⟨failure, rfl⟩
  | ok final =>
      exfalso
      obtain ⟨parts, hfit, -⟩ := exists_parts
        (⟨rfl, hresult⟩ : (builders.assemble chain context).Gives _ final)
      have hparts := hfit.stages
      cases h with
      | @repeated kind stage hname hsingle hcount =>
          rw [Stages.count_eq_length_slot hparts hsingle] at hcount
          cases hslot : parts.stages.slot stage <;> simp [hslot] at hcount
      | missing hstages he hmissing =>
          obtain rfl := Except.ok.inj (hparts.symm.trans hstages)
          obtain ⟨text, htext⟩ := hfit.exists_build he
          rw [contains_of_build htext] at hmissing
          cases hmissing
      | clause hstages he hcontains hbuilder hcause =>
          obtain rfl := Except.ok.inj (hparts.symm.trans hstages)
          obtain ⟨text, htext⟩ := hfit.exists_build he
          cases hcause.symm.trans (result_of_build hbuilder htext)

/-- A clause is named once, around the root of the failure. -/
theorem FailureOf.root_eq {kind : ClauseKind} {cause : Failure}
    (h : builders.FailureOf chain context (.inClause kind cause)) : cause.root = cause := by
  cases h with
  | clause hstages he hcontains hbuilder hcause =>
      exact (ClauseKind.isRoot_of_build? hbuilder _ _ _ hcause).root_eq

theorem FailureOf.tasks_eq_nil (h : builders.FailureOf chain context failure) :
    failure.tasks = [] := by
  cases h with
  | repeated => rfl
  | missing => rfl
  | clause hstages he hcontains hbuilder hcause =>
      exact (ClauseKind.isRoot_of_build? hbuilder _ _ _ hcause).tasks_eq_nil

end Builders

namespace Chain

theorem isRoot_of_argument (name : String) (args : List Expr) :
    FailsOnly IsRoot (argument name args) := by
  unfold argument
  split
  · exact .ok _
  · exact .error trivial

theorem isRoot_of_stageOf (name : String) (args : List Expr) (type : DataType) :
    FailsOnly IsRoot (stageOf name args type) := by
  have hargument := isRoot_of_argument name args
  unfold stageOf
  split
  · exact hargument.map
  split
  · exact hargument.map
  split
  · exact hargument.map
  split
  · exact hargument.map
  split
  · exact hargument.map
  split
  · split
    · exact .ok _
    · exact .error trivial
  split
  · refine hargument.bind fun count _ => FailsOnly.map ?_
    unfold takeCount
    split
    · exact .ok _
    · exact .error trivial
  split
  · exact hargument.map
  · split
    · exact .ok _
    · exact .error trivial

theorem isRoot_of_classify (e : Expr) : FailsOnly IsRoot (classify e) := by
  fun_induction classify e with
  | case1 params body ih => exact ih
  | case2 => exact .ok _
  | case3 => exact .ok _
  | case4 name receiver args type ih =>
      exact ih.bind fun chain _ => (isRoot_of_stageOf _ _ _).map
  | case5 => exact .error trivial

end Chain

theorem Draft.isRoot_of_render (draft : Draft) : FailsOnly IsRoot draft.render := by
  unfold render
  split
  · exact .error trivial
  split
  · exact .error trivial
  · exact .ok _

namespace Query

variable {builders : Builders} {source : String} {e : Expr} {mode : ExecutionMode}

/-- What a query fails with before it is named: the chain is not read, its clauses are not built, or
they are not written. -/
inductive CauseOf (builders : Builders) (source : String) (e : Expr) (mode : ExecutionMode) :
    Failure → Prop where
  | reading {cause : Failure} (h : Chain.classify e = .error cause) :
      CauseOf builders source e mode cause
  | assembly {chain : Chain} {cause : Failure} (hchain : Chain.classify e = .ok chain)
      (h : (builders.assemble chain { base := source, mode }).report.result = .error cause) :
      CauseOf builders source e mode cause
  | rendering {chain : Chain} {final : Bool} {cause : Failure}
      (hchain : Chain.classify e = .ok chain)
      (hfinal : (builders.assemble chain { base := source, mode }).report.result = .ok final)
      (h : (addEmit
        { kind := .select
          base := source
          clauses := (builders.assemble chain { base := source, mode }).clauses }
        mode final).render = .error cause) :
      CauseOf builders source e mode cause

theorem CauseOf.tasks_eq_nil {cause : Failure} (h : CauseOf builders source e mode cause) :
    cause.tasks = [] := by
  cases h with
  | reading h => exact (Chain.isRoot_of_classify e _ h).tasks_eq_nil
  | assembly hchain h => exact (builders.failsOnly_assemble _ _ _ h).tasks_eq_nil
  | rendering hchain hfinal h => exact (Draft.isRoot_of_render _ _ h).tasks_eq_nil

theorem causeOf_iff {cause : Failure} :
    CauseOf builders source e mode cause ↔
      draftOf builders source e mode >>= Draft.render = .error cause := by
  constructor
  · intro h
    cases h with
    | reading h => exact bind_eq_error_iff.mpr (Or.inl (bind_eq_error_iff.mpr (Or.inl h)))
    | @assembly chain _ hchain h =>
        have hdraft : draftOf builders source e mode = .error cause :=
          bind_eq_error_iff.mpr (Or.inr ⟨chain, hchain, bind_eq_error_iff.mpr (Or.inl h)⟩)
        exact bind_eq_error_iff.mpr (Or.inl hdraft)
    | @rendering chain final _ hchain hfinal h =>
        have hdraft := draftOf_eq_ok.mpr ⟨chain, hchain, bind_eq_ok_iff.mpr ⟨final, hfinal, rfl⟩⟩
        exact bind_eq_error_iff.mpr (Or.inr ⟨_, hdraft, h⟩)
  · intro h
    obtain hdraft | ⟨draft, hdraft, hrender⟩ := bind_eq_error_iff.mp h
    · obtain hread | ⟨chain, hchain, hafter⟩ := bind_eq_error_iff.mp hdraft
      · exact .reading hread
      · obtain hassemble | ⟨final, -, hpure⟩ := bind_eq_error_iff.mp hafter
        · exact .assembly hchain hassemble
        · cases hpure
    · obtain ⟨chain, hchain, hafter⟩ := draftOf_eq_ok.mp hdraft
      obtain ⟨final, hfinal, hpure⟩ := bind_eq_ok_iff.mp hafter
      obtain rfl := Except.ok.inj hpure
      exact .rendering hchain hfinal hrender

theorem result_ofChain_eq_error {failure : Failure} :
    (ofChain builders source e mode).result = .error failure ↔
      ∃ cause, CauseOf builders source e mode cause ∧ failure = .inTask (.chain source) cause := by
  simp only [result_ofChain, mapError_eq_error_iff, causeOf_iff]

/-- The clauses of a chain are not all built exactly if a stage is repeated, a builder is missing or
a builder fails, and what the builder failed with is kept. The second readings of a grouping and of
a join do not fail. The statement fails exactly if its chain is not read, built or written, and adds
its own name to that once. -/
theorem failures_of_chain (builders : Builders) (chain : Chain) (context : Context) :
    (∀ failure, (builders.assemble chain context).report.result = .error failure →
      builders.FailureOf chain context failure) ∧
    (∀ failure, builders.FailureOf chain context failure →
      ∃ failure, (builders.assemble chain context).report.result = .error failure) ∧
    (∀ kind cause, builders.FailureOf chain context (.inClause kind cause) → cause.root = cause) ∧
    (∀ kind, (Failure.violation (.repeatedStage kind)).message =
        "Multiple " ++ kind.name ++ " calls are not supported" ∧
      (Failure.settings (.noBuilder kind)).message =
        "Configuration error: No builder registered for " ++ kind.name) ∧
    (∀ key text, (builders.build .groupBy key context).result = .ok text →
      ∃ keys, GroupByClause.groupKeys key context = .ok keys ∧
        (context.grouped keys).groupKeys? = some keys) ∧
    (∀ call text, (builders.build .join call context).result = .ok text →
      ∃ join, JoinClause.analyze call context = .ok join) ∧
    ∀ source e mode failure, (ofChain builders source e mode).result = .error failure ↔
      ∃ cause, CauseOf builders source e mode cause ∧ failure = .inTask (.chain source) cause ∧
        failure.tasks = [.chain source] ∧ failure.root = cause.root := by
  refine ⟨builders.failsOnly_assemble chain context, fun _ => Builders.FailureOf.exists_error,
    fun _ _ => Builders.FailureOf.root_eq, fun kind => ⟨rfl, ?_⟩, ?_,
    fun _ _ => Builders.exists_analyze_of_build, ?_⟩
  · change "Configuration error: " ++ ("No builder registered for " ++ kind.name) = _
    rw [← String.append_assoc]
    rfl
  · intro key text htext
    obtain ⟨keys, hkeys⟩ := Builders.exists_groupKeys_of_build htext
    exact ⟨keys, hkeys, context.groupKeys?_grouped keys⟩
  · intro source e mode failure
    rw [result_ofChain_eq_error]
    constructor
    · rintro ⟨cause, hcause, rfl⟩
      exact ⟨cause, hcause, rfl, congrArg (Task.chain source :: ·) hcause.tasks_eq_nil, rfl⟩
    · rintro ⟨cause, hcause, hfailure, -, -⟩
      exact ⟨cause, hcause, hfailure⟩

/-- Orders with the names of their customers. -/
def withCustomers : Expr :=
  let order := Expr.parameter "o" .unknown
  let customer := Expr.parameter "c" .unknown
  (Expr.source "orders").join (.source "customers")
    (.lambda ["o"] (.member order "CustomerId" .int)) (.lambda ["c"] (.member customer "Id" .int))
    (.lambda ["o", "c"] (.object [(none, .member order "Region" .string),
      (none, .member customer "Name" .string)]))

def regionOfOrder : Expr :=
  .lambda ["o"] (.member (.parameter "o" .unknown) "Region" .string)

/-- Whether a group has several orders, which only a condition on groups can ask. -/
def severalOrders : Expr :=
  .lambda ["g"] (.binary .greaterThan (.call (.parameter "g" .unknown) "Count" [] .int)
    (.constant (.int 1)))

/-- A filter that is built after the grouping and the join, and fails, and a chain with two
windows. -/
theorem failures_of_chain_severalOrders :
    Builders.standard.FailureOf
      { stages := [.join withCustomers, .groupBy regionOfOrder, .filter severalOrders] }
      { base := "orders" } (.inClause .filter (.violation .aggregateInFilter)) ∧
    (Failure.violation .aggregateInFilter).root = .violation .aggregateInFilter ∧
    (∃ failure, (Builders.standard.assemble
      { stages := [.window severalOrders, .window severalOrders] }
      { base := "orders" }).report.result = .error failure) ∧
    (∃ keys, GroupByClause.groupKeys regionOfOrder { base := "orders" } = .ok keys ∧
      (Context.grouped { base := "orders" } keys).groupKeys? = some keys) ∧
    (∃ join, JoinClause.analyze withCustomers { base := "orders" } = .ok join) ∧
    ∃ cause, CauseOf .standard "orders"
        ((withCustomers.groupBy regionOfOrder).filter severalOrders) .push cause ∧
      cause.root = .violation .aggregateInFilter := by
  have hrepeated : Builders.standard.FailureOf
      { stages := [.window severalOrders, .window severalOrders] } { base := "orders" }
      (.violation (.repeatedStage .window)) :=
    .repeated (show ClauseKind.window.name = StageKind.window.name from rfl) (by decide) (by decide)
  have hfails := (failures_of_chain .standard _ _).2.1 _ hrepeated
  obtain ⟨hfailure, -, hroots, -, hgroupKeys, hanalyze, hquery⟩ := failures_of_chain .standard
    { stages := [.join withCustomers, .groupBy regionOfOrder, .filter severalOrders] }
    { base := "orders" }
  obtain ⟨cause, hcause, -, -, hroot⟩ := (hquery "orders"
    ((withCustomers.groupBy regionOfOrder).filter severalOrders) .push _).mp rfl
  have hfilter := hfailure _ rfl
  exact ⟨hfilter, hroots _ _ hfilter, hfails, hgroupKeys _ _ rfl, hanalyze _ _ rfl, cause, hcause,
    hroot.symm⟩

end Query

end StreamQuery
