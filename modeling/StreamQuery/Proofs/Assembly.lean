import StreamQuery.Assembly
import StreamQuery.Proofs.Report

/-!
# What an assembly is made of

An assembly that succeeds has one list of clauses for each part of the statement, and each list
comes from one stage of the chain.
-/

namespace StreamQuery

namespace Assembly

variable {α β : Type}

/-- The assembly succeeds with these clauses and this value. -/
def Gives (assembly : Assembly α) (clauses : List Clause) (value : α) : Prop :=
  assembly.clauses = clauses ∧ assembly.report.result = .ok value

theorem gives_pure {value : α} {clauses : List Clause} {value' : α} :
    (pure value : Assembly α).Gives clauses value' ↔ clauses = [] ∧ value' = value := by
  unfold Gives
  constructor
  · rintro ⟨rfl, hvalue⟩
    exact ⟨rfl, (Except.ok.inj hvalue).symm⟩
  · rintro ⟨rfl, rfl⟩
    exact ⟨rfl, rfl⟩

theorem gives_emit {clause : Clause} {clauses : List Clause} {value : Unit} :
    (emit clause).Gives clauses value ↔ clauses = [clause] := by
  unfold Gives
  constructor
  · rintro ⟨rfl, -⟩
    rfl
  · rintro rfl
    exact ⟨rfl, rfl⟩

theorem gives_lift {report : Report α} {clauses : List Clause} {value : α} :
    (liftM report : Assembly α).Gives clauses value ↔
      clauses = [] ∧ report.result = .ok value := by
  unfold Gives
  constructor
  · rintro ⟨rfl, hvalue⟩
    exact ⟨rfl, hvalue⟩
  · rintro ⟨rfl, hvalue⟩
    exact ⟨rfl, hvalue⟩

theorem gives_liftExcept {result : Except Failure α} {clauses : List Clause} {value : α} :
    (liftM result : Assembly α).Gives clauses value ↔ clauses = [] ∧ result = .ok value := by
  unfold Gives
  constructor
  · rintro ⟨rfl, hvalue⟩
    exact ⟨rfl, hvalue⟩
  · rintro ⟨rfl, hvalue⟩
    exact ⟨rfl, hvalue⟩

theorem gives_bind {first : Assembly α} {next : α → Assembly β} {clauses : List Clause}
    {value : β} :
    (first >>= next).Gives clauses value ↔
      ∃ before inner after, first.Gives before inner ∧ (next inner).Gives after value ∧
        clauses = before ++ after := by
  change (bind first next).Gives clauses value ↔ _
  unfold Gives bind
  simp only [Report.result_bind]
  cases hfirst : first.report.result with
  | error failure =>
      constructor
      · rintro ⟨-, hvalue⟩
        cases hvalue
      · rintro ⟨_, _, _, ⟨-, hinner⟩, -⟩
        cases hinner
  | ok inner =>
      constructor
      · rintro ⟨rfl, hvalue⟩
        exact ⟨first.clauses, inner, (next inner).clauses, ⟨rfl, rfl⟩, ⟨rfl, hvalue⟩, rfl⟩
      · rintro ⟨_, _, _, ⟨rfl, hinner⟩, ⟨rfl, hvalue⟩, rfl⟩
        obtain rfl := Except.ok.inj hinner
        exact ⟨rfl, hvalue⟩

theorem gives_lift_bind {report : Report α} {next : α → Assembly β} {clauses : List Clause}
    {value : β} :
    (liftM report >>= next : Assembly β).Gives clauses value ↔
      ∃ inner, report.result = .ok inner ∧ (next inner).Gives clauses value := by
  rw [gives_bind]
  constructor
  · rintro ⟨_, inner, after, hlift, hnext, rfl⟩
    obtain ⟨rfl, hinner⟩ := gives_lift.mp hlift
    exact ⟨inner, hinner, hnext⟩
  · rintro ⟨inner, hinner, hnext⟩
    exact ⟨[], inner, clauses, gives_lift.mpr ⟨rfl, hinner⟩, hnext, rfl⟩

theorem gives_emit_bind {clause : Clause} {next : Unit → Assembly β} {clauses : List Clause}
    {value : β} :
    (emit clause >>= next).Gives clauses value ↔
      ∃ after, (next ()).Gives after value ∧ clauses = clause :: after := by
  rw [gives_bind]
  constructor
  · rintro ⟨before, inner, after, hemit, hnext, rfl⟩
    exact ⟨after, hnext, by rw [gives_emit.mp hemit]; rfl⟩
  · rintro ⟨after, hnext, rfl⟩
    exact ⟨[clause], (), after, gives_emit.mpr rfl, hnext, rfl⟩

end Assembly

namespace Registry

theorem build_of_not_contains {registry : Registry} {kind : ClauseKind}
    (h : registry.contains kind = false) (e : Expr) (context : Context) :
    registry.build kind e context = throw (.settings (.noBuilder kind)) := by
  rw [contains, Option.isSome_eq_false_iff, Option.isNone_iff_eq_none] at h
  rw [build, h]

theorem contains_of_build {registry : Registry} {kind : ClauseKind} {e : Expr} {context : Context}
    {text : String} (h : (registry.build kind e context).result = .ok text) :
    registry.contains kind := by
  cases hcontains : registry.contains kind with
  | true => rfl
  | false =>
      rw [build_of_not_contains hcontains] at h
      cases h

end Registry

namespace Builders

/-- Where there is a builder, it is the standard one. -/
theorem build_of_contains {builders : Builders} {kind : ClauseKind}
    (h : builders.contains kind) :
    ∃ builder, kind.build? = some builder ∧ ∀ e context,
      builders.build kind e context = (builder e context).mapFailure (.inClause kind) := by
  obtain ⟨builder, hbuilder⟩ := Option.isSome_iff_exists.mp h
  refine ⟨builder, builders.standard_of_mem kind builder hbuilder, fun e context => ?_⟩
  rw [Registry.build, hbuilder]

/-- A clause that is built is what the standard builder makes. -/
theorem result_of_build {builders : Builders} {kind : ClauseKind} {builder : ClauseBuilder}
    (hkind : kind.build? = some builder) {e : Expr} {context : Context} {text : String}
    (h : (builders.build kind e context).result = .ok text) :
    (builder e context).result = .ok text := by
  obtain ⟨standard, hstandard, hbuild⟩ := build_of_contains (Registry.contains_of_build h)
  obtain rfl := Option.some.inj (hkind.symm.trans hstandard)
  rwa [hbuild, Report.result_mapFailure, mapError_eq_ok_iff] at h

end Builders

namespace Registry

open Assembly

theorem gives_addBuilt {part : Part} {built : Option Built} {clauses : List Clause}
    {value : Unit} :
    (addBuilt part built).Gives clauses value ↔
      clauses = built.toList.map fun built => .ofExpr part built.text false built.source := by
  cases built with
  | none => simp [addBuilt, gives_pure]
  | some built => simp [addBuilt, gives_emit]

theorem gives_addLimit {count : Option Nat} {clauses : List Clause} {value : Unit} :
    (addLimit count).Gives clauses value ↔
      clauses = count.toList.map fun count => { part := .limit, content := toString count } := by
  cases count with
  | none => simp [addLimit, gives_pure]
  | some count => simp [addLimit, gives_emit]

/-- The clauses of an optional stage: none, or the one that is built from it. -/
def ClauseOf (registry : Registry) (kind : ClauseKind) (part : Part) (context : Context)
    (stage : Option Expr) (clauses : List Clause) : Prop :=
  match stage with
  | none => clauses = []
  | some e => ∃ text, (registry.build kind e context).result = .ok text ∧
      clauses = [.ofExpr part text false e]

theorem gives_addClause {registry : Registry} {kind : ClauseKind} {part : Part}
    {stage : Option Expr} {context : Context} {clauses : List Clause} {value : Unit} :
    (registry.addClause kind part stage context).Gives clauses value ↔
      registry.ClauseOf kind part context stage clauses := by
  cases stage with
  | none => simp [addClause, ClauseOf, gives_pure]
  | some e => simp [addClause, ClauseOf, gives_lift_bind, gives_emit]

end Registry

/-- The parts of an assembly: its stages, the context inside a grouping, and the clauses. -/
structure Parts where
  stages : Stages
  grouping : Option Built
  context : Context
  join : Option (Built × Join)
  select : Clause
  filter : List Clause
  window : List Clause
  having : List Clause
  ordering : List Clause

namespace Parts

def clauses (parts : Parts) : List Clause :=
  parts.select :: Registry.sourceClause parts.join parts.context ::
    (((parts.join.map (·.1)).toList.map fun built => .ofExpr .join built.text false built.source) ++
    (parts.filter ++ (parts.window ++
    ((parts.grouping.toList.map fun built => .ofExpr .groupBy built.text false built.source) ++
    (parts.having ++ (parts.ordering ++
    parts.stages.take.toList.map fun count => { part := .limit, content := toString count }))))))

/-- Each part is what the builders make of its stage. -/
structure Fit (registry : Registry) (chain : Chain) (context : Context) (final : Bool)
    (parts : Parts) : Prop where
  stages : Stages.ofChain chain = .ok parts.stages
  grouping : (registry.buildGrouping parts.stages.groupBy context).result =
    .ok (parts.grouping, parts.context)
  join : (registry.buildJoin parts.stages.join parts.context).result = .ok parts.join
  select : (registry.selectClause parts.stages.select parts.join parts.context).result =
    .ok parts.select
  filter : registry.ClauseOf .filter .filter parts.context parts.stages.predicate? parts.filter
  window : (registry.addWindow parts.stages.window parts.context).Gives parts.window final
  having : registry.ClauseOf .having .having parts.context parts.stages.having parts.having
  ordering : registry.ClauseOf .orderBy .orderBy parts.context parts.stages.ordering parts.ordering

end Parts

open Assembly Registry in
/-- An assembly that succeeds has parts that fit the chain. -/
theorem exists_parts {registry : Registry} {chain : Chain} {context : Context}
    {clauses : List Clause} {final : Bool}
    (h : (registry.assemble chain context).Gives clauses final) :
    ∃ parts : Parts, parts.Fit registry chain context final ∧ clauses = parts.clauses := by
  -- One inversion for each step of the assembly, in its order.
  unfold assemble at h
  obtain ⟨_, stages, _, hlift, hafterStages, hclauses⟩ := gives_bind.mp h
  obtain ⟨rfl, hstages⟩ := gives_liftExcept.mp hlift
  obtain ⟨⟨grouping, inner⟩, hgrouping, hafterGrouping⟩ := gives_lift_bind.mp hafterStages
  obtain ⟨join, hjoin, hafterJoin⟩ := gives_lift_bind.mp hafterGrouping
  obtain ⟨select, hselect, hafterSelect⟩ := gives_lift_bind.mp hafterJoin
  obtain ⟨_, hbeforeSource, rfl⟩ := gives_emit_bind.mp hafterSelect
  obtain ⟨_, hafterSource, rfl⟩ := gives_emit_bind.mp hbeforeSource
  obtain ⟨_, _, _, hjoined, hafterJoined, rfl⟩ := gives_bind.mp hafterSource
  obtain ⟨filter, _, _, hfilter, hafterFilter, rfl⟩ := gives_bind.mp hafterJoined
  obtain ⟨window, wish, _, hwindow, hafterWindow, rfl⟩ := gives_bind.mp hafterFilter
  obtain ⟨_, _, _, hgrouped, hafterGrouped, rfl⟩ := gives_bind.mp hafterWindow
  obtain ⟨having, _, _, hhaving, hafterHaving, rfl⟩ := gives_bind.mp hafterGrouped
  obtain ⟨ordering, _, _, hordering, hafterOrdering, rfl⟩ := gives_bind.mp hafterHaving
  obtain ⟨_, _, _, hlimit, hpure, rfl⟩ := gives_bind.mp hafterOrdering
  obtain ⟨rfl, rfl⟩ := gives_pure.mp hpure
  rw [gives_addBuilt.mp hjoined, gives_addBuilt.mp hgrouped, gives_addLimit.mp hlimit] at hclauses
  refine ⟨{ stages, grouping, context := inner, join, select, filter, window, having, ordering },
    ⟨hstages, hgrouping, hjoin, hselect, gives_addClause.mp hfilter, hwindow,
      gives_addClause.mp hhaving, gives_addClause.mp hordering⟩, ?_⟩
  simpa [Parts.clauses] using hclauses

namespace Registry

theorem part_of_selectClause {registry : Registry} {selector : Option Expr}
    {join : Option (Built × Join)} {context : Context} {clause : Clause}
    (h : (registry.selectClause selector join context).result = .ok clause) :
    clause.part = .select := by
  unfold selectClause at h
  split at h
  · obtain ⟨text, -, hclause⟩ := Report.result_bind_eq_ok.mp h
    cases hclause
    rfl
  · cases h
    rfl
  · cases h
    rfl

theorem part_of_clauseOf {registry : Registry} {kind : ClauseKind} {part : Part}
    {context : Context} {stage : Option Expr} {clauses : List Clause}
    (h : registry.ClauseOf kind part context stage clauses) :
    ∀ clause ∈ clauses, clause.part = part := by
  cases stage with
  | none => simp [show clauses = [] from h]
  | some e =>
      obtain ⟨text, -, rfl⟩ := h
      simp [Clause.ofExpr]

theorem part_of_addWindow {registry : Registry} {argument : Option Expr} {context : Context}
    {clauses : List Clause} {final : Bool}
    (h : (registry.addWindow argument context).Gives clauses final) :
    ∀ clause ∈ clauses, clause.part = .window := by
  cases argument with
  | none =>
      obtain ⟨rfl, -⟩ := Assembly.gives_pure.mp h
      simp
  | some argument =>
      obtain ⟨text, -, hemit⟩ := Assembly.gives_lift_bind.mp h
      split at hemit
      · obtain ⟨_, hpure, rfl⟩ := Assembly.gives_emit_bind.mp hemit
        obtain ⟨rfl, -⟩ := Assembly.gives_pure.mp hpure
        simp [Clause.ofExpr]
      · obtain ⟨_, hpure, rfl⟩ := Assembly.gives_emit_bind.mp hemit
        obtain ⟨rfl, -⟩ := Assembly.gives_pure.mp hpure
        simp [Clause.ofExpr]

end Registry

namespace Part

variable {clausesOf : Part → List Clause}

/-- Clauses that are listed part by part stand in the order of their parts. -/
theorem pairwise_rank_flatMap (h : ∀ part, ∀ clause ∈ clausesOf part, clause.part = part) :
    (all.flatMap clausesOf).Pairwise (·.part.rank ≤ ·.part.rank) := by
  have hall : all.Pairwise (·.rank ≤ ·.rank) := by decide
  rw [List.pairwise_flatMap]
  constructor
  · intro part _
    apply List.pairwise_of_forall_mem_list
    intro clause hclause other hother
    exact Nat.le_of_eq (by rw [h part clause hclause, h part other hother])
  · refine hall.imp ?_
    intro part other hrank clause hclause later hlater
    rwa [h part clause hclause, h other later hlater]

theorem filter_flatMap_all (h : ∀ part, ∀ clause ∈ clausesOf part, clause.part = part)
    (part : Part) : (all.flatMap clausesOf).filter (·.part = part) = clausesOf part := by
  have hkept : ∀ other, (clausesOf other).filter (·.part = part) =
      if other = part then clausesOf other else [] := by
    intro other
    split
    · next heq =>
        rw [List.filter_eq_self]
        intro clause hclause
        simp [h other clause hclause, heq]
    · next hne =>
        rw [List.filter_eq_nil_iff]
        intro clause hclause
        simp [h other clause hclause, hne]
  rw [List.filter_flatMap, funext hkept]
  cases part <;> simp [all]

end Part

namespace Parts

/-- The clauses of one part of the statement. -/
def ofPart (parts : Parts) : Part → List Clause
  | .select => [parts.select]
  | .source => [Registry.sourceClause parts.join parts.context]
  | .join => (parts.join.map (·.1)).toList.map fun built =>
    .ofExpr .join built.text false built.source
  | .filter => parts.filter
  | .window => parts.window
  | .groupBy => parts.grouping.toList.map fun built =>
    .ofExpr .groupBy built.text false built.source
  | .having => parts.having
  | .orderBy => parts.ordering
  | .limit => parts.stages.take.toList.map fun count =>
    { part := .limit, content := toString count }
  | .emit => []

theorem clauses_eq_flatMap (parts : Parts) : parts.clauses = Part.all.flatMap parts.ofPart := by
  simp [clauses, Part.all, ofPart]

theorem Fit.part_of_mem {registry : Registry} {chain : Chain} {context : Context} {final : Bool}
    {parts : Parts} (hfit : parts.Fit registry chain context final) {part : Part} {clause : Clause}
    (h : clause ∈ parts.ofPart part) : clause.part = part := by
  cases part with
  | select =>
      rw [List.mem_singleton.mp h]
      exact Registry.part_of_selectClause hfit.select
  | source =>
      rw [List.mem_singleton.mp h]
      rfl
  | filter => exact Registry.part_of_clauseOf hfit.filter clause h
  | window => exact Registry.part_of_addWindow hfit.window clause h
  | having => exact Registry.part_of_clauseOf hfit.having clause h
  | orderBy => exact Registry.part_of_clauseOf hfit.ordering clause h
  | emit => cases h
  | _ =>
      obtain ⟨_, -, rfl⟩ := List.mem_map.mp h
      rfl

/-- The clauses of a part are those that come from its stage. -/
theorem Fit.filter_part {registry : Registry} {chain : Chain} {context : Context} {final : Bool}
    {parts : Parts} (hfit : parts.Fit registry chain context final) (part : Part) :
    parts.clauses.filter (·.part = part) = parts.ofPart part := by
  rw [clauses_eq_flatMap]
  exact Part.filter_flatMap_all (fun _ _ hclause => hfit.part_of_mem hclause) part

end Parts

end StreamQuery
