import StreamQuery.Expr.Fluent
import StreamQuery.Proofs.Query.Alike
import StreamQuery.Proofs.Stages

/-!
# Queries written step by step

A query is a source and the steps taken on it, each of which stands for one stage of the chain,
whatever the query before it. Only filters, limits and orderings depend on the order in which the
steps are taken: the other steps may stand anywhere.
-/

namespace StreamQuery

/-- A step of a query, without the query that it is taken on. -/
inductive Step where
  | filter (predicate : Expr)
  | select (selector : Expr)
  | groupBy (key : Expr)
  | having (predicate : Expr)
  | orderBy (method : OrderingMethod) (key : Expr)
  | window (settings : Window)
  | windowOf (size : Duration)
  | take (count : Nat)
  | join (inner outerKey innerKey result : Expr)
  | passThrough (method : String) (leaves : method ∈ Chain.passThroughMethods)

namespace Step

/-- The query after the step. -/
def apply (query : Expr) : Step → Expr
  | .filter predicate => query.filter predicate
  | .select selector => query.select selector
  | .groupBy key => query.groupBy key
  | .having predicate => query.having predicate
  | .orderBy ⟨.ascending, true⟩ key => query.orderBy key
  | .orderBy ⟨.descending, true⟩ key => query.orderByDescending key
  | .orderBy ⟨.ascending, false⟩ key => query.thenBy key
  | .orderBy ⟨.descending, false⟩ key => query.thenByDescending key
  | .window settings => query.window settings
  | .windowOf size => query.windowOf size
  | .take count => query.take count
  | .join inner outerKey innerKey result => query.join inner outerKey innerKey result
  | .passThrough method _ => query.extend method []

/-- The stage that the step stands for when it is taken on a query. -/
def stage? (query : Expr) : Step → Option Stage
  | .filter predicate => some (.filter predicate)
  | .select selector => some (.select selector)
  | .groupBy key => some (.groupBy key)
  | .having predicate => some (.having predicate)
  | .orderBy method key => some (.orderBy (apply query (.orderBy method key)) key method)
  | .window settings => some (.window (.constant (.window settings)))
  | .windowOf size => some (.window (.constant (.duration size)))
  | .take count => some (.take count)
  | .join inner outerKey innerKey result =>
    some (.join (query.join inner outerKey innerKey result))
  | .passThrough .. => none

def kind? : Step → Option StageKind
  | .filter _ => some .filter
  | .select _ => some .select
  | .groupBy _ => some .groupBy
  | .having _ => some .having
  | .orderBy .. => some .orderBy
  | .window _ => some .window
  | .windowOf _ => some .window
  | .take _ => some .take
  | .join .. => some .join
  | .passThrough .. => none

/-- The steps of a kind, in order. -/
def ofKind (kind : StageKind) (steps : List Step) : List Step :=
  steps.filter (·.kind? = some kind)

/-- The query that takes the steps on a stream or table. -/
def query (source : String) (steps : List Step) : Expr :=
  steps.foldl apply (.source source)

/-- The stages of steps that are taken on a query. -/
def stages (query : Expr) : List Step → List Stage
  | [] => []
  | step :: rest => (step.stage? query).toList ++ stages (step.apply query) rest

theorem stageOf_passThrough {method : String} (h : method ∈ Chain.passThroughMethods)
    (args : List Expr) (type : DataType) : Chain.stageOf method args type = .ok none := by
  have hcases : ∀ method ∈ Chain.passThroughMethods, ∀ (args : List Expr) (type : DataType),
      Chain.stageOf method args type = .ok none := by
    simp [Chain.passThroughMethods, Chain.stageOf, OrderingMethod.find?]
  exact hcases method h args type

theorem classify_apply {query : Expr} {chain : Chain} (h : Chain.classify query = .ok chain)
    (step : Step) : Chain.classify (step.apply query) = .ok (chain.push (step.stage? query)) := by
  have hcall : ∀ (name : String) (args : List Expr) (stage : Option Stage),
      Chain.stageOf name (query :: args) .unknown = .ok stage →
        Chain.classify (query.extend name args) = .ok (chain.push stage) := by
    intro name args stage hstage
    rw [Expr.extend, Chain.classify, h, hstage]
    rfl
  cases step with
  | filter predicate => exact hcall "Where" [predicate] _ rfl
  | select selector => exact hcall "Select" [selector] _ rfl
  | groupBy key => exact hcall "GroupBy" [key] _ rfl
  | having predicate => exact hcall "Having" [predicate] _ rfl
  | orderBy method key =>
      obtain ⟨direction, restart⟩ := method
      cases direction with
      | ascending =>
          cases restart with
          | true => exact hcall "OrderBy" [key] _ rfl
          | false => exact hcall "ThenBy" [key] _ rfl
      | descending =>
          cases restart with
          | true => exact hcall "OrderByDescending" [key] _ rfl
          | false => exact hcall "ThenByDescending" [key] _ rfl
  | window settings => exact hcall "Window" [.constant (.window settings)] _ rfl
  | windowOf size => exact hcall "Window" [.constant (.duration size)] _ rfl
  | take count => exact hcall "Take" [.constant (.int count)] _ rfl
  | join inner outerKey innerKey result =>
      exact hcall "Join" [inner, outerKey, innerKey, result] _ rfl
  | passThrough method leaves => exact hcall method [] _ (stageOf_passThrough leaves _ _)

/-- A chain has one stage for each step, in order. -/
theorem classify_foldl_apply (steps : List Step) {query : Expr} {chain : Chain}
    (h : Chain.classify query = .ok chain) :
    Chain.classify (steps.foldl apply query) =
      .ok { chain with stages := chain.stages ++ stages query steps } := by
  induction steps generalizing query chain with
  | nil => rw [List.foldl_nil, h, stages, List.append_nil]
  | cons step rest ih =>
      rw [List.foldl_cons, ih (classify_apply h step), stages, Chain.push, List.append_assoc]

theorem classify_query (source : String) (steps : List Step) :
    Chain.classify (query source steps) =
      .ok { source := some source, stages := stages (.source source) steps } := by
  have hsource : Chain.classify (.source source) = .ok { source := some source } := rfl
  rw [query, classify_foldl_apply steps hsource, List.nil_append]

theorem sourceName?_apply (query : Expr) (step : Step) :
    JoinClause.sourceName? (step.apply query) = JoinClause.sourceName? query := by
  cases step with
  | orderBy method key =>
      obtain ⟨direction, restart⟩ := method
      cases direction <;> cases restart <;> rfl
  | _ => rfl

def filter? : Step → Option Expr
  | .filter predicate => some predicate
  | _ => none

def take? : Step → Option Nat
  | .take count => some count
  | _ => none

/-- What the slot for this kind holds of a step, on whatever query the step is taken. -/
def slot? : StageKind → Step → Option Expr
  | .select, .select selector => some selector
  | .groupBy, .groupBy key => some key
  | .having, .having predicate => some predicate
  | .window, .window settings => some (.constant (.window settings))
  | .window, .windowOf size => some (.constant (.duration size))
  | _, _ => none

/-- Two lists of at most one element each are equal if they have the same elements. -/
theorem eq_of_perm_of_length_le_one {α : Type} {list list' : List α} (h : list.Perm list')
    (hlength : list.length ≤ 1) : list = list' := by
  match list with
  | [] => exact (List.nil_perm.mp h).symm
  | [_] => exact List.singleton_perm.mp h
  | _ :: _ :: _ =>
      simp only [List.length_cons] at hlength
      omega

theorem kind?_of_slot? {kind : StageKind} {step : Step} (h : (slot? kind step).isSome) :
    step.kind? = some kind := by
  cases kind <;> cases step <;> first | rfl | cases h

theorem kind?_of_filter? {step : Step} (h : step.filter?.isSome) : step.kind? = some .filter := by
  cases step <;> first | rfl | cases h

theorem kind?_of_take? {step : Step} (h : step.take?.isSome) : step.kind? = some .take := by
  cases step <;> first | rfl | cases h

/-- Reading off only steps of a kind, the others may be left out before. -/
theorem filterMap_ofKind {β : Type} {kind : StageKind} {read : Step → Option β}
    (h : ∀ step, (read step).isSome → step.kind? = some kind) (steps : List Step) :
    (ofKind kind steps).filterMap read = steps.filterMap read := by
  rw [ofKind, List.filterMap_filter]
  congr 1
  funext step
  split
  · rfl
  · next hkind =>
      cases hread : read step with
      | none => rfl
      | some value => exact absurd (h step (by rw [hread]; rfl)) (by simpa using hkind)

theorem filterMap_congr_ofKind {β : Type} {kind : StageKind} {read : Step → Option β}
    (h : ∀ step, (read step).isSome → step.kind? = some kind) {steps steps' : List Step}
    (hkind : ofKind kind steps = ofKind kind steps') :
    steps.filterMap read = steps'.filterMap read := by
  rw [← filterMap_ofKind h, hkind, filterMap_ofKind h]

end Step

namespace Stages

/-- The call is the step, taken on some query over the source. -/
def JoinsOver (source : String) (call : Expr) (step : Step) : Prop :=
  ∃ query, JoinClause.sourceName? query = some source ∧ call = step.apply query

/-- The stages that come from the steps, on whatever query over the source each is taken. -/
structure Collects (source : String) (steps : List Step) (stages : Stages) : Prop where
  filters : stages.filters = steps.filterMap Step.filter?
  slots : ∀ kind, kind ≠ .join → (stages.slot kind).toList = steps.filterMap (Step.slot? kind)
  ordering : stages.ordering = none
  take : stages.take = (steps.filterMap Step.take?).getLast?
  join : List.Forall₂ (JoinsOver source) stages.join.toList (Step.ofKind .join steps)

namespace Collects

variable {source : String} {steps : List Step} {stages : Stages}

theorem slot_eq_none (h : Collects source steps stages) {kind : StageKind} (hkind : kind ≠ .join)
    (hfree : Step.ofKind kind steps = []) : stages.slot kind = none := by
  rw [← Option.toList_eq_nil_iff, h.slots kind hkind,
    ← Step.filterMap_ofKind (fun _ => Step.kind?_of_slot?), hfree]
  rfl

theorem join_eq_none (h : Collects source steps stages)
    (hfree : Step.ofKind .join steps = []) : stages.join = none := by
  have hjoin := h.join
  rw [hfree, List.forall₂_nil_right_iff] at hjoin
  exact Option.toList_eq_nil_iff.mp hjoin

/-- The stages after one more step: what it adds stands last, and a limit replaces earlier ones. -/
theorem concat (h : Collects source steps stages) {step : Step} {stages' : Stages}
    (hfilters : stages'.filters = stages.filters ++ step.filter?.toList)
    (hslots : ∀ kind, kind ≠ .join → (stages'.slot kind).toList =
      (stages.slot kind).toList ++ (Step.slot? kind step).toList)
    (hordering : stages'.ordering = stages.ordering)
    (htake : stages'.take = step.take?.or stages.take) {calls : List Expr}
    (hcalls : stages'.join.toList = stages.join.toList ++ calls)
    (hjoin : List.Forall₂ (JoinsOver source) calls (Step.ofKind .join [step])) :
    Collects source (steps ++ [step]) stages' where
  filters := by
    rw [hfilters, h.filters, List.filterMap_append]
    cases hstep : step.filter? <;> simp [hstep]
  slots kind hkind := by
    rw [hslots kind hkind, h.slots kind hkind, List.filterMap_append]
    cases hstep : Step.slot? kind step <;> simp [hstep]
  ordering := hordering.trans h.ordering
  take := by
    rw [htake, h.take, List.filterMap_append]
    cases hstep : step.take? <;> simp [hstep]
  join := by
    rw [hcalls, Step.ofKind, List.filter_append]
    exact List.rel_append h.join hjoin

/-- A step fills its own slot, if no step before it has done so, and leaves all else as it is. -/
theorem push (h : Collects source steps stages) {query : Expr}
    (hquery : JoinClause.sourceName? query = some source) {step : Step}
    (hordering : step.kind? ≠ some .orderBy)
    (hfree : ∀ kind ∈ singleKinds, step.kind? = some kind → Step.ofKind kind steps = []) :
    ∃ stages', (step.stage? query).toList.foldlM Stages.push stages = .ok stages' ∧
      Collects source (steps ++ [step]) stages' := by
  have hnil := (List.append_nil stages.join.toList).symm
  have hempty : ∀ kind ∈ singleKinds, kind ≠ .join → step.kind? = some kind →
      stages.slot kind = none :=
    fun kind hkind hne hstep => h.slot_eq_none hne (hfree kind hkind hstep)
  cases step with
  | filter predicate =>
      exact ⟨_, rfl, h.concat rfl (fun kind _ => by cases kind <;> simp [slot, Step.slot?]) rfl rfl
        hnil .nil⟩
  | take count =>
      exact ⟨_, rfl, h.concat (by simp [Step.filter?])
        (fun kind _ => by cases kind <;> simp [slot, Step.slot?]) rfl rfl hnil .nil⟩
  | passThrough method leaves =>
      exact ⟨_, rfl, h.concat (by simp [Step.filter?])
        (fun kind _ => by cases kind <;> simp [Step.slot?]) rfl rfl hnil .nil⟩
  | orderBy method key => exact absurd rfl hordering
  | select selector =>
      have hnone : stages.select = none := hempty .select (by decide) (by decide) rfl
      refine ⟨{ stages with select := some selector }, ?_, h.concat (by simp [Step.filter?])
        (fun kind hkind => ?_) rfl rfl hnil .nil⟩
      · simp [Step.stage?, Stages.push, hnone, fill]
      · cases kind <;> simp_all [slot, Step.slot?]
  | groupBy key =>
      have hnone : stages.groupBy = none := hempty .groupBy (by decide) (by decide) rfl
      refine ⟨{ stages with groupBy := some key }, ?_, h.concat (by simp [Step.filter?])
        (fun kind hkind => ?_) rfl rfl hnil .nil⟩
      · simp [Step.stage?, Stages.push, hnone, fill]
      · cases kind <;> simp_all [slot, Step.slot?]
  | having predicate =>
      have hnone : stages.having = none := hempty .having (by decide) (by decide) rfl
      refine ⟨{ stages with having := some predicate }, ?_, h.concat (by simp [Step.filter?])
        (fun kind hkind => ?_) rfl rfl hnil .nil⟩
      · simp [Step.stage?, Stages.push, hnone, fill]
      · cases kind <;> simp_all [slot, Step.slot?]
  | window settings =>
      have hnone : stages.window = none := hempty .window (by decide) (by decide) rfl
      refine ⟨{ stages with window := some (.constant (.window settings)) }, ?_,
        h.concat (by simp [Step.filter?]) (fun kind hkind => ?_) rfl rfl hnil .nil⟩
      · simp [Step.stage?, Stages.push, hnone, fill]
      · cases kind <;> simp_all [slot, Step.slot?]
  | windowOf size =>
      have hnone : stages.window = none := hempty .window (by decide) (by decide) rfl
      refine ⟨{ stages with window := some (.constant (.duration size)) }, ?_,
        h.concat (by simp [Step.filter?]) (fun kind hkind => ?_) rfl rfl hnil .nil⟩
      · simp [Step.stage?, Stages.push, hnone, fill]
      · cases kind <;> simp_all [slot, Step.slot?]
  | join inner outerKey innerKey result =>
      have hnone : stages.join = none := h.join_eq_none (hfree .join (by decide) rfl)
      refine ⟨{ stages with join := some (query.join inner outerKey innerKey result) }, ?_,
        h.concat (by simp [Step.filter?]) (fun kind hkind => ?_) rfl rfl
          (by simp [hnone]; rfl) (.cons ⟨query, hquery, rfl⟩ .nil)⟩
      · simp [Step.stage?, Stages.push, hnone, fill]
      · cases kind <;> simp_all [slot, Step.slot?]

/-- Steps after others, of which none fills a slot twice, are all collected. -/
theorem run (rest : List Step) {steps : List Step} {stages : Stages} {query : Expr}
    (h : Collects source steps stages) (hquery : JoinClause.sourceName? query = some source)
    (hordering : ∀ step ∈ rest, step.kind? ≠ some .orderBy)
    (honce : ∀ kind ∈ singleKinds, (Step.ofKind kind (steps ++ rest)).length ≤ 1) :
    ∃ stages', (Step.stages query rest).foldlM Stages.push stages = .ok stages' ∧
      Collects source (steps ++ rest) stages' := by
  induction rest generalizing steps stages query with
  | nil => exact ⟨stages, rfl, by rwa [List.append_nil]⟩
  | cons step rest ih =>
      have hfree : ∀ kind ∈ singleKinds, step.kind? = some kind → Step.ofKind kind steps = [] := by
        intro kind hkind hstep
        have hlength := honce kind hkind
        rw [Step.ofKind, List.filter_append, List.length_append,
          List.filter_cons_of_pos (by simpa using hstep), List.length_cons] at hlength
        exact List.length_eq_zero_iff.mp (by rw [Step.ofKind]; omega)
      obtain ⟨next, hpush, hnext⟩ := h.push hquery (hordering step (by simp)) hfree
      obtain ⟨last, hrun, hlast⟩ := ih hnext ((Step.sourceName?_apply query step).trans hquery)
        (fun step hstep => hordering step (List.mem_cons_of_mem _ hstep))
        (by rwa [List.append_assoc])
      refine ⟨last, ?_, by rwa [List.append_assoc] at hlast⟩
      rw [Step.stages, List.foldlM_append, hpush]
      exact hrun

end Collects

/-- A query without orderings and without a second stage of a single kind collects its steps. -/
theorem exists_collects (source : String) {steps : List Step}
    (hordering : ∀ step ∈ steps, step.kind? ≠ some .orderBy)
    (honce : ∀ kind ∈ singleKinds, (Step.ofKind kind steps).length ≤ 1) :
    ∃ stages, ofChain { source := some source, stages := Step.stages (.source source) steps } =
      .ok stages ∧ Collects source steps stages := by
  have hempty : Collects source [] {} :=
    { filters := rfl
      slots := fun kind _ => by cases kind <;> rfl
      ordering := rfl
      take := rfl
      join := .nil }
  exact hempty.run steps rfl hordering honce

/-- Of the query that a join is taken on, only the source shows. -/
theorem analyze_joinsOver {source : String} {step : Step} {call call' : Expr}
    (h : JoinsOver source call step) (h' : JoinsOver source call' step) (context : Context) :
    JoinClause.analyze call context = JoinClause.analyze call' context := by
  obtain ⟨query, hquery, rfl⟩ := h
  obtain ⟨query', hquery', rfl⟩ := h'
  cases step with
  | join inner outerKey innerKey result =>
      change JoinClause.analyzeArgs query inner outerKey innerKey result context =
        JoinClause.analyzeArgs query' inner outerKey innerKey result context
      unfold JoinClause.analyzeArgs
      rw [hquery, hquery']
  | orderBy method key =>
      obtain ⟨direction, restart⟩ := method
      cases direction <;> cases restart <;> rfl
  | _ => rfl

namespace Collects

variable {source : String} {steps steps' : List Step} {stages stages' : Stages}

theorem slot_eq (h : Collects source steps stages) (h' : Collects source steps' stages')
    {kind : StageKind} (hne : kind ≠ .join)
    (hkind : Step.ofKind kind steps = Step.ofKind kind steps') :
    stages.slot kind = stages'.slot kind := by
  have hlist : (stages.slot kind).toList = (stages'.slot kind).toList := by
    rw [h.slots kind hne, h'.slots kind hne,
      Step.filterMap_congr_ofKind (fun _ => Step.kind?_of_slot?) hkind]
  have hhead := congrArg List.head? hlist
  rwa [Option.head?_toList, Option.head?_toList] at hhead

theorem rel_join (h : Collects source steps stages) (h' : Collects source steps' stages')
    (hkind : Step.ofKind .join steps = Step.ofKind .join steps') :
    Option.Rel (fun call call' => ∀ context : Context, context.parameterAliases? = none →
      JoinClause.analyze call context = JoinClause.analyze call' context)
      stages.join stages'.join := by
  have hjoin := h.join
  have hjoin' := h'.join
  rw [hkind] at hjoin
  generalize Step.ofKind .join steps' = joins at hjoin hjoin'
  generalize stages.join = slot at hjoin ⊢
  generalize stages'.join = slot' at hjoin' ⊢
  cases slot with
  | none =>
      cases hjoin
      rw [List.forall₂_nil_right_iff, Option.toList_eq_nil_iff] at hjoin'
      rw [hjoin']
      exact .none
  | some call =>
      cases hjoin with
      | cons hcall hrest =>
          cases slot' with
          | none => cases hjoin'
          | some call' =>
              cases hjoin' with
              | cons hcall' _ => exact .some fun context _ => analyze_joinsOver hcall hcall' context

/-- Stages with the same steps of each kind build alike, in whatever order the kinds are mixed. -/
theorem alike (h : Collects source steps stages) (h' : Collects source steps' stages')
    (hkinds : ∀ kind, Step.ofKind kind steps = Step.ofKind kind steps') :
    stages.Alike stages' := by
  have hsame : ∀ {R : Expr → Expr → Prop} {slot slot' : Option Expr}, slot = slot' →
      (∀ e, R e e) → Option.Rel R slot slot' := by
    rintro R slot _ rfl hR
    cases slot with
    | none => exact .none
    | some e => exact .some (hR e)
  have hfilters : stages.filters = stages'.filters := by
    rw [h.filters, h'.filters]
    exact Step.filterMap_congr_ofKind (fun _ => Step.kind?_of_filter?) (hkinds .filter)
  constructor
  · exact hsame (h.slot_eq h' (by decide) (hkinds .groupBy))
      fun _ => ⟨fun _ _ _ _ => rfl, fun _ _ => rfl⟩
  · exact h.rel_join h' (hkinds .join)
  · exact hsame (h.slot_eq h' (by decide) (hkinds .select)) fun _ _ _ _ _ => rfl
  · unfold predicate?
    rw [hfilters]
    exact hsame rfl fun _ _ _ _ _ => rfl
  · exact hsame (h.slot_eq h' (by decide) (hkinds .window)) fun _ _ _ _ _ => rfl
  · exact hsame (h.slot_eq h' (by decide) (hkinds .having)) fun _ _ _ _ _ => rfl
  · rw [h.ordering, h'.ordering]
    exact .none
  · rw [h.take, h'.take]
    exact congrArg List.getLast?
      (Step.filterMap_congr_ofKind (fun _ => Step.kind?_of_take?) (hkinds .take))

end Collects

end Stages

namespace Query

/-- The steps of a query may stand in any order, as long as the filters and the limits each keep
theirs and no ordering is among them. -/
theorem ofChain_query_perm (builders : Builders) (source name : String) (mode : ExecutionMode)
    (steps steps' : List Step) (hordering : ∀ step ∈ steps, step.kind? ≠ some .orderBy)
    (honce : ∀ kind ∈ Stages.singleKinds, (Step.ofKind kind steps).length ≤ 1)
    (hperm : steps.Perm steps') (hfilters : Step.ofKind .filter steps = Step.ofKind .filter steps')
    (htakes : Step.ofKind .take steps = Step.ofKind .take steps') :
    ofChain builders source (Step.query name steps) mode =
      ofChain builders source (Step.query name steps') mode := by
  have hordering' : ∀ step ∈ steps', step.kind? ≠ some .orderBy :=
    fun step hstep => hordering step (hperm.mem_iff.mpr hstep)
  have hsingle : ∀ kind ∈ Stages.singleKinds, Step.ofKind kind steps = Step.ofKind kind steps' :=
    fun kind hkind => Step.eq_of_perm_of_length_le_one (hperm.filter _) (honce kind hkind)
  have honce' : ∀ kind ∈ Stages.singleKinds, (Step.ofKind kind steps').length ≤ 1 := by
    intro kind hkind
    rw [← hsingle kind hkind]
    exact honce kind hkind
  have hkinds : ∀ kind, Step.ofKind kind steps = Step.ofKind kind steps' := by
    intro kind
    cases kind with
    | filter => exact hfilters
    | take => exact htakes
    | orderBy =>
        have hnone : ∀ {steps : List Step}, (∀ step ∈ steps, step.kind? ≠ some .orderBy) →
            Step.ofKind .orderBy steps = [] := by
          intro steps h
          simpa [Step.ofKind, List.filter_eq_nil_iff] using h
        rw [hnone hordering, hnone hordering']
    | _ => exact hsingle _ (by decide)
  obtain ⟨stages, hstages, hcollects⟩ := Stages.exists_collects name hordering honce
  obtain ⟨stages', hstages', hcollects'⟩ := Stages.exists_collects name hordering' honce'
  refine ofChain_congr ?_
  rw [Step.classify_query, Step.classify_query]
  refine .ok ?_
  rw [hstages, hstages']
  exact .ok (hcollects.alike hcollects' hkinds)

/-- The orders that are counted, and two limits, of which the last counts. -/
def countedRows : List Step :=
  let order := Expr.parameter "o" .unknown
  let large := Expr.binary .greaterThan (.member order "Amount" .int) (.constant (.int 5))
  [.filter (.lambda ["o"] (.member order "Paid" .bool)), .take 10, .filter (.lambda ["o"] large),
    .take 5]

/-- The orders of each region of their customers, counted by the minute. -/
def countedBy : List Step :=
  let order := Expr.parameter "o" .unknown
  let customer := Expr.parameter "c" .unknown
  let group := Expr.parameter "g" .unknown
  [.groupBy (.lambda ["o"] (.member order "Region" .string)),
    .window [.kind .tumbling, .size (.ofSeconds 60), .emitFinal],
    .select (.lambda ["g"] (.named [("Region", .member group "Key" .string),
      ("Orders", .staticCall "Count" [group] .int)])),
    .join (.source "customers") (.lambda ["o"] (.member order "CustomerId" .int))
      (.lambda ["c"] (.member customer "Id" .int)) (.lambda ["o", "c"] customer)]

/-- The join and the select list may come first, and the filters and limits last. -/
theorem ofChain_query_perm_countedRows :
    (ofChain .standard "orders" (Step.query "orders" (countedBy.reverse ++ countedRows))
        .pull).result =
      .ok ("SELECT Region, COUNT(*) AS Orders FROM orders o " ++
        "JOIN customers i ON o.CustomerId = i.Id WHERE ((Paid = true) AND (Amount > 5)) " ++
        "WINDOW TUMBLING (SIZE 1 MINUTES) GROUP BY Region LIMIT 5 EMIT FINAL") := by
  have hperm : (countedRows ++ countedBy).Perm (countedBy.reverse ++ countedRows) :=
    List.perm_append_comm.trans ((List.reverse_perm countedBy).symm.append_right countedRows)
  rw [← ofChain_query_perm .standard "orders" "orders" .pull (countedRows ++ countedBy)
    (countedBy.reverse ++ countedRows) (by simp [countedRows, countedBy, Step.kind?])
    (by decide) hperm rfl rfl]
  exact result_ofChain_of_inOrder? (by decide +kernel)

end Query

end StreamQuery
