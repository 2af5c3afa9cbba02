import StreamQuery.Proofs.Assembly
import StreamQuery.Proofs.Expr.Nodes

/-!
# Chains without their grouping

The filters and the grouping keys of a chain, and the chain that is left when the grouping and the
condition on groups are taken out.
-/

namespace StreamQuery

namespace Stage

def filter? : Stage → Option Expr
  | .filter predicate => some predicate
  | _ => none

def groupKey? : Stage → Option Expr
  | .groupBy key => some key
  | _ => none

end Stage

namespace Chain

def filters (chain : Chain) : List Expr :=
  chain.stages.filterMap Stage.filter?

def groupKeys (chain : Chain) : List Expr :=
  chain.stages.filterMap Stage.groupKey?

/-- The conjunction of all filters. -/
def predicate? (chain : Chain) : Option Expr :=
  ({ filters := chain.filters } : Stages).predicate?

end Chain

namespace Stages

theorem fill_eq_ok {kind : ClauseKind} {slot filled : Option Expr} {value : Expr}
    (h : fill kind slot value = .ok filled) : slot = none ∧ filled = some value := by
  cases slot with
  | none => exact ⟨rfl, (Except.ok.inj h).symm⟩
  | some other => cases h

/-- A stage adds to the filters if it is one, and fills the empty slot for the key if it groups. -/
theorem push_filters_groupBy {stages stages' : Stages} {stage : Stage}
    (h : stages.push stage = .ok stages') :
    stages'.filters = stages.filters ++ stage.filter?.toList ∧
      stages'.groupBy.toList = stages.groupBy.toList ++ stage.groupKey?.toList := by
  cases stage with
  | filter predicate =>
      obtain rfl := Except.ok.inj h
      exact ⟨rfl, (List.append_nil _).symm⟩
  | groupBy key =>
      obtain ⟨filled, hfill, hstages⟩ := bind_eq_ok_iff.mp h
      obtain rfl := Except.ok.inj hstages
      obtain ⟨hnone, rfl⟩ := fill_eq_ok hfill
      exact ⟨(List.append_nil _).symm, by simp [hnone, Stage.groupKey?]⟩
  | orderBy call key method =>
      obtain rfl := Except.ok.inj h
      simp [Stage.filter?, Stage.groupKey?]
  | take count =>
      obtain rfl := Except.ok.inj h
      simp [Stage.filter?, Stage.groupKey?]
  | _ =>
      obtain ⟨filled, -, hstages⟩ := bind_eq_ok_iff.mp h
      obtain rfl := Except.ok.inj hstages
      simp [Stage.filter?, Stage.groupKey?]

theorem foldlM_push_filters_groupBy {stages stages' : Stages} {list : List Stage}
    (h : list.foldlM push stages = .ok stages') :
    stages'.filters = stages.filters ++ list.filterMap Stage.filter? ∧
      stages'.groupBy.toList = stages.groupBy.toList ++ list.filterMap Stage.groupKey? := by
  induction list generalizing stages with
  | nil =>
      obtain rfl := Except.ok.inj h
      simp
  | cons stage rest ih =>
      rw [List.foldlM_cons] at h
      obtain ⟨next, hpush, hrest⟩ := bind_eq_ok_iff.mp h
      obtain ⟨hfilters, hgroupBy⟩ := push_filters_groupBy hpush
      obtain ⟨hfilters', hgroupBy'⟩ := ih hrest
      rw [hfilters', hfilters, hgroupBy', hgroupBy]
      cases stage <;> simp [List.filterMap_cons, Stage.filter?, Stage.groupKey?]

/-- The filters of a chain are all kept, and there is at most one grouping. -/
theorem ofChain_filters_groupBy {chain : Chain} {stages : Stages} (h : ofChain chain = .ok stages) :
    stages.filters = chain.filters ∧ stages.groupBy.toList = chain.groupKeys :=
  foldlM_push_filters_groupBy h

theorem predicate?_eq {chain : Chain} {stages : Stages} (h : ofChain chain = .ok stages) :
    stages.predicate? = chain.predicate? := by
  rw [Chain.predicate?, predicate?, predicate?, (ofChain_filters_groupBy h).1]

end Stages

namespace Expr

/-- The chain without its grouping and the condition on groups. -/
def ungrouped : Expr → Expr
  | .lambda params body => .lambda params body.ungrouped
  | .staticCall name (receiver :: args) type =>
    if name = "GroupBy" ∨ name = "Having" then receiver.ungrouped
    else .staticCall name (receiver.ungrouped :: args) type
  | other => other

end Expr

namespace Chain

theorem argument_receiver (name : String) (receiver receiver' : Expr) (args : List Expr) :
    argument name (receiver :: args) = argument name (receiver' :: args) := by
  cases args <;> rfl

theorem stageOf_receiver_eq {name : String} (hjoin : name ≠ "Join")
    (hordering : OrderingMethod.find? name = none) (receiver receiver' : Expr) (args : List Expr)
    (type : DataType) :
    stageOf name (receiver :: args) type = stageOf name (receiver' :: args) type := by
  unfold stageOf
  rw [argument_receiver name receiver receiver' args]
  simp only [hordering, if_neg hjoin]

theorem stageOf_ordering {name : String} {method : OrderingMethod}
    (h : OrderingMethod.find? name = some method) (args : List Expr) (type : DataType) :
    stageOf name args type =
      do return some (.orderBy (.staticCall name args type) (← argument name args) method) := by
  have hne : ∀ other : String, OrderingMethod.find? other = none → name ≠ other := by
    rintro other hother rfl
    rw [hother] at h
    cases h
  unfold stageOf
  rw [if_neg (hne "Where" (by decide)), if_neg (hne "Select" (by decide)),
    if_neg (hne "GroupBy" (by decide)), if_neg (hne "Having" (by decide)),
    if_neg (hne "Window" (by decide)), if_neg (hne "Join" (by decide)),
    if_neg (not_or.mpr ⟨hne "Take" (by decide), hne "Limit" (by decide)⟩), h]

theorem stageOf_join (args : List Expr) (type : DataType) :
    stageOf "Join" args type =
      if args.length = 5 then .ok (some (.join (.staticCall "Join" args type)))
      else .error (.violation .joinArguments) := by
  simp [stageOf]

/-- A call on another receiver is the same filter, if it is one. -/
theorem stageOf_receiver {name : String} {receiver : Expr} (receiver' : Expr) {args : List Expr}
    {type : DataType} {stage : Option Stage}
    (h : stageOf name (receiver :: args) type = .ok stage) :
    ∃ stage', stageOf name (receiver' :: args) type = .ok stage' ∧
      stage'.bind Stage.filter? = stage.bind Stage.filter? := by
  by_cases hjoin : name = "Join"
  · subst hjoin
    rw [stageOf_join] at h ⊢
    split at h
    · next hlength =>
        obtain rfl := Except.ok.inj h
        exact ⟨_, if_pos hlength, rfl⟩
    · cases h
  · cases hordering : OrderingMethod.find? name with
    | none =>
        rw [stageOf_receiver_eq hjoin hordering receiver receiver'] at h
        exact ⟨stage, h, rfl⟩
    | some method =>
        rw [stageOf_ordering hordering] at h ⊢
        obtain ⟨key, hkey, hstage⟩ := bind_eq_ok_iff.mp h
        obtain rfl := Except.ok.inj hstage
        rw [argument_receiver name receiver receiver'] at hkey
        exact ⟨_, bind_eq_ok_iff.mpr ⟨key, hkey, rfl⟩, rfl⟩

theorem name_of_stageOf {name : String} {args : List Expr} {type : DataType} {stage : Stage}
    (h : stageOf name args type = .ok (some stage)) :
    (stage.kind = .filter → name = "Where") ∧ (stage.kind = .groupBy → name = "GroupBy") ∧
      (stage.kind = .having → name = "Having") ∧
      (stage.kind = .orderBy → (OrderingMethod.find? name).isSome) := by
  have hreturn : ∀ {α : Type} {x : Except Failure α} {f : α → Stage},
      (do return some (f (← x))) = Except.ok (some stage) → ∃ a, f a = stage := by
    intro α x f hx
    obtain ⟨a, -, ha⟩ := bind_eq_ok_iff.mp hx
    exact ⟨a, Option.some.inj (Except.ok.inj ha)⟩
  unfold stageOf at h
  split at h
  · next hname =>
      obtain ⟨_, rfl⟩ := hreturn h
      simp [Stage.kind, hname]
  split at h
  · obtain ⟨_, rfl⟩ := hreturn h
    simp [Stage.kind]
  split at h
  · next hname =>
      obtain ⟨_, rfl⟩ := hreturn h
      simp [Stage.kind, hname]
  split at h
  · next hname =>
      obtain ⟨_, rfl⟩ := hreturn h
      simp [Stage.kind, hname]
  split at h
  · obtain ⟨_, rfl⟩ := hreturn h
    simp [Stage.kind]
  split at h
  · split at h
    · cases h
      simp [Stage.kind]
    · cases h
  split at h
  · obtain ⟨_, -, hcount⟩ := bind_eq_ok_iff.mp h
    obtain ⟨_, rfl⟩ := hreturn hcount
    simp [Stage.kind]
  split at h
  · next hmethod =>
      obtain ⟨_, rfl⟩ := hreturn h
      simp [Stage.kind, hmethod]
  · split at h <;> cases h

theorem filter?_eq_none {stage : Stage} (h : stage.kind ≠ .filter) : stage.filter? = none := by
  cases stage with
  | filter predicate => exact absurd rfl h
  | _ => rfl

theorem filters_push (chain : Chain) (stage : Option Stage) :
    (chain.push stage).filters = chain.filters ++ (stage.bind Stage.filter?).toList := by
  cases stage with
  | none => simp [push, filters]
  | some stage => cases stage <;> simp [push, filters, Stage.filter?]

theorem classify_staticCall {name : String} {receiver : Expr} {args : List Expr} {type : DataType}
    {chain : Chain} (h : classify (.staticCall name (receiver :: args) type) = .ok chain) :
    ∃ inner stage, classify receiver = .ok inner ∧
      stageOf name (receiver :: args) type = .ok stage ∧ chain = inner.push stage := by
  rw [classify] at h
  obtain ⟨inner, hinner, hafter⟩ := bind_eq_ok_iff.mp h
  obtain ⟨stage, hstage, hpush⟩ := bind_eq_ok_iff.mp hafter
  exact ⟨inner, stage, hinner, hstage, (Except.ok.inj hpush).symm⟩

/-- Without its grouping a chain keeps its source and its filters. -/
theorem classify_ungrouped {e : Expr} {chain : Chain} (h : classify e = .ok chain) :
    ∃ chain', classify e.ungrouped = .ok chain' ∧ chain'.source = chain.source ∧
      chain'.filters = chain.filters ∧
      ∀ stage ∈ chain'.stages, stage.kind ≠ .groupBy ∧ stage.kind ≠ .having := by
  induction e generalizing chain with
  | lambda params body ih =>
      rw [classify] at h
      exact ih h
  | source name =>
      obtain rfl := Except.ok.inj h
      exact ⟨_, rfl, rfl, rfl, by simp⟩
  | parameter name type =>
      obtain rfl := Except.ok.inj h
      exact ⟨_, rfl, rfl, rfl, by simp⟩
  | staticCall name args type ihargs =>
      cases args with
      | nil => cases h
      | cons receiver args =>
          obtain ⟨inner, stage, hreceiver, hstage, rfl⟩ := classify_staticCall h
          obtain ⟨inner', hinner', hsource, hfilters, hkinds⟩ :=
            ihargs receiver List.mem_cons_self hreceiver
          rw [Expr.ungrouped]
          split
          · next hname =>
              refine ⟨inner', hinner', hsource, ?_, hkinds⟩
              have hnone : stage.bind Stage.filter? = none := by
                cases stage with
                | none => rfl
                | some stage =>
                    refine filter?_eq_none fun hkind => ?_
                    rw [(name_of_stageOf hstage).1 hkind] at hname
                    exact absurd hname (by decide)
              rw [filters_push, hnone, hfilters]
              simp
          · next hname =>
              obtain ⟨stage', hstage', hfilter⟩ :=
                stageOf_receiver receiver.ungrouped hstage
              refine ⟨inner'.push stage', ?_, hsource, ?_, ?_⟩
              · rw [classify]
                exact bind_eq_ok_iff.mpr
                  ⟨inner', hinner', bind_eq_ok_iff.mpr ⟨stage', hstage', rfl⟩⟩
              · rw [filters_push, filters_push, hfilters, hfilter]
              · intro other hother
                rcases List.mem_append.mp hother with hinner | hlast
                · exact hkinds other hinner
                · rw [Option.mem_toList.mp hlast] at hstage'
                  obtain ⟨-, hgroupBy, hhaving, -⟩ := name_of_stageOf hstage'
                  exact ⟨fun hkind => hname (Or.inl (hgroupBy hkind)),
                    fun hkind => hname (Or.inr (hhaving hkind))⟩
  | _ => cases h

end Chain

end StreamQuery
