import StreamQuery.Proofs.Chain

/-!
# The slots of a chain

Stages of some kinds have a slot of their own, so that a chain has at most one of each. The limit of a
chain is set exactly if one of its stages sets it, and what a stage is built from is part of the
query.
-/

namespace StreamQuery

namespace Stage

/-- What the slot for this kind holds of a stage. -/
def slot? : StageKind → Stage → Option Expr
  | .select, .select selector => some selector
  | .groupBy, .groupBy key => some key
  | .having, .having predicate => some predicate
  | .window, .window argument => some argument
  | .join, .join call => some call
  | _, _ => none

/-- What a stage takes from the arguments of its call. -/
def argument? : Stage → Option Expr
  | .filter predicate => some predicate
  | .select selector => some selector
  | .groupBy key => some key
  | .having predicate => some predicate
  | .orderBy _ key _ => some key
  | .window argument => some argument
  | _ => none

theorem slot?_window {stage : Stage} {e : Expr} :
    stage.slot? .window = some e ↔ stage = .window e := by
  cases stage <;> simp [slot?]

theorem slot?_having {stage : Stage} {e : Expr} :
    stage.slot? .having = some e ↔ stage = .having e := by
  cases stage <;> simp [slot?]

theorem argument?_of_filter? {stage : Stage} {e : Expr} (h : stage.filter? = some e) :
    stage.argument? = some e := by
  cases stage <;> first | exact h | cases h

theorem argument?_of_groupKey? {stage : Stage} {e : Expr} (h : stage.groupKey? = some e) :
    stage.argument? = some e := by
  cases stage <;> first | exact h | cases h

end Stage

namespace Stages

/-- The kinds of stages that a chain can have only once. -/
def singleKinds : List StageKind :=
  [.select, .groupBy, .having, .window, .join]

def slot (stages : Stages) : StageKind → Option Expr
  | .select => stages.select
  | .groupBy => stages.groupBy
  | .having => stages.having
  | .window => stages.window
  | .join => stages.join
  | _ => none

/-- A stage fills the slot of its kind, which was empty, and no other. -/
theorem push_slot {stages stages' : Stages} {stage : Stage} (h : stages.push stage = .ok stages')
    (kind : StageKind) :
    (stages'.slot kind).toList = (stages.slot kind).toList ++ (stage.slot? kind).toList := by
  cases stage with
  | filter predicate =>
      obtain rfl := Except.ok.inj h
      cases kind <;> simp [slot, Stage.slot?]
  | orderBy call key method =>
      obtain rfl := Except.ok.inj h
      cases kind <;> simp [slot, Stage.slot?]
  | take count =>
      obtain rfl := Except.ok.inj h
      cases kind <;> simp [slot, Stage.slot?]
  | _ =>
      obtain ⟨filled, hfill, hstages⟩ := bind_eq_ok_iff.mp h
      obtain rfl := Except.ok.inj hstages
      obtain ⟨hnone, rfl⟩ := fill_eq_ok hfill
      cases kind <;> simp [slot, Stage.slot?, hnone]

theorem foldlM_push_slot {stages stages' : Stages} {list : List Stage}
    (h : list.foldlM push stages = .ok stages') (kind : StageKind) :
    (stages'.slot kind).toList =
      (stages.slot kind).toList ++ list.filterMap (Stage.slot? kind) := by
  induction list generalizing stages with
  | nil =>
      obtain rfl := Except.ok.inj h
      simp
  | cons stage rest ih =>
      rw [List.foldlM_cons] at h
      obtain ⟨next, hpush, hrest⟩ := bind_eq_ok_iff.mp h
      rw [ih hrest, push_slot hpush, List.filterMap_cons]
      cases Stage.slot? kind stage <;> simp

/-- A slot holds the one stage of its kind, if the chain has one. -/
theorem ofChain_slot {chain : Chain} {stages : Stages} (h : ofChain chain = .ok stages)
    (kind : StageKind) :
    (stages.slot kind).toList = chain.stages.filterMap (Stage.slot? kind) := by
  have hempty : (({} : Stages).slot kind).toList = [] := by
    cases kind <;> rfl
  rw [foldlM_push_slot h kind, hempty, List.nil_append]

theorem slot_eq_some {chain : Chain} {stages : Stages} (h : ofChain chain = .ok stages)
    {kind : StageKind} {e : Expr} :
    stages.slot kind = some e ↔ ∃ stage ∈ chain.stages, stage.slot? kind = some e := by
  rw [← List.mem_filterMap, ← ofChain_slot h, Option.mem_toList]

/-- A slot that only one constructor fills holds the argument of that stage. -/
theorem slot_eq_some_iff_mem {chain : Chain} {stages : Stages} (h : ofChain chain = .ok stages)
    {kind : StageKind} {stageOf : Expr → Stage}
    (hstageOf : ∀ {stage : Stage} {e : Expr}, stage.slot? kind = some e ↔ stage = stageOf e)
    {e : Expr} : stages.slot kind = some e ↔ stageOf e ∈ chain.stages := by
  rw [slot_eq_some h]
  constructor
  · rintro ⟨stage, hstage, hslot⟩
    exact hstageOf.mp hslot ▸ hstage
  · exact fun hmem => ⟨stageOf e, hmem, hstageOf.mpr rfl⟩

/-- A chain has as many stages of a single kind as their slot holds. -/
theorem count_eq_length_slot {chain : Chain} {stages : Stages} (h : ofChain chain = .ok stages)
    {kind : StageKind} (hkind : kind ∈ singleKinds) :
    chain.count kind = (stages.slot kind).toList.length := by
  have hread : ∀ stage : Stage, (stage.slot? kind).isSome ↔ stage.kind = kind := by
    intro stage
    cases kind <;> cases stage <;> simp_all [Stage.slot?, Stage.kind, singleKinds]
  rw [ofChain_slot h, List.length_filterMap_eq_countP, Chain.count]
  exact List.countP_congr fun stage _ => by rw [hread, decide_eq_true_iff]

theorem isSome_slot {chain : Chain} {stages : Stages} (h : ofChain chain = .ok stages)
    {kind : StageKind} (hkind : kind ∈ singleKinds) :
    (stages.slot kind).isSome ↔ 0 < chain.count kind := by
  rw [count_eq_length_slot h hkind]
  cases stages.slot kind <;> simp

theorem push_take {stages stages' : Stages} {stage : Stage} (h : stages.push stage = .ok stages') :
    stages'.take.isSome = (stages.take.isSome || decide (stage.kind = .take)) := by
  cases stage with
  | filter predicate =>
      obtain rfl := Except.ok.inj h
      simp [Stage.kind]
  | orderBy call key method =>
      obtain rfl := Except.ok.inj h
      simp [Stage.kind]
  | take count =>
      obtain rfl := Except.ok.inj h
      simp [Stage.kind]
  | _ =>
      obtain ⟨filled, -, hstages⟩ := bind_eq_ok_iff.mp h
      obtain rfl := Except.ok.inj hstages
      simp [Stage.kind]

theorem isSome_take {chain : Chain} {stages : Stages} (h : ofChain chain = .ok stages) :
    stages.take.isSome ↔ 0 < chain.count .take := by
  have hrun : ∀ {list : List Stage} {stages stages' : Stages},
      list.foldlM push stages = .ok stages' →
        stages'.take.isSome = (stages.take.isSome || list.any (·.kind = .take)) := by
    intro list
    induction list with
    | nil =>
        intro stages stages' h
        obtain rfl := Except.ok.inj h
        simp
    | cons stage rest ih =>
        intro stages stages' h
        rw [List.foldlM_cons] at h
        obtain ⟨next, hpush, hrest⟩ := bind_eq_ok_iff.mp h
        rw [ih hrest, push_take hpush, List.any_cons, Bool.or_assoc]
  rw [hrun h, Chain.count, List.countP_pos_iff, Option.isSome_none, Bool.false_or, List.any_eq_true]

end Stages

namespace Chain

theorem argument_mem_of_stageOf {name : String} {args : List Expr} {type : DataType} {stage : Stage}
    (h : stageOf name args type = .ok (some stage)) {e : Expr} (he : stage.argument? = some e) :
    e ∈ args := by
  have hargument : ∀ {build : Expr → Stage}, (∀ a, (build a).argument? = some a) →
      (do return some (build (← argument name args))) = Except.ok (some stage) → e ∈ args := by
    intro build hbuild hreturn
    obtain ⟨a, ha, hpure⟩ := bind_eq_ok_iff.mp hreturn
    rw [← Option.some.inj (Except.ok.inj hpure), hbuild] at he
    obtain rfl := Option.some.inj he
    unfold argument at ha
    split at ha
    · rw [← Except.ok.inj ha]
      simp
    · cases ha
  unfold stageOf at h
  split at h
  · exact hargument (fun _ => rfl) h
  split at h
  · exact hargument (fun _ => rfl) h
  split at h
  · exact hargument (fun _ => rfl) h
  split at h
  · exact hargument (fun _ => rfl) h
  split at h
  · exact hargument (fun _ => rfl) h
  split at h
  · split at h
    · cases h
      cases he
    · cases h
  split at h
  · obtain ⟨_, -, hcount⟩ := bind_eq_ok_iff.mp h
    obtain ⟨_, -, hpure⟩ := bind_eq_ok_iff.mp hcount
    rw [← Option.some.inj (Except.ok.inj hpure)] at he
    cases he
  split at h
  · exact hargument (fun _ => rfl) h
  · split at h <;> cases h

/-- The arguments of the stages are parts of the query. -/
theorem mem_nodes_of_classify {e : Expr} {chain : Chain} (h : classify e = .ok chain)
    {stage : Stage} (hstage : stage ∈ chain.stages) {part : Expr} (hpart : stage.argument? = some part) :
    part ∈ e.nodes := by
  induction e generalizing chain with
  | lambda params body ih =>
      rw [classify] at h
      exact Expr.mem_nodes.mpr (Or.inr ⟨body, List.mem_cons_self, ih h hstage⟩)
  | source name =>
      obtain rfl := Except.ok.inj h
      cases hstage
  | parameter name type =>
      obtain rfl := Except.ok.inj h
      cases hstage
  | staticCall name args type ihargs =>
      cases args with
      | nil => cases h
      | cons receiver args =>
          obtain ⟨inner, last, hreceiver, hlast, rfl⟩ := classify_staticCall h
          rcases List.mem_append.mp hstage with hinner | hmem
          · have hnode := ihargs receiver List.mem_cons_self hreceiver hinner
            exact Expr.mem_nodes.mpr (Or.inr ⟨receiver, List.mem_cons_self, hnode⟩)
          · rw [Option.mem_toList.mp hmem] at hlast
            exact Expr.mem_nodes.mpr
              (Or.inr ⟨part, argument_mem_of_stageOf hlast hpart, part.self_mem_nodes⟩)
  | _ => cases h

theorem mem_nodes_of_mem_filters {e : Expr} {chain : Chain} (h : classify e = .ok chain)
    {predicate : Expr} (hmem : predicate ∈ chain.filters) : predicate ∈ e.nodes := by
  obtain ⟨stage, hstage, hread⟩ := List.mem_filterMap.mp hmem
  exact mem_nodes_of_classify h hstage (Stage.argument?_of_filter? hread)

theorem mem_nodes_of_mem_groupKeys {e : Expr} {chain : Chain} (h : classify e = .ok chain)
    {key : Expr} (hmem : key ∈ chain.groupKeys) : key ∈ e.nodes := by
  obtain ⟨stage, hstage, hread⟩ := List.mem_filterMap.mp hmem
  exact mem_nodes_of_classify h hstage (Stage.argument?_of_groupKey? hread)

end Chain

end StreamQuery
