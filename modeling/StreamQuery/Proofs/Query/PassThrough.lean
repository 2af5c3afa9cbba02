import StreamQuery.Proofs.Lowering.Contexts
import StreamQuery.Proofs.Query.Ordering
import StreamQuery.Proofs.Query.Shortcuts
import StreamQuery.Proofs.Query.Similar
import StreamQuery.Proofs.Query.Steps

/-!
# Calls that leave a query as it is

A pass-through call may stand around every receiver of a chain. The chain is read as before, and so
are the sides of a join. The ordering clause is not read off the chain but down the receivers of the
last ordering call, and stops at every other call. So a call between an ordering and its
continuation cuts off the earlier terms: the continuation then has nothing to continue, and a new
ordering no longer checks what it discards.
-/

namespace StreamQuery

namespace Expr

variable {method : String} {type : DataType}

/-- The chain with a call of `method` around the receiver that lies `depth` calls and lambdas below
it. -/
def passThrough? (method : String) (type : DataType) : Nat → Expr → Option Expr
  | 0, e => some (.staticCall method [e] type)
  | depth + 1, .staticCall name (receiver :: args) result => do
    return .staticCall name ((← receiver.passThrough? method type depth) :: args) result
  | depth + 1, .lambda params body => do
    return .lambda params (← body.passThrough? method type depth)
  | _ + 1, _ => none

/-- Induction along the receivers down to the one with the call around it. -/
theorem passThrough?_induction {motive : Nat → Expr → Expr → Prop}
    (here : ∀ e, motive 0 e (.staticCall method [e] type))
    (receiver : ∀ depth name e e' args result, e.passThrough? method type depth = some e' →
      motive depth e e' → motive (depth + 1) (.staticCall name (e :: args) result)
        (.staticCall name (e' :: args) result))
    (body : ∀ depth params e e', e.passThrough? method type depth = some e' →
      motive depth e e' → motive (depth + 1) (.lambda params e) (.lambda params e'))
    {depth : Nat} {e e' : Expr} (h : e.passThrough? method type depth = some e') :
    motive depth e e' := by
  induction depth generalizing e e' with
  | zero => exact Option.some.inj h ▸ here e
  | succ depth ih =>
      unfold passThrough? at h
      split at h
      · next heq => cases heq
      · next name inner args result hdepth =>
          obtain rfl := Nat.succ.inj hdepth
          obtain ⟨inner', hinner, heq⟩ := Option.bind_eq_some_iff.mp h
          exact Option.some.inj heq ▸ receiver depth name inner inner' args result hinner (ih hinner)
      · next params inner hdepth =>
          obtain rfl := Nat.succ.inj hdepth
          obtain ⟨inner', hinner, heq⟩ := Option.bind_eq_some_iff.mp h
          exact Option.some.inj heq ▸ body depth params inner inner' hinner (ih hinner)
      · cases h

theorem sourceName?_passThrough {depth : Nat} {e e' : Expr}
    (h : e.passThrough? method type depth = some e') :
    JoinClause.sourceName? e' = JoinClause.sourceName? e := by
  refine passThrough?_induction (motive := fun _ e e' => JoinClause.sourceName? e' =
    JoinClause.sourceName? e) ?_ ?_ ?_ h
  · intro e
    rfl
  · intro depth name e e' args result _ ih
    exact ih
  · intro depth params e e' _ _
    rfl

end Expr

namespace Chain

/-- A join reads nothing of its receiver but the source. -/
theorem analyze_receiver {receiver receiver' : Expr}
    (h : JoinClause.sourceName? receiver' = JoinClause.sourceName? receiver) (name : String)
    (args : List Expr) (type : DataType) (context : Context) :
    JoinClause.analyze (.staticCall name (receiver :: args) type) context =
      JoinClause.analyze (.staticCall name (receiver' :: args) type) context := by
  unfold JoinClause.analyze
  rcases args with _ | ⟨inner, _ | ⟨outerKey, _ | ⟨innerKey, _ | ⟨result, _ | _⟩⟩⟩⟩
  case cons.cons.cons.cons.nil => simp only [JoinClause.analyzeArgs, h]
  all_goals rfl

theorem similar_stageOf {receiver receiver' : Expr}
    (h : JoinClause.sourceName? receiver' = JoinClause.sourceName? receiver) (name : String)
    (args : List Expr) (type : DataType) :
    Agree (Option.Rel Stage.Similar) (stageOf name (receiver :: args) type)
      (stageOf name (receiver' :: args) type) := by
  by_cases hjoin : name = "Join"
  · subst hjoin
    rw [stageOf_join, stageOf_join, List.length_cons, List.length_cons]
    split
    · exact .ok (.some (.join (analyze_receiver h "Join" args type)))
    · exact .error _
  · cases hordering : OrderingMethod.find? name with
    | none =>
        rw [stageOf_receiver_eq hjoin hordering receiver receiver']
        cases stageOf name (receiver' :: args) type with
        | error failure => exact .error failure
        | ok stage =>
            cases stage with
            | none => exact .ok .none
            | some stage => exact .ok (.some (.same stage))
    | some method =>
        rw [stageOf_ordering hordering, stageOf_ordering hordering,
          argument_receiver name receiver receiver']
        cases argument name (receiver' :: args) with
        | error failure => exact .error failure
        | ok key => exact .ok (.some (.orderBy _ _ key method))

theorem similar_classify {method : String} (hmethod : method ∈ passThroughMethods)
    {type : DataType} {depth : Nat} {e e' : Expr}
    (h : e.passThrough? method type depth = some e') :
    Agree (fun chain chain' => List.Forall₂ Stage.Similar chain.stages chain'.stages)
      (classify e) (classify e') := by
  refine Expr.passThrough?_induction (motive := fun _ e e' => Agree (fun chain chain' =>
    List.Forall₂ Stage.Similar chain.stages chain'.stages) (classify e) (classify e')) ?_ ?_ ?_ h
  · intro e
    rw [classify, Step.stageOf_passThrough hmethod]
    cases classify e with
    | error failure => exact .error failure
    | ok chain =>
        refine .ok ?_
        simp only [push, Option.toList_none, List.append_nil]
        exact similar_refl chain.stages
  · intro depth name e e' args result he ih
    rw [classify, classify]
    refine ih.bind fun chain chain' hchain => ?_
    refine (similar_stageOf (Expr.sourceName?_passThrough he) name args result).bind ?_
    intro stage stage' hstage
    refine .ok (List.rel_append hchain ?_)
    cases hstage with
    | none => exact .nil
    | some hstage => exact .cons hstage .nil
  · intro depth params e e' _ ih
    rw [classify, classify]
    exact ih

end Chain

/-- What a call does to the ordering that it is put into. -/
inductive OrderingCut where
  | none
  /-- It hides terms that a new ordering discards. -/
  | discarded
  /-- It hides terms that are needed. -/
  | lost (cause : Violation)
deriving DecidableEq

namespace Expr

/-- The ordering call that the ordering clause is read from. -/
def lastOrdering? : Expr → Option Expr
  | .lambda _ body => body.lastOrdering?
  | .staticCall name (receiver :: args) type =>
    if (OrderingMethod.find? name).isSome then some (.staticCall name (receiver :: args) type)
    else receiver.lastOrdering?
  | _ => none

/-- Whether an ordering call reads terms from this receiver. -/
def givesTerms : Expr → Bool
  | .staticCall name [_, _] _ => (OrderingMethod.find? name).isSome
  | .lambda .. => true
  | _ => false

/-- What a call does that is put into the receiver of an ordering call. -/
def cutBelow (name : String) (method : OrderingMethod) : Nat → Expr → OrderingCut
  | 0, receiver =>
    if receiver.givesTerms then
      if method.restart then .discarded else .lost (.thenByWithoutOrderBy name)
    else .none
  | depth + 1, .staticCall inner [receiver, _] _ =>
    match OrderingMethod.find? inner with
    | some method => receiver.cutBelow inner method depth
    | none => .none
  | _ + 1, .lambda .. => .lost .complexOrderKey
  | _ + 1, _ => .none

def orderingCut : Nat → Expr → OrderingCut
  | depth + 1, .staticCall name (receiver :: args) _ =>
    match OrderingMethod.find? name with
    | none => receiver.orderingCut depth
    | some method =>
      match args with
      | [_] => receiver.cutBelow name method depth
      | _ => .none
  | depth + 1, .lambda _ body => body.orderingCut depth
  | _, _ => .none

theorem orderingCut_of_not_ordering {depth : Nat} {e : Expr} (h : e.lastOrdering? = none) :
    e.orderingCut depth = .none := by
  fun_induction orderingCut depth e with
  | case1 depth name receiver args type hname ih =>
      rw [lastOrdering?, hname] at h
      exact ih h
  | case2 depth name receiver type method hname key =>
      rw [lastOrdering?, hname] at h
      cases h
  | case3 => rfl
  | case4 depth params body ih => exact ih h
  | case5 => rfl

end Expr

namespace OrderByClause

/-- What becomes of the terms of an ordering call. -/
def Cuts (cut : OrderingCut) (call call' : Expr) : Prop :=
  match cut with
  | .none => ∀ rules, terms rules call' = terms rules call
  | .discarded => ∀ rules list, terms rules call = .ok list → terms rules call' = .ok list
  | .lost cause => ∀ rules, terms rules call' = .error (.violation cause)

theorem terms_of_not_givesTerms {e : Expr} (h : e.givesTerms = false) (rules : LoweringRules) :
    terms rules e = .ok [] := by
  unfold terms
  split
  · next name receiver key type =>
      cases hname : OrderingMethod.find? name with
      | none => rfl
      | some method =>
          rw [Expr.givesTerms, hname] at h
          cases h
  · cases h
  · rfl

/-- A cut further down shows in every ordering call above it. -/
theorem Cuts.ordering {cut : OrderingCut} {receiver receiver' : Expr}
    (h : Cuts cut receiver receiver') {name : String} {method : OrderingMethod}
    (hname : OrderingMethod.find? name = some method) (key : Expr) (type : DataType) :
    Cuts cut (.staticCall name [receiver, key] type) (.staticCall name [receiver', key] type) := by
  cases cut with
  | none =>
      intro rules
      rw [terms_ordering hname, terms_ordering hname, h rules]
  | discarded =>
      intro rules list hlist
      rw [terms_ordering hname] at hlist ⊢
      obtain ⟨earlier, hearlier, hextend⟩ := bind_eq_ok_iff.mp hlist
      exact bind_eq_ok_iff.mpr ⟨earlier, h rules earlier hearlier, hextend⟩
  | lost cause =>
      intro rules
      rw [terms_ordering hname, h rules]
      rfl

section

variable {method : String} {type : DataType}

theorem isComplex_of_child {e child : Expr} (hchild : child ∈ e.children) (h : isComplex child) :
    isComplex e := by
  rw [isComplex, Expr.any_eq, Bool.or_eq_true]
  exact Or.inr (List.any_eq_true.mpr ⟨child, hchild, h⟩)

theorem isComplex_passThrough (hmethod : method ∉ allowedMethods) {depth : Nat} {e e' : Expr}
    (h : e.passThrough? method type depth = some e') : isComplex e' := by
  refine Expr.passThrough?_induction (motive := fun _ _ e' => isComplex e') ?_ ?_ ?_ h
  · intro e
    rw [isComplex, Expr.any_eq]
    simp [hmethod]
  · intro depth name e e' args result _ ih
    exact isComplex_of_child List.mem_cons_self ih
  · intro depth params e e' _ ih
    exact isComplex_of_child List.mem_cons_self ih

theorem cuts_below (hmethod : method ∉ allowedMethods) {depth : Nat} {receiver receiver' : Expr}
    (h : receiver.passThrough? method type depth = some receiver') {name : String}
    {ordering : OrderingMethod} (hname : OrderingMethod.find? name = some ordering) (key : Expr)
    (result : DataType) :
    Cuts (receiver.cutBelow name ordering depth) (.staticCall name [receiver, key] result)
      (.staticCall name [receiver', key] result) := by
  revert name ordering key result
  refine Expr.passThrough?_induction (motive := fun depth receiver receiver' =>
    ∀ {name : String} {ordering : OrderingMethod}, OrderingMethod.find? name = some ordering →
      ∀ key result, Cuts (receiver.cutBelow name ordering depth)
        (.staticCall name [receiver, key] result) (.staticCall name [receiver', key] result))
    ?_ ?_ ?_ h
  · intro receiver name ordering hname key result
    -- The terms of the call itself are none.
    have hcall : ∀ rules, terms rules (.staticCall name [.staticCall method [receiver] type, key]
        result) = extend rules name ordering key [] := by
      intro rules
      rw [terms_ordering hname]
      rfl
    rw [Expr.cutBelow]
    split
    · split
      · next hrestart =>
          intro rules list hlist
          rw [terms_ordering hname] at hlist
          obtain ⟨earlier, -, hextend⟩ := bind_eq_ok_iff.mp hlist
          rw [hcall, extend, if_pos hrestart]
          rwa [extend, if_pos hrestart] at hextend
      · next hrestart =>
          intro rules
          rw [hcall, extend, if_neg hrestart]
          rfl
    · next hgives =>
        intro rules
        rw [hcall, terms_ordering hname, terms_of_not_givesTerms (by simpa using hgives)]
        rfl
  · intro depth inner e e' args result' _ ih name ordering hname key result
    have hnone : Cuts .none (.staticCall inner (e :: args) result')
        (.staticCall inner (e' :: args) result') →
        Cuts .none (.staticCall name [.staticCall inner (e :: args) result', key] result)
          (.staticCall name [.staticCall inner (e' :: args) result', key] result) :=
      fun h => h.ordering hname key result
    rcases args with _ | ⟨k, _ | ⟨_, _⟩⟩
    · exact hnone fun _ => rfl
    · rw [Expr.cutBelow]
      split
      · next hinner => exact (ih hinner k result').ordering hname key result
      · next hinner =>
          refine hnone fun rules => ?_
          rw [terms, terms, hinner]
    · exact hnone fun _ => rfl
  · intro depth params e e' he _ name ordering hname key result rules
    have hcomplex : isComplex (Expr.lambda params e').stripLambda := by
      rw [isComplex_stripLambda]
      exact isComplex_of_child List.mem_cons_self (isComplex_passThrough hmethod he)
    rw [terms_ordering hname, terms, term, if_pos hcomplex]
    rfl

/-- The ordering call that counts stays the one that counts. -/
theorem cuts_lastOrdering (hmethod : method ∈ Chain.passThroughMethods) {depth : Nat} {e e' : Expr}
    (h : e.passThrough? method type depth = some e') :
    Option.Rel (Cuts (e.orderingCut depth)) e.lastOrdering? e'.lastOrdering? := by
  have hmethods : ∀ method ∈ Chain.passThroughMethods,
      OrderingMethod.find? method = none ∧ method ∉ allowedMethods := by
    decide
  have hsame : ∀ call : Option Expr, Option.Rel (Cuts .none) call call := by
    rintro (_ | call)
    · exact .none
    · exact .some fun _ => rfl
  obtain ⟨hordering, hallowed⟩ := hmethods method hmethod
  refine Expr.passThrough?_induction (motive := fun depth e e' =>
    Option.Rel (Cuts (e.orderingCut depth)) e.lastOrdering? e'.lastOrdering?) ?_ ?_ ?_ h
  · intro e
    rw [Expr.lastOrdering?.eq_def (.staticCall _ _ _)]
    simp only [hordering]
    exact hsame e.lastOrdering?
  · intro depth name e e' args result he ih
    rw [Expr.lastOrdering?, Expr.lastOrdering?, Expr.orderingCut]
    cases hname : OrderingMethod.find? name with
    | none => exact ih
    | some ordering =>
        rcases args with _ | ⟨key, _ | ⟨_, _⟩⟩
        · exact .some fun _ => rfl
        · exact .some (cuts_below hallowed he hname key result)
        · exact .some fun _ => rfl
  · intro depth params e e' _ ih
    exact ih

end

section

variable {rules rules' : LoweringRules} (hclause : rules.clause = rules'.clause)
  (hinequality : rules.inequality = rules'.inequality)
  (hidioms : rules.booleanIdioms = rules'.booleanIdioms)

include hclause hinequality hidioms

theorem agree_term (key : Expr) (direction : SortDirection) :
    Agree (fun _ _ => True) (term rules key direction) (term rules' key direction) := by
  unfold term
  split
  · exact .error _
  · exact (key.agree_lower_of_clause_eq hclause hinequality hidioms .value).map fun _ _ _ => trivial

/-- Whether an ordering has terms does not depend on what its columns are called. -/
theorem agree_terms (e : Expr) :
    Agree (fun list list' => list.isEmpty = list'.isEmpty) (terms rules e) (terms rules' e) := by
  have hterm := agree_term hclause hinequality hidioms
  induction e using terms.induct with
  | case1 name receiver key type method hname ih =>
      rw [terms_ordering hname, terms_ordering hname]
      refine ih.bind fun earlier earlier' hearlier => ?_
      unfold extend
      rw [hearlier]
      split
      · exact (hterm key method.direction).map fun _ _ _ => rfl
      split
      · exact .error _
      · refine (hterm key method.direction).map fun _ _ _ => ?_
        rw [List.isEmpty_eq_false_iff.mpr (by simp), List.isEmpty_eq_false_iff.mpr (by simp)]
  | case2 name receiver key type hname =>
      rw [terms, terms, hname]
      exact .ok rfl
  | case3 params body =>
      rw [terms, terms]
      exact (hterm _ _).map fun _ _ _ => rfl
  | case4 e hcall hlambda =>
      rw [terms.eq_3 _ e hcall hlambda, terms.eq_3 _ e hcall hlambda]
      exact .ok rfl

end

theorem exists_terms {ordering : Expr} {context : Context} {list : List Term}
    (h : terms (LoweringRules.orderBy.withContext context) ordering = .ok list)
    (context' : Context) :
    ∃ list', terms (LoweringRules.orderBy.withContext context') ordering = .ok list' := by
  have hagree : Agree (fun list list' : List Term => list.isEmpty = list'.isEmpty)
      (terms (LoweringRules.orderBy.withContext context) ordering)
      (terms (LoweringRules.orderBy.withContext context') ordering) := by
    refine agree_terms ?_ ?_ ?_ ordering <;> rfl
  rw [h] at hagree
  cases hterms : terms (LoweringRules.orderBy.withContext context') ordering with
  | ok list' => exact ⟨list', rfl⟩
  | error failure =>
      rw [hterms] at hagree
      cases hagree

theorem build_eq_of_terms_eq {ordering ordering' : Expr} {context : Context}
    (h : terms (LoweringRules.orderBy.withContext context) ordering' =
      terms (LoweringRules.orderBy.withContext context) ordering) :
    build ordering context = build ordering' context := by
  rw [build, build, h]

end OrderByClause

namespace Chain

theorem call_of_classify {e : Expr} {chain : Chain} (h : classify e = .ok chain) :
    chain.orderingSteps.getLast?.map (·.call) = e.lastOrdering? := by
  induction e generalizing chain with
  | lambda params body ih =>
      rw [classify] at h
      exact ih h
  | source name =>
      obtain rfl := Except.ok.inj h
      rfl
  | parameter name type =>
      obtain rfl := Except.ok.inj h
      rfl
  | staticCall name args type ihargs =>
      cases args with
      | nil => cases h
      | cons receiver args =>
          obtain ⟨inner, stage, hinner, hstage, rfl⟩ := classify_staticCall h
          have hstep := orderingStep_of_stageOf hstage
          rw [orderingSteps_push, Expr.lastOrdering?]
          split at hstep
          · next hname =>
              rw [hstep, hname, Option.toList_none, List.append_nil]
              exact ihargs receiver List.mem_cons_self hinner
          · next method hname =>
              obtain ⟨key, -, rfl⟩ := hstep
              rw [hname]
              exact congrArg (Option.map _) List.getLast?_concat
  | _ => cases h

theorem ordering_of_classify {e : Expr} {chain : Chain} {stages : Stages}
    (hchain : classify e = .ok chain) (hstages : Stages.ofChain chain = .ok stages) :
    stages.ordering = e.lastOrdering? :=
  (Stages.ofChain_ordering hstages).trans (call_of_classify hchain)

end Chain

namespace Query

variable {builders : Builders} {source : String} {mode : ExecutionMode} {method : String}
  {type : DataType} {depth : Nat} {e e' : Expr}

theorem ofChain_eq_of_builds (hmethod : method ∈ Chain.passThroughMethods)
    (h : e.passThrough? method type depth = some e')
    (hordering : Option.Rel ClauseKind.orderBy.BuildsAlike e.lastOrdering? e'.lastOrdering?) :
    ofChain builders source e mode = ofChain builders source e' mode := by
  refine ofChain_congr ((Chain.similar_classify hmethod h).with_values.imp ?_)
  rintro chain chain' ⟨hchain, hchain', hsimilar⟩
  refine (Stages.similar_ofChain hsimilar).with_values.imp ?_
  rintro stages stages' ⟨hstages, hstages', hsimilar⟩
  refine hsimilar.alike ?_
  rwa [Chain.ordering_of_classify hchain hstages, Chain.ordering_of_classify hchain' hstages']

/-- The chain of a query that is accepted, and its parts. -/
theorem exists_fit_of_result {text : String}
    (h : (ofChain builders source e mode).result = .ok text) :
    ∃ chain parts final, Chain.classify e = .ok chain ∧
      Parts.Fit builders chain { base := source, mode } final parts := by
  obtain ⟨draft, hdraft, -⟩ := result_ofChain_eq_ok.mp h
  obtain ⟨chain, hchain, -⟩ := bind_eq_ok_iff.mp hdraft
  obtain ⟨parts, final, hfit, -⟩ := exists_parts_of_draftOf hdraft hchain
  exact ⟨chain, parts, final, hchain, hfit⟩

/-- The ordering of a query that is accepted can be read in every context. -/
theorem exists_terms_of_result {text : String}
    (h : (ofChain builders source e mode).result = .ok text) {call : Expr}
    (hcall : e.lastOrdering? = some call) (context : Context) :
    ∃ list, OrderByClause.terms (LoweringRules.orderBy.withContext context) call = .ok list := by
  obtain ⟨chain, parts, final, hchain, hfit⟩ := exists_fit_of_result h
  have hordering : parts.stages.argument? .orderBy = some call :=
    (Chain.ordering_of_classify hchain hfit.stages).trans hcall
  obtain ⟨text, htext⟩ := hfit.exists_build hordering
  obtain ⟨list, hlist, -⟩ := OrderByClause.build_eq_ok (Builders.result_of_build rfl htext)
  exact OrderByClause.exists_terms hlist context

/-- A query whose ordering alone is not built fails with that. -/
theorem outcome_of_lost (hmethod : method ∈ Chain.passThroughMethods)
    (h : e.passThrough? method type depth = some e') {text : String}
    (htext : (ofChain builders source e mode).result = .ok text) {call call' : Expr}
    (hcall : e.lastOrdering? = some call) (hcall' : e'.lastOrdering? = some call')
    {cause : Violation}
    (hlost : ∀ rules, OrderByClause.terms rules call' = .error (.violation cause)) :
    (ofChain builders source e' mode).outcome = .error (.violation cause) := by
  obtain ⟨chain, parts, final, hchain, hfit⟩ := exists_fit_of_result htext
  have hcontains : builders.contains .orderBy := by
    have hordering : parts.stages.argument? .orderBy = some call :=
      (Chain.ordering_of_classify hchain hfit.stages).trans hcall
    obtain ⟨_, hbuild⟩ := hfit.exists_build hordering
    exact Registry.contains_of_build hbuild
  have hclassify := Chain.similar_classify hmethod h
  cases hchain' : Chain.classify e' <;> rw [hchain, hchain'] at hclassify
  · cases hclassify
  next chain' =>
  have hsimilar := hclassify.related
  have hagree := Stages.similar_ofChain hsimilar
  cases hstages' : Stages.ofChain chain' <;> rw [hfit.stages, hstages'] at hagree
  · cases hagree
  next stages' =>
  have hordering' : stages'.argument? .orderBy = some call' :=
    (Chain.ordering_of_classify hchain' hstages').trans hcall'
  have hbuild' : ∀ context, (OrderByClause.build call' context).result =
      .error (.violation cause) := by
    intro context
    rw [OrderByClause.build, hlost]
    rfl
  obtain ⟨failure, hfailure⟩ := Builders.FailureOf.exists_error
    (.clause hstages' hordering' hcontains rfl (hbuild' _) :
      builders.FailureOf chain' { base := source, mode } _)
  obtain ⟨last, context, found, hlast, hfound, rfl⟩ :=
    (builders.failsOnly_assemble chain' _ failure hfailure).inOrdering hfit hsimilar hstages'
      hcontains
  obtain rfl := Option.some.inj (hordering'.symm.trans hlast)
  obtain rfl := Except.error.inj ((hbuild' context).symm.trans hfound)
  rw [Report.outcome, result_ofChain_eq_error.mpr ⟨_, .assembly hchain' hfailure, rfl⟩]
  rfl

/-- A pass-through call leaves a query as it is, unless it stands below an ordering call and hides
the terms of others. If these are discarded anyway, a query that is accepted stays what it is.
Otherwise the query is refused, and if it was accepted before, then for the terms that are lost. -/
theorem ofChain_passThrough (builders : Builders) (source : String) (mode : ExecutionMode)
    (method : String) (type : DataType) (depth : Nat) (e e' : Expr)
    (hmethod : method ∈ Chain.passThroughMethods)
    (h : e.passThrough? method type depth = some e') :
    match e.orderingCut depth with
    | .none => ofChain builders source e' mode = ofChain builders source e mode
    | .discarded => ∀ text, (ofChain builders source e mode).result = .ok text →
        ofChain builders source e' mode = ofChain builders source e mode
    | .lost cause => (∀ text, (ofChain builders source e' mode).result ≠ .ok text) ∧
        ∀ text, (ofChain builders source e mode).result = .ok text →
          (ofChain builders source e' mode).outcome = .error (.violation cause) := by
  have hcuts := OrderByClause.cuts_lastOrdering hmethod h
  cases hcall : e.lastOrdering? <;> cases hcall' : e'.lastOrdering? <;>
    rw [hcall, hcall'] at hcuts
  · rw [Expr.orderingCut_of_not_ordering hcall]
    refine (ofChain_eq_of_builds hmethod h ?_).symm
    rw [hcall, hcall']
    exact .none
  · cases hcuts
  · cases hcuts
  next call call' =>
  obtain ⟨hcut⟩ := hcuts
  have hequal : (∀ context, OrderByClause.terms (LoweringRules.orderBy.withContext context) call' =
      OrderByClause.terms (LoweringRules.orderBy.withContext context) call) →
      ofChain builders source e' mode = ofChain builders source e mode := by
    intro hterms
    refine (ofChain_eq_of_builds hmethod h ?_).symm
    rw [hcall, hcall']
    refine .some fun builder hbuilder context _ => ?_
    obtain rfl := Option.some.inj hbuilder
    exact OrderByClause.build_eq_of_terms_eq (hterms context)
  cases hcase : e.orderingCut depth <;> rw [hcase] at hcut
  · exact hequal fun context => hcut _
  · intro text htext
    refine hequal fun context => ?_
    obtain ⟨list, hlist⟩ := exists_terms_of_result htext hcall context
    rw [hlist]
    exact hcut _ list hlist
  · constructor
    · intro text htext
      obtain ⟨list, hlist⟩ := exists_terms_of_result htext hcall' { base := source, mode }
      cases hlist.symm.trans (hcut _)
    · intro text htext
      exact outcome_of_lost hmethod h htext hcall hcall' hcut

/-- Orders by region and city. -/
def byRegionAndCity : Expr :=
  ((Expr.source "orders").orderBy (orderMember "Region" .string)).thenBy
    (orderMember "City" .string)

theorem ofChain_passThrough_byRegionAndCity :
    (∃ e', byRegionAndCity.passThrough? "AsStream" .unknown 2 = some e' ∧
      (ofChain .standard "orders" e' .push).result =
        .ok "SELECT * FROM orders ORDER BY Region ASC, City ASC EMIT CHANGES") ∧
    (∃ e', byRegionAndCity.passThrough? "AsQueryable" .unknown 1 = some e' ∧
      (ofChain .standard "orders" e' .push).outcome =
        .error (.violation (.thenByWithoutOrderBy "ThenBy"))) ∧
    ∃ e', (byRegionAndCity.orderByDescending (orderMember "Amount" .int)).passThrough? "AsTable"
        .unknown 1 = some e' ∧
      (ofChain .standard "orders" e' .pull).result =
        .ok "SELECT * FROM orders ORDER BY Amount DESC" := by
  have hquery : (ofChain .standard "orders" byRegionAndCity .push).result =
      .ok "SELECT * FROM orders ORDER BY Region ASC, City ASC EMIT CHANGES" :=
    result_ofChain_of_inOrder? (by decide +kernel)
  have hrestarted : (ofChain .standard "orders"
      (byRegionAndCity.orderByDescending (orderMember "Amount" .int)) .pull).result =
      .ok "SELECT * FROM orders ORDER BY Amount DESC" :=
    result_ofChain_of_inOrder? (by decide +kernel)
  refine ⟨⟨_, rfl, ?_⟩, ⟨_, rfl, ?_⟩, _, rfl, ?_⟩
  · have hsame := ofChain_passThrough .standard "orders" .push "AsStream" .unknown 2
      byRegionAndCity _ (by decide) rfl
    exact (congrArg Report.result hsame).trans hquery
  · exact (ofChain_passThrough .standard "orders" .push "AsQueryable" .unknown 1
      byRegionAndCity _ (by decide) rfl).2 _ hquery
  · have hsame := ofChain_passThrough .standard "orders" .pull "AsTable" .unknown 1
      (byRegionAndCity.orderByDescending (orderMember "Amount" .int)) _ (by decide) rfl _ hrestarted
    exact (congrArg Report.result hsame).trans hrestarted

/-- Orders by the amount plus one, and anew by city. -/
def anewByCity : Expr :=
  ((Expr.source "orders").orderBy (.lambda ["o"] (.binary .add
    (.member (.parameter "o" .unknown) "Amount" .int) (.constant (.int 1))))).orderBy
    (orderMember "City" .string)

/-- A call between two ordering calls makes one query refused and another one accepted. -/
theorem ordering_hidden_by_passThrough :
    (∃ e', byRegionAndCity.passThrough? "AsQueryable" .unknown 1 = some e' ∧
      (ofChain .standard "orders" byRegionAndCity .push).result =
        .ok "SELECT * FROM orders ORDER BY Region ASC, City ASC EMIT CHANGES" ∧
      (ofChain .standard "orders" e' .push).outcome =
        .error (.violation (.thenByWithoutOrderBy "ThenBy"))) ∧
    ∃ e', anewByCity.passThrough? "AsQueryable" .unknown 1 = some e' ∧
      (ofChain .standard "orders" anewByCity .push).outcome =
        .error (.violation .complexOrderKey) ∧
      (ofChain .standard "orders" e' .push).result =
        .ok "SELECT * FROM orders ORDER BY City ASC EMIT CHANGES" :=
  ⟨⟨_, rfl, result_ofChain_of_inOrder? (by decide +kernel), rfl⟩,
    _, rfl, rfl, result_ofChain_of_inOrder? (by decide +kernel)⟩

end Query

end StreamQuery
