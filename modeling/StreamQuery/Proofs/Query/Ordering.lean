import Mathlib.Data.List.TakeWhile
import StreamQuery.Expr.Fluent
import StreamQuery.Proofs.Chain
import StreamQuery.Proofs.Query.Draft

/-!
# The ordering of a query

The ordering clause is read off the last ordering call, down its receivers. It agrees with the
ordering steps of the chain, from the last one on that starts a new ordering, if that call has no
argument after its key and some step starts an ordering. A call with a further argument leaves the
clause empty, so that it is not written. A query that only continues an ordering is accepted on a
lambda that gives back its parameter, which then stands as a term of its own before all others.
-/

namespace StreamQuery

/-- An ordering call of a chain, and the key that it orders by. -/
structure OrderingStep where
  call : Expr
  key : Expr
  method : OrderingMethod

namespace OrderingStep

def sortKey (step : OrderingStep) : Expr × SortDirection :=
  (step.key, step.method.direction)

/-- Whether the call has no argument after its key. -/
def isPlain (step : OrderingStep) : Bool :=
  match step.call with
  | .staticCall _ [_, _] _ => true
  | _ => false

/-- There is one way to cut steps at the last one that starts a new ordering. -/
theorem cons_eq_of_append_eq {before before' after after' : List OrderingStep}
    {first first' : OrderingStep} (h : before ++ first :: after = before' ++ first' :: after')
    (hfirst : first.method.restart) (hfirst' : first'.method.restart)
    (hafter : ∀ step ∈ after, step.method.restart = false)
    (hafter' : ∀ step ∈ after', step.method.restart = false) :
    first :: after = first' :: after' := by
  rcases List.append_eq_append_iff.mp h with ⟨between, -, hcons⟩ | ⟨between, -, hcons⟩
  · cases between with
    | nil => exact hcons
    | cons step between =>
        have hmem : first' ∈ after := by
          rw [(List.cons.inj hcons).2]
          simp
        rw [hafter first' hmem] at hfirst'
        cases hfirst'
  · cases between with
    | nil => exact hcons.symm
    | cons step between =>
        have hmem : first ∈ after' := by
          rw [(List.cons.inj hcons).2]
          simp
        rw [hafter' first hmem] at hfirst
        cases hfirst

end OrderingStep

def Stage.orderingStep? : Stage → Option OrderingStep
  | .orderBy call key method => some ⟨call, key, method⟩
  | _ => none

def Chain.orderingSteps (chain : Chain) : List OrderingStep :=
  chain.stages.filterMap Stage.orderingStep?

namespace Stages

theorem push_ordering {stages stages' : Stages} {stage : Stage}
    (h : stages.push stage = .ok stages') :
    stages'.ordering = (stage.orderingStep?.map (·.call)).or stages.ordering := by
  cases stage with
  | filter predicate =>
      obtain rfl := Except.ok.inj h
      rfl
  | orderBy call key method =>
      obtain rfl := Except.ok.inj h
      rfl
  | take count =>
      obtain rfl := Except.ok.inj h
      rfl
  | _ =>
      obtain ⟨filled, -, hstages⟩ := bind_eq_ok_iff.mp h
      obtain rfl := Except.ok.inj hstages
      rfl

theorem foldlM_push_ordering {stages stages' : Stages} {list : List Stage}
    (h : list.foldlM push stages = .ok stages') :
    stages'.ordering =
      ((list.filterMap Stage.orderingStep?).getLast?.map (·.call)).or stages.ordering := by
  induction list generalizing stages with
  | nil =>
      obtain rfl := Except.ok.inj h
      rfl
  | cons stage rest ih =>
      rw [List.foldlM_cons] at h
      obtain ⟨next, hpush, hrest⟩ := bind_eq_ok_iff.mp h
      rw [ih hrest, push_ordering hpush, List.filterMap_cons]
      cases stage.orderingStep? with
      | none => rfl
      | some step =>
          rw [List.getLast?_cons]
          cases (rest.filterMap Stage.orderingStep?).getLast? <;> rfl

/-- Of several ordering calls the last counts. -/
theorem ofChain_ordering {chain : Chain} {stages : Stages} (h : ofChain chain = .ok stages) :
    stages.ordering = chain.orderingSteps.getLast?.map (·.call) :=
  (foldlM_push_ordering h).trans Option.or_none

end Stages

namespace Chain

theorem orderingSteps_push (chain : Chain) (stage : Option Stage) :
    (chain.push stage).orderingSteps =
      chain.orderingSteps ++ (stage.bind Stage.orderingStep?).toList := by
  cases stage with
  | none => simp [push, orderingSteps]
  | some stage => cases stage <;> simp [push, orderingSteps, Stage.orderingStep?]

/-- A call is an ordering step of the chain exactly if its method orders. -/
theorem orderingStep_of_stageOf {name : String} {args : List Expr} {type : DataType}
    {stage : Option Stage} (h : stageOf name args type = .ok stage) :
    match OrderingMethod.find? name with
    | none => stage.bind Stage.orderingStep? = none
    | some method => ∃ key, argument name args = .ok key ∧
        stage = some (.orderBy (.staticCall name args type) key method) := by
  split
  · next hnone =>
      cases stage with
      | none => rfl
      | some stage =>
          cases stage with
          | orderBy call key method =>
              have hsome := (name_of_stageOf h).2.2.2 rfl
              rw [hnone] at hsome
              cases hsome
          | _ => rfl
  · next method hmethod =>
      rw [stageOf_ordering hmethod] at h
      obtain ⟨key, hkey, hstage⟩ := bind_eq_ok_iff.mp h
      exact ⟨key, hkey, (Except.ok.inj hstage).symm⟩

/-- The last ordering call is a chain with the same ordering steps. -/
theorem classify_last {e : Expr} {chain : Chain} (hchain : classify e = .ok chain)
    {last : OrderingStep} (hlast : chain.orderingSteps.getLast? = some last) :
    ∃ inner, classify last.call = .ok inner ∧ inner.orderingSteps = chain.orderingSteps ∧
      ∃ name args type, last.call = .staticCall name args type ∧
        OrderingMethod.find? name = some last.method := by
  induction e generalizing chain with
  | lambda params body ih =>
      rw [classify] at hchain
      exact ih hchain hlast
  | source name =>
      obtain rfl := Except.ok.inj hchain
      cases hlast
  | parameter name type =>
      obtain rfl := Except.ok.inj hchain
      cases hlast
  | staticCall name args type ihargs =>
      cases args with
      | nil => cases hchain
      | cons receiver args =>
          obtain ⟨inner, stage, hinner, hstage, hpush⟩ := classify_staticCall hchain
          have hsteps := orderingSteps_push inner stage
          rw [← hpush] at hsteps
          have hcase := orderingStep_of_stageOf hstage
          split at hcase
          · rw [hcase, Option.toList_none, List.append_nil] at hsteps
            rw [hsteps] at hlast ⊢
            exact ihargs receiver List.mem_cons_self hinner hlast
          · next method hmethod =>
              obtain ⟨key, -, rfl⟩ := hcase
              rw [hsteps] at hlast
              obtain rfl : _ = last := Option.some.inj (List.getLast?_concat.symm.trans hlast)
              exact ⟨chain, hchain, rfl, name, receiver :: args, type, rfl, hmethod⟩
  | _ => cases hchain

end Chain

namespace Expr

theorem lower_stripLambda (rules : LoweringRules) (position : Position) (e : Expr) :
    e.stripLambda.lower rules position = e.lower rules position := by
  induction e with
  | lambda params body ih => rw [stripLambda, ih, lower]
  | _ => rfl

end Expr

namespace OrderByClause

open Chain

/-- The terms of these keys: a column for each key, and its direction. -/
def AreTerms (rules : LoweringRules) (keys : List (Expr × SortDirection)) (terms : List Term) :
    Prop :=
  List.Forall₂ (fun key term =>
    (∃ t, key.1.lowerValue rules = .ok t ∧ term.column = t.text) ∧ term.direction = key.2)
    keys terms

theorem isComplex_stripLambda (e : Expr) : isComplex e.stripLambda = isComplex e := by
  induction e with
  | lambda params body ih =>
      rw [Expr.stripLambda, ih, isComplex, isComplex, Expr.any_eq _ (.lambda params body)]
      simp [Expr.children]
  | _ => rfl

theorem term_eq_ok_iff {rules : LoweringRules} {key : Expr} {direction : SortDirection} {t : Term} :
    term rules key direction = .ok t ↔ isComplex key.stripLambda = false ∧
      ∃ sql, key.lowerValue rules = .ok sql ∧ t = { column := sql.text, direction } := by
  unfold term
  constructor
  · intro h
    split at h
    · cases h
    next hsimple =>
    obtain ⟨sql, hsql, hpure⟩ := bind_eq_ok_iff.mp h
    exact ⟨Bool.eq_false_iff.mpr hsimple, sql, hsql, (Except.ok.inj hpure).symm⟩
  · rintro ⟨hsimple, sql, hsql, rfl⟩
    rw [hsimple, if_neg Bool.false_ne_true]
    exact bind_eq_ok_iff.mpr ⟨sql, hsql, rfl⟩

theorem areTerms_of_term {rules : LoweringRules} {key : Expr} {direction : SortDirection}
    {t : Term} (h : term rules key direction = .ok t) : AreTerms rules [(key, direction)] [t] := by
  obtain ⟨-, sql, hsql, rfl⟩ := term_eq_ok_iff.mp h
  exact .cons ⟨⟨sql, hsql, rfl⟩, rfl⟩ .nil

theorem AreTerms.concat {rules : LoweringRules} {keys : List (Expr × SortDirection)}
    {terms : List Term} (h : AreTerms rules keys terms) {key : Expr} {direction : SortDirection}
    {t : Term} (ht : term rules key direction = .ok t) :
    AreTerms rules (keys ++ [(key, direction)]) (terms ++ [t]) :=
  List.rel_append h (areTerms_of_term ht)

/-- How the terms of a clause come from the ordering steps of a chain. -/
inductive Run (rules : LoweringRules) (steps : List OrderingStep) (terms : List Term) : Prop
  /-- From the last step on that starts a new ordering. -/
  | restarted {before after : List OrderingStep} {first : OrderingStep}
    (hsteps : steps = before ++ first :: after) (hfirst : first.method.restart)
    (hafter : ∀ step ∈ after, step.method.restart = false)
    (hterms : AreTerms rules ((first :: after).map (·.sortKey)) terms)
  /-- After a parameter, with no step that starts an ordering. -/
  | bare (name : String) (type : DataType)
    (hsteps : ∀ step ∈ steps, step.method.restart = false)
    (hterms : AreTerms rules ((.parameter name type, .ascending) :: steps.map (·.sortKey)) terms)

namespace Run

variable {rules : LoweringRules} {steps : List OrderingStep} {terms : List Term}
  {step : OrderingStep} {t : Term}

theorem of_restart (hstep : step.method.restart)
    (ht : term rules step.key step.method.direction = .ok t) : Run rules (steps ++ [step]) [t] :=
  .restarted rfl hstep (by simp) (areTerms_of_term ht)

theorem concat (h : Run rules steps terms) (hstep : step.method.restart = false)
    (ht : term rules step.key step.method.direction = .ok t) :
    Run rules (steps ++ [step]) (terms ++ [t]) := by
  cases h with
  | @restarted before after first hsteps hfirst hafter hterms =>
      have hconcat : steps ++ [step] = before ++ first :: (after ++ [step]) := by
        rw [hsteps, List.append_assoc, List.cons_append]
      refine .restarted hconcat hfirst ?_ ?_
      · simpa [or_imp, forall_and] using ⟨hafter, hstep⟩
      · rw [← List.cons_append, List.map_append]
        exact hterms.concat ht
  | bare name type hsteps hterms =>
      refine .bare name type ?_ ?_
      · simpa [or_imp, forall_and] using ⟨hsteps, hstep⟩
      · rw [List.map_append, ← List.cons_append]
        exact hterms.concat ht

end Run

theorem terms_ordering {name : String} {method : OrderingMethod}
    (hname : OrderingMethod.find? name = some method) (rules : LoweringRules) (receiver key : Expr)
    (type : DataType) :
    terms rules (.staticCall name [receiver, key] type) =
      (do extend rules name method key (← terms rules receiver)) := by
  rw [terms, hname]

/-- An ordering call starts anew with its term, or adds it to those before it, of which there must
be one. -/
theorem extend_eq_ok_iff {rules : LoweringRules} {name : String} {method : OrderingMethod}
    {key : Expr} {earlier list : List Term} :
    extend rules name method key earlier = .ok list ↔
      ∃ t, term rules key method.direction = .ok t ∧
        if method.restart then list = [t] else earlier ≠ [] ∧ list = earlier ++ [t] := by
  unfold extend
  cases method.restart with
  | true =>
      rw [if_pos rfl, bind_eq_ok_iff]
      refine exists_congr fun t => and_congr_right fun _ => ?_
      exact ⟨fun h => (Except.ok.inj h).symm, fun h => congrArg Except.ok h.symm⟩
  | false =>
      rw [if_neg Bool.false_ne_true]
      cases earlier with
      | nil => simp
      | cons first rest =>
          rw [if_neg (by simp), bind_eq_ok_iff]
          refine exists_congr fun t => and_congr_right fun _ => ?_
          rw [if_neg Bool.false_ne_true]
          constructor
          · exact fun h => ⟨List.cons_ne_nil _ _, (Except.ok.inj h).symm⟩
          · exact fun h => congrArg Except.ok h.2.symm

/-- The terms after an ordering call come from one step more. -/
theorem run_of_extend {rules : LoweringRules} {name : String} {steps : List OrderingStep}
    {step : OrderingStep} {earlier list : List Term}
    (h : extend rules name step.method step.key earlier = .ok list)
    (hearlier : earlier ≠ [] → Run rules steps earlier) : Run rules (steps ++ [step]) list := by
  obtain ⟨t, ht, hlist⟩ := extend_eq_ok_iff.mp h
  split at hlist
  · next hrestart =>
      rw [hlist]
      exact .of_restart hrestart ht
  · next hrestart =>
      rw [hlist.2]
      exact (hearlier hlist.1).concat (Bool.eq_false_iff.mpr hrestart) ht

theorem stageOf_of_mem_allowedMethods {name : String} (h : name ∈ allowedMethods)
    (args : List Expr) (type : DataType) :
    stageOf name args type = .error (.unsupported (.chainMethod name)) := by
  have hother : ∀ name ∈ allowedMethods, name ∉ ["Where", "Select", "GroupBy", "Having", "Window",
      "Join", "Take", "Limit"] ∧ OrderingMethod.find? name = none ∧
      name ∉ passThroughMethods := by
    decide
  obtain ⟨hname, hmethod, hpass⟩ := hother name h
  simp only [List.mem_cons, List.not_mem_nil, or_false, not_or] at hname
  simp [stageOf, hname, hmethod, hpass]

/-- A lambda that is a term and a chain gives back its parameter. -/
theorem stripLambda_of_term {rules : LoweringRules} {e : Expr} {chain : Chain}
    {direction : SortDirection} {t : Term} (hchain : classify e = .ok chain)
    (ht : term rules e direction = .ok t) :
    chain.orderingSteps = [] ∧ ∃ name type, e.stripLambda = .parameter name type := by
  obtain ⟨hsimple, sql, hsql, -⟩ := term_eq_ok_iff.mp ht
  clear ht
  induction e with
  | lambda params body ih =>
      rw [classify] at hchain
      exact ih hchain hsimple (by rwa [Expr.lowerValue, Expr.lower] at hsql)
  | parameter name type =>
      obtain rfl := Except.ok.inj hchain
      exact ⟨rfl, name, type, rfl⟩
  | source name => cases hsql
  | staticCall name args type ih =>
      -- No method of a chain may transform a key.
      have hallowed : name ∈ allowedMethods := by
        have hcall : isComplex (.staticCall name args type) = false := hsimple
        rw [isComplex, Expr.any_eq, Bool.or_eq_false_iff] at hcall
        simpa using hcall.1
      cases args with
      | nil => cases hchain
      | cons receiver args =>
          obtain ⟨inner, stage, -, hstage, -⟩ := classify_staticCall hchain
          rw [stageOf_of_mem_allowedMethods hallowed] at hstage
          cases hstage
  | _ => cases hchain

/-- Terms that are read down the receivers of a chain come from its ordering steps. -/
theorem run_of_terms {rules : LoweringRules} {e : Expr} {chain : Chain} {list : List Term}
    (hchain : classify e = .ok chain) (hterms : terms rules e = .ok list) (hne : list ≠ []) :
    Run rules chain.orderingSteps list := by
  induction e generalizing chain list with
  | lambda params body ih =>
      rw [terms] at hterms
      obtain ⟨t, ht, hpure⟩ := bind_eq_ok_iff.mp hterms
      obtain rfl := Except.ok.inj hpure
      obtain ⟨hsteps, name, type, hstrip⟩ := stripLambda_of_term hchain ht
      obtain ⟨hcolumn, hdirection⟩ := (List.forall₂_cons.mp (areTerms_of_term ht)).1
      rw [hsteps]
      refine .bare name type (by simp) (.cons ⟨?_, hdirection⟩ .nil)
      rwa [← hstrip, Expr.lowerValue, Expr.lower_stripLambda]
  | staticCall name args type ih =>
      cases args with
      | nil => cases hchain
      | cons receiver args =>
          obtain ⟨inner, stage, hinner, hstage, rfl⟩ := classify_staticCall hchain
          have hstep := orderingStep_of_stageOf hstage
          cases args with
          | nil => exact absurd (Except.ok.inj hterms).symm hne
          | cons key more =>
          cases more with
          | cons _ _ => exact absurd (Except.ok.inj hterms).symm hne
          | nil =>
              rw [terms] at hterms
              split at hterms
              · next method hmethod =>
                  rw [hmethod] at hstep
                  obtain ⟨_, hkey, rfl⟩ := hstep
                  obtain rfl := Except.ok.inj hkey
                  obtain ⟨earlier, hearlier, hextend⟩ := bind_eq_ok_iff.mp hterms
                  rw [orderingSteps_push]
                  exact run_of_extend hextend (ih receiver List.mem_cons_self hinner hearlier)
              · exact absurd (Except.ok.inj hterms).symm hne
  | source name => exact absurd (Except.ok.inj hterms).symm hne
  | parameter name type => exact absurd (Except.ok.inj hterms).symm hne
  | _ => cases hchain

/-- The last ordering call gives no terms exactly if it has an argument after its key. -/
theorem terms_eq_nil_iff {rules : LoweringRules} {last : OrderingStep} {name : String}
    {args : List Expr} {type : DataType} {list : List Term}
    (hcall : last.call = .staticCall name args type)
    (hmethod : OrderingMethod.find? name = some last.method)
    (h : terms rules last.call = .ok list) : list = [] ↔ last.isPlain = false := by
  rw [OrderingStep.isPlain, hcall]
  rw [hcall] at h
  match args with
  | [] | [_] | _ :: _ :: _ :: _ =>
      obtain rfl := Except.ok.inj h
      simp
  | [receiver, key] =>
      rw [terms, hmethod] at h
      obtain ⟨earlier, -, hextend⟩ := bind_eq_ok_iff.mp h
      obtain ⟨t, -, hlist⟩ := extend_eq_ok_iff.mp hextend
      split at hlist
      · simp [hlist]
      · simp [hlist.2]

theorem build_eq_ok_iff {ordering : Expr} {context : Context} {text : String} :
    (build ordering context).result = .ok text ↔
      ∃ list, terms (LoweringRules.orderBy.withContext context) ordering = .ok list ∧
        list.length ≤ maxTerms ∧ text = String.intercalate ", " (list.map (·.text)) := by
  unfold build
  rw [Report.result_bind_eq_ok]
  refine exists_congr fun list => and_congr_right fun _ => ?_
  by_cases hlength : maxTerms < list.length
  · rw [if_pos hlength]
    constructor
    · intro h
      cases h
    · exact fun h => absurd hlength (Nat.not_lt.mpr h.1)
  · rw [if_neg hlength]
    constructor
    · exact fun h => ⟨Nat.le_of_not_lt hlength, (Except.ok.inj h).symm⟩
    · exact fun h => congrArg Except.ok h.2.symm

theorem build_eq_ok {ordering : Expr} {context : Context} {text : String}
    (h : (build ordering context).result = .ok text) :
    ∃ list, terms (LoweringRules.orderBy.withContext context) ordering = .ok list ∧
      text = String.intercalate ", " (list.map (·.text)) := by
  obtain ⟨list, hlist, -, htext⟩ := build_eq_ok_iff.mp h
  exact ⟨list, hlist, htext⟩

end OrderByClause

/-- A text with a character that is not blank is not trimmed away. -/
theorem Text.trim_ne_empty {text : String} {c : Char} (hmem : c ∈ text.toList)
    (hc : isBlank c = false) : trim text ≠ "" := by
  intro htrim
  have hend : trimEnd (trimStart text.toList) = [] := by
    rw [← @String.toList_ofList (trimEnd _)]
    exact congrArg String.toList htrim
  rw [trimEnd, trimStart, List.reverse_eq_nil_iff, List.dropWhile_eq_nil_iff] at hend
  rw [← @List.takeWhile_append_dropWhile _ isBlank text.toList, List.mem_append] at hmem
  have hblank : isBlank c := by
    rcases hmem with hstart | hrest
    · exact List.mem_takeWhile_imp hstart
    · exact hend c (List.mem_reverse.mpr hrest)
  rw [hc] at hblank
  cases hblank

namespace Draft

/-- Whether a clause of this part is written. -/
def Writes (draft : Draft) (part : Part) : Prop :=
  ∃ clause ∈ ordered draft.clauses, clause.part = part

/-- The ordering clause of a draft is written, with the terms of these keys. -/
def OrdersBy (draft : Draft) (context : Context) (keys : List (Expr × SortDirection)) : Prop :=
  ∃ clause terms, draft.find? .orderBy = some clause ∧ clause ∈ ordered draft.clauses ∧
    OrderByClause.AreTerms (LoweringRules.orderBy.withContext context) keys terms ∧
    clause.content = String.intercalate ", " (terms.map (·.text))

theorem not_writes {draft : Draft} {part : Part}
    (h : ∀ clause ∈ draft.clausesOf part, clause.isBlank) : ¬draft.Writes part := by
  rintro ⟨clause, hclause, rfl⟩
  obtain ⟨hmem, hblank⟩ := mem_ordered.mp hclause
  exact hblank (h clause hmem)

theorem ordersBy_of_clausesOf {draft : Draft} {context : Context}
    {keys : List (Expr × SortDirection)} {terms : List OrderByClause.Term} {call : Expr}
    (hclauses : draft.clausesOf .orderBy =
      [.ofExpr .orderBy (String.intercalate ", " (terms.map (·.text))) false call])
    (hterms : OrderByClause.AreTerms (LoweringRules.orderBy.withContext context) keys terms)
    (hne : terms ≠ []) : draft.OrdersBy context keys := by
  refine ⟨_, terms, by rw [find?_eq_head?, hclauses]; rfl, ?_, hterms, rfl⟩
  refine mem_ordered.mpr ⟨by rw [Clause.ofExpr, hclauses]; exact List.mem_cons_self, ?_⟩
  -- Both directions are spelled with this letter.
  have hletter : 'S' ∈ (String.intercalate ", " (terms.map (·.text))).toList := by
    obtain ⟨term, rest, rfl⟩ := List.exists_cons_of_ne_nil hne
    have hterm : 'S' ∈ term.text.toList := by
      rw [OrderByClause.Term.text]
      cases term.direction <;> simp [SortDirection.keyword]
    rw [String.toList_intercalate, List.map_cons, List.map_cons]
    cases rest with
    | nil => simpa using hterm
    | cons next rest =>
        rw [List.map_cons, List.map_cons, List.intercalate_cons_cons]
        simp [hterm]
  intro hblank
  exact Text.trim_ne_empty hletter (by decide) (of_decide_eq_true hblank)

/-- The keys of the ordering clause, given how its terms come from the ordering steps. -/
theorem ordersBy_of_run {draft : Draft} {context : Context} {steps : List OrderingStep}
    {terms : List OrderByClause.Term} {call : Expr}
    (hclauses : draft.clausesOf .orderBy =
      [.ofExpr .orderBy (String.intercalate ", " (terms.map (·.text))) false call])
    (hne : terms ≠ [])
    (hrun : OrderByClause.Run (LoweringRules.orderBy.withContext context) steps terms) :
    ((∀ step ∈ steps, step.method.restart = false) → ∃ name type, draft.OrdersBy context
      ((.parameter name type, .ascending) :: steps.map (·.sortKey))) ∧
    ∀ before first after, steps = before ++ first :: after → first.method.restart →
      (∀ step ∈ after, step.method.restart = false) →
      draft.OrdersBy context ((first :: after).map (·.sortKey)) := by
  have hexclusive : ∀ step ∈ steps, step.method.restart = true →
      ¬∀ step ∈ steps, step.method.restart = false := by
    intro step hstep hrestart hcontinue
    rw [hcontinue step hstep] at hrestart
    cases hrestart
  cases hrun with
  | @restarted before' after' first' hcut' hfirst' hafter' hterms =>
      constructor
      · intro hcontinue
        exact absurd hcontinue (hexclusive first' (by simp [hcut']) hfirst')
      · intro before first after hcut hfirst hafter
        rw [OrderingStep.cons_eq_of_append_eq (hcut.symm.trans hcut') hfirst hfirst' hafter hafter']
        exact ordersBy_of_clausesOf hclauses hterms hne
  | bare name type hcontinue hterms =>
      constructor
      · intro _
        exact ⟨name, type, ordersBy_of_clausesOf hclauses hterms hne⟩
      · intro before first after hcut hfirst hafter
        exact absurd hcontinue (hexclusive first (by simp [hcut]) hfirst)

end Draft

namespace Query

/-- What the ordering clause of a query is. A query without ordering calls has none. If its last
ordering call has an argument after the key, the clause is empty and not written. Otherwise the
clause has one term for each ordering step, in order, from the last step on that starts a new
ordering. If no step does, it has a term for a parameter before those of all steps. -/
theorem ordersBy_of_chain (builders : Builders) (source : String) (e : Expr) (mode : ExecutionMode)
    (text : String) (h : (ofChain builders source e mode).result = .ok text) :
    ∃ chain stages grouping context draft,
      Chain.classify e = .ok chain ∧ Stages.ofChain chain = .ok stages ∧
      (builders.buildGrouping stages.groupBy { base := source, mode }).result =
        .ok (grouping, context) ∧
      draftOf builders source e mode = .ok draft ∧ draft.render = .ok text ∧
      (chain.orderingSteps = [] → draft.find? .orderBy = none ∧ ¬draft.Writes .orderBy) ∧
      ∀ last ∈ chain.orderingSteps.getLast?,
        (last.isPlain = false →
          (draft.find? .orderBy).map (·.content) = some "" ∧ ¬draft.Writes .orderBy) ∧
        (last.isPlain → (∀ step ∈ chain.orderingSteps, step.method.restart = false) →
          ∃ name type, draft.OrdersBy context
            ((.parameter name type, .ascending) :: chain.orderingSteps.map (·.sortKey))) ∧
        (last.isPlain → ∀ before first after, chain.orderingSteps = before ++ first :: after →
          first.method.restart → (∀ step ∈ after, step.method.restart = false) →
          draft.OrdersBy context ((first :: after).map (·.sortKey))) := by
  obtain ⟨draft, hdraft, hrender⟩ := result_ofChain_eq_ok.mp h
  obtain ⟨chain, hchain, -⟩ := bind_eq_ok_iff.mp hdraft
  obtain ⟨parts, final, hfit, hclauses⟩ := exists_parts_of_draftOf hdraft hchain
  have hordering : draft.clausesOf .orderBy = parts.ordering := hclauses .orderBy (by decide)
  have hclause := hfit.ordering
  rw [Stages.ofChain_ordering hfit.stages] at hclause
  refine ⟨chain, parts.stages, parts.grouping, parts.context, draft, hchain, hfit.stages,
    hfit.grouping, hdraft, hrender, ?_, ?_⟩
  · intro hnone
    rw [hnone] at hclause
    rw [show parts.ordering = [] from hclause] at hordering
    refine ⟨?_, Draft.not_writes (by simp [hordering])⟩
    rw [Draft.find?_eq_head?, hordering]
    rfl
  intro last hlast
  rw [Option.mem_def.mp hlast] at hclause
  obtain ⟨content, hbuild, hparts⟩ := hclause
  rw [hparts] at hordering
  obtain ⟨list, hlist, rfl⟩ := OrderByClause.build_eq_ok (Builders.result_of_build rfl hbuild)
  obtain ⟨inner, hinner, hsteps, name, args, type, hcall, hmethod⟩ :=
    Chain.classify_last hchain (Option.mem_def.mp hlast)
  have hnil := OrderByClause.terms_eq_nil_iff hcall hmethod hlist
  by_cases hplain : last.isPlain = false
  · obtain rfl := hnil.mpr hplain
    refine ⟨fun _ => ⟨?_, Draft.not_writes ?_⟩, by simp [hplain], by simp [hplain]⟩
    · rw [Draft.find?_eq_head?, hordering]
      rfl
    · intro clause hmem
      rw [hordering, List.mem_singleton] at hmem
      rw [hmem]
      rfl
  · have hne : list ≠ [] := mt hnil.mp hplain
    have hrun := OrderByClause.run_of_terms hinner hlist hne
    rw [hsteps] at hrun
    obtain ⟨hbare, hrestarted⟩ := Draft.ordersBy_of_run hordering hne hrun
    exact ⟨fun h => absurd h hplain, fun _ => hbare, fun _ => hrestarted⟩

def orderMember (name : String) (type : DataType) : Expr :=
  .lambda ["o"] (.member (.parameter "o" .unknown) name type)

/-- Orders from the EU, the largest first and those of one amount by city. An earlier ordering by
region no longer counts. -/
def largestFirst : Expr :=
  let inEu := Expr.lambda ["o"] (.binary .equal (.member (.parameter "o" .unknown) "Region" .string)
    (.constant (.string "EU")))
  (((((Expr.source "orders").orderBy (orderMember "Region" .string)).filter inEu).orderByDescending
    (orderMember "Amount" .int)).thenBy (orderMember "City" .string))

theorem ordersBy_of_chain_largestFirst :
    ∃ context draft, draftOf .standard "orders" largestFirst .push = .ok draft ∧
      draft.render = .ok ("SELECT * FROM orders WHERE (Region = 'EU') " ++
        "ORDER BY Amount DESC, City ASC EMIT CHANGES") ∧
      draft.OrdersBy context [(orderMember "Amount" .int, .descending),
        (orderMember "City" .string, .ascending)] := by
  have hquery : (ofChain .standard "orders" largestFirst .push).result =
      .ok ("SELECT * FROM orders WHERE (Region = 'EU') " ++
        "ORDER BY Amount DESC, City ASC EMIT CHANGES") :=
    result_ofChain_of_inOrder? (by decide +kernel)
  obtain ⟨chain, _, _, context, draft, hchain, -, -, hdraft, hrender, -, hlast⟩ :=
    ordersBy_of_chain .standard "orders" largestFirst .push _ hquery
  obtain rfl := Except.ok.inj hchain
  obtain ⟨-, -, hrun⟩ := hlast _ rfl
  have hthenBy : ∀ step ∈ [OrderingStep.mk largestFirst (orderMember "City" .string)
      ⟨.ascending, false⟩], step.method.restart = false := by
    simp
  exact ⟨context, draft, hdraft, hrender, hrun rfl [_] _ _ rfl rfl hthenBy⟩

/-- Orders by amount, compared in a way of their own. -/
def comparedByAmount : Expr :=
  (Expr.source "orders").extend "OrderBy"
    [orderMember "Amount" .int, .parameter "comparer" .unknown]

/-- A continued ordering by amount, on a lambda that gives back its parameter. -/
def continuedByAmount : Expr :=
  (Expr.lambda ["x"] (.parameter "x" .unknown)).thenBy (orderMember "Amount" .int)

/-- An ordering call with a further argument is dropped, and one that continues no ordering is
written after a term for the parameter. -/
theorem ordering_differs_from_chain :
    (∃ chain step, Chain.classify comparedByAmount = .ok chain ∧ chain.orderingSteps = [step] ∧
      step.sortKey = (orderMember "Amount" .int, .ascending) ∧ step.method.restart ∧
      (ofChain .standard "orders" comparedByAmount .push).result =
        .ok "SELECT * FROM orders EMIT CHANGES") ∧
    ∃ chain step, Chain.classify continuedByAmount = .ok chain ∧ chain.orderingSteps = [step] ∧
      step.sortKey = (orderMember "Amount" .int, .ascending) ∧ step.method.restart = false ∧
      (ofChain .standard "orders" continuedByAmount .push).result =
        .ok "SELECT * FROM orders ORDER BY * ASC, Amount ASC EMIT CHANGES" :=
  ⟨⟨_, _, rfl, rfl, rfl, rfl, result_ofChain_of_inOrder? (by decide +kernel)⟩,
    _, _, rfl, rfl, rfl, rfl, result_ofChain_of_inOrder? (by decide +kernel)⟩

end Query

end StreamQuery
