import StreamQuery.Clause.Builders
import StreamQuery.Proofs.Clause.WindowSettings
import StreamQuery.Proofs.Lowering.Renaming

/-!
# Clauses under other parameter names

Every clause of a query is built from an expression with its parameters renamed as it was before,
and fails as it did. Of all clauses only a join gives its parameters aliases, and it looks them up
under the new names.
-/

namespace StreamQuery

open StreamQuery.Expr

/-- Contexts that differ at most in the names under which they keep aliases. -/
structure Context.Renamed (rename : String → String) (context context' : Context) : Prop where
  isGrouped : context.isGrouped = context'.isGrouped
  groupKeys? : context.groupKeys? = context'.groupKeys?
  aliases : ∀ name, Dictionary.get? name (context.parameterAliases?.getD []) =
    Dictionary.get? (rename name) (context'.parameterAliases?.getD [])

variable {rename : String → String} {context context' : Context} {rules rules' : LoweringRules}

theorem Context.Renamed.withContext (h : Context.Renamed rename context context')
    (haliases : rules.aliases = []) :
    (rules.withContext context).Renamed rename (rules.withContext context') where
  clause := rfl
  naming := rfl
  inequality := rfl
  booleanIdioms := rfl
  groupKeys := by
    dsimp only [LoweringRules.withContext]
    rw [h.groupKeys?]
  aliases name := by
    dsimp only [LoweringRules.withContext]
    rw [haliases]
    exact h.aliases name

theorem Context.Renamed.of_no_aliases (rename : String → String)
    (h : context.parameterAliases? = none) : Context.Renamed rename context context where
  isGrouped := rfl
  groupKeys? := rfl
  aliases name := by
    rw [h]
    rfl

theorem LoweringRules.Renamed.withContext (rename : String → String)
    (hcontext : context.parameterAliases? = none) (haliases : rules.aliases = []) :
    (rules.withContext context).Renamed rename (rules.withContext context) :=
  (Context.Renamed.of_no_aliases rename hcontext).withContext haliases

theorem Expr.hasAggregate_renamed (rename : String → String) (e : Expr) :
    (e.renamed rename).hasAggregate = e.hasAggregate := by
  refine any_mapLeaves id rename ?_ e
  intro node
  rw [methodName?_mapLeaves]

namespace SelectClause

theorem memberLabel_renamed (rename : String → String) (name : Option String) (value : Expr)
    (index : Nat) :
    memberLabel name (value.renamed rename) index = memberLabel name value index := by
  cases name with
  | some name => rfl
  | none =>
      cases value with
      | unary op operand type => simp [memberLabel, renamed, mapLeaves]
      | _ => rfl

theorem projections_of_not_isObject {e : Expr} (h : e.isObject = false) :
    projections rules e = do return [{ sql := ← e.lowerValue rules, label := none }] := by
  cases e with
  | object members => cases h
  | _ => rfl

theorem projections_renamed (h : rules.Renamed rename rules') (e : Expr) :
    projections rules' (e.renamed rename) = projections rules e := by
  cases hobject : e.isObject with
  | false =>
      have hrenamed : (e.renamed rename).isObject = false := by
        rw [renamed, isObject_mapLeaves, hobject]
      rw [projections_of_not_isObject hrenamed, projections_of_not_isObject hobject,
        lowerValue_renamed h]
  | true =>
      cases e with
      | object members =>
          have hmember : ∀ entry : (Option String × Expr) × Nat,
              memberProjection rules' entry.1.1 (entry.1.2.renamed rename) entry.2 =
                memberProjection rules entry.1.1 entry.1.2 entry.2 := by
            intro entry
            rw [memberProjection, memberProjection, lowerValue_renamed h, memberLabel_renamed]
          rw [renamed, mapLeaves, mapMembers_eq_map, projections, projections, List.zipIdx_map,
            List.mapM_map]
          exact congrArg (members.zipIdx.mapM ·) (funext hmember)
      | _ => cases hobject

theorem build_renamed (h : context.Renamed rename context') (selector : Expr) :
    build (selector.renamed rename) context' = build selector context := by
  have hprojections : projections (LoweringRules.select.withContext context')
      (selector.renamed rename).stripLambda =
      projections (LoweringRules.select.withContext context) selector.stripLambda := by
    rw [renamed, stripLambda_mapLeaves]
    exact projections_renamed (h.withContext rfl) selector.stripLambda
  unfold build validate
  rw [hprojections, h.isGrouped]

end SelectClause

theorem FilterClause.build_renamed (rename : String → String)
    (hcontext : context.parameterAliases? = none) (predicate : Expr) :
    build (predicate.renamed rename) context = build predicate context := by
  unfold build lowerCondition
  rw [lower_renamed (.withContext rename hcontext rfl)]

theorem HavingClause.build_renamed (rename : String → String)
    (hcontext : context.parameterAliases? = none) (predicate : Expr) :
    build (predicate.renamed rename) context = build predicate context := by
  unfold build lowerCondition
  rw [lower_renamed (.withContext rename hcontext rfl)]

theorem Expr.methodNames_renamed (rename : String → String) (e : Expr) :
    (e.renamed rename).methodNames = e.methodNames := by
  have hargs : ∀ args : List Expr,
      (∀ arg ∈ args, (arg.renamed rename).methodNames = arg.methodNames) →
        argMethodNames (mapArgs id rename args) = argMethodNames args := by
    intro args hargs
    induction args with
    | nil => rfl
    | cons head tail ih =>
        obtain ⟨hhead, htail⟩ := List.forall_mem_cons.mp hargs
        rw [mapArgs, argMethodNames, argMethodNames, ih htail]
        exact congrArg (· ++ argMethodNames tail) hhead
  have hmembers : ∀ members : List (Option String × Expr),
      (∀ entry ∈ members, (entry.2.renamed rename).methodNames = entry.2.methodNames) →
        memberMethodNames (mapMembers id rename members) = memberMethodNames members := by
    intro members hmembers
    induction members with
    | nil => rfl
    | cons head tail ih =>
        obtain ⟨hhead, htail⟩ := List.forall_mem_cons.mp hmembers
        rw [mapMembers, memberMethodNames, memberMethodNames, ih htail]
        exact congrArg (· ++ memberMethodNames tail) hhead
  unfold renamed at hargs hmembers ⊢
  induction e with
  | call target name args type ihtarget ihargs =>
      rw [mapLeaves, methodNames, methodNames, ihtarget, hargs args ihargs]
  | staticCall name args type ihargs => rw [mapLeaves, methodNames, methodNames, hargs args ihargs]
  | object members ih => rw [mapLeaves, methodNames, methodNames, hmembers members ih]
  | _ => simp_all [mapLeaves, methodNames]

namespace GroupByClause

theorem leaves_renamed (rename : String → String) (name : Option String) (e : Expr) :
    leaves name (e.renamed rename) =
      (leaves name e).map fun leaf => (leaf.1, leaf.2.renamed rename) := by
  unfold renamed
  induction e generalizing name with
  | lambda params body ih => rw [mapLeaves, leaves, ih, leaves]
  | unary op operand type ih =>
      cases op with
      | convert => rw [mapLeaves, leaves, ih, leaves]
      | convertChecked => rw [mapLeaves, leaves, ih, leaves]
      | _ => rfl
  | object members ih =>
      rw [mapLeaves, leaves, leaves]
      induction members with
      | nil => rfl
      | cons head tail ihtail =>
          obtain ⟨hhead, htail⟩ := List.forall_mem_cons.mp ih
          have hname : memberName? head.1 (head.2.mapLeaves id rename) =
              memberName? head.1 head.2 := by
            unfold GroupByClause.memberName?
            rw [memberName?_mapLeaves]
          rw [mapMembers, memberLeaves, memberLeaves, List.map_append, ihtail htail, hname, hhead]
  | _ => rfl

theorem keyColumn_renamed (h : rules.Renamed rename rules') (leaf : Expr) :
    keyColumn rules' (leaf.renamed rename) = keyColumn rules leaf := by
  have hlower := lowerValue_renamed h leaf
  cases leaf with
  | parameter name type => rfl
  | source name => rfl
  | _ => exact congrArg (fun lowered : Except Failure Sql => do return (← lowered).text) hlower

theorem keys_renamed (rename : String → String) (hcontext : context.parameterAliases? = none)
    (selector : Expr) : keys (selector.renamed rename) context = keys selector context := by
  have hrules : (LoweringRules.groupBy.withContext context).Renamed rename
      (LoweringRules.groupBy.withContext context) :=
    .withContext rename hcontext rfl
  have hkey : ∀ leaf : Option String × Expr,
      (do return { name := leaf.1,
                   column := ← keyColumn (LoweringRules.groupBy.withContext context)
                     (leaf.2.renamed rename) : Key }) =
        do return { name := leaf.1,
                    column := ← keyColumn (LoweringRules.groupBy.withContext context) leaf.2 :
                      Key } := by
    intro leaf
    rw [keyColumn_renamed hrules]
  unfold keys
  dsimp only
  rw [hasAggregate_renamed, methodNames_renamed, leaves_renamed, List.mapM_map]
  simp only [Function.comp_def, hkey]

theorem groupKeys_renamed (rename : String → String) (hcontext : context.parameterAliases? = none)
    (selector : Expr) :
    groupKeys (selector.renamed rename) context = groupKeys selector context := by
  have hobject : (selector.renamed rename).stripLambda.stripConversions.isObject =
      selector.stripLambda.stripConversions.isObject := by
    rw [renamed, stripLambda_mapLeaves, stripConversions_mapLeaves, isObject_mapLeaves]
  unfold groupKeys
  rw [keys_renamed rename hcontext, hobject]

theorem build_renamed (rename : String → String) (hcontext : context.parameterAliases? = none)
    (selector : Expr) : build (selector.renamed rename) context = build selector context := by
  unfold build
  rw [keys_renamed rename hcontext]

end GroupByClause

namespace JoinClause

theorem sourceName?_renamed (rename : String → String) (e : Expr) :
    sourceName? (e.renamed rename) = sourceName? e := by
  unfold renamed
  induction e with
  | staticCall name args type ih =>
      cases args with
      | nil => rfl
      | cons receiver args => exact ih receiver List.mem_cons_self
  | _ => rfl

theorem innerName_renamed (rename : String → String) (e : Expr) :
    innerName (e.renamed rename) = innerName e := by
  cases e <;> rfl

theorem keyColumns_renamed (h : rules.Renamed rename rules') (e : Expr) :
    keyColumns rules' (e.renamed rename) = keyColumns rules e := by
  have hsingle : ∀ e : Expr,
      (do return [(← (e.mapLeaves id rename).lowerValue rules').text] : Except Failure _) =
        do return [(← e.lowerValue rules).text] := by
    intro e
    rw [← lowerValue_renamed h e]
    rfl
  unfold renamed
  induction e with
  | lambda params body ih => exact ih
  | unary op operand type ih =>
      cases op with
      | convert => exact ih
      | convertChecked => exact ih
      | _ => exact hsingle (.unary _ operand type)
  | object members ih =>
      have hmember : ∀ entry : Option String × Expr,
          (do return (← (entry.2.renamed rename).lowerValue rules').text : Except Failure _) =
            do return (← entry.2.lowerValue rules).text := by
        intro entry
        rw [lowerValue_renamed h]
      rw [mapLeaves, mapMembers_eq_map, keyColumns, keyColumns, List.mapM_map]
      exact congrArg (members.mapM ·) (funext hmember)
  | _ => exact hsingle _

theorem lambdaParams_renamed (rename : String → String) (e : Expr) :
    (e.renamed rename).lambdaParams = e.lambdaParams.map rename := by
  cases e <;> rfl

/-- The two sides of a join keep their aliases, whatever the parameters are called. -/
theorem renamed_withParameterAliases (hrename : Function.Injective rename) (context : Context)
    (params : List String) :
    (context.withParameterAliases (resultAliases params)).Renamed rename
      (context.withParameterAliases (resultAliases (params.map rename))) := by
  have hother : ∀ (key : String) (aliases : Dictionary String), key ≠ "parameter_aliases" →
      (context.withParameterAliases aliases).metadata? key = context.metadata? key := by
    intro key aliases hkey
    change Dictionary.get? key (Dictionary.insert "parameter_aliases" _ context.metadata) = _
    rw [Dictionary.get?_insert, if_neg hkey]
    rfl
  have haliases : ∀ aliases : Dictionary String,
      (context.withParameterAliases aliases).parameterAliases? = some aliases := by
    intro aliases
    change (Dictionary.get? "parameter_aliases"
      (Dictionary.insert "parameter_aliases" (Json.ofStringMap aliases)
        context.metadata)).bind _ = _
    rw [Dictionary.get?_insert, if_pos rfl]
    exact Json.toStringMap?_ofStringMap aliases
  constructor
  · rw [Context.isGrouped, Context.isGrouped, hother _ _ (by decide), hother _ _ (by decide)]
  · rw [Context.groupKeys?, Context.groupKeys?, hother _ _ (by decide), hother _ _ (by decide)]
  · intro name
    rw [haliases, haliases, Option.getD_some, Option.getD_some, resultAliases, resultAliases,
      List.zip_map_left, Dictionary.get?_ofList_rename hrename]

theorem analyzeArgs_renamed (hrename : Function.Injective rename) (context : Context)
    (outer inner outerKey innerKey result : Expr) :
    analyzeArgs (outer.renamed rename) (inner.renamed rename) (outerKey.renamed rename)
        (innerKey.renamed rename) (result.renamed rename) context =
      analyzeArgs outer inner outerKey innerKey result context := by
  have hrules : LoweringRules.join.Renamed rename LoweringRules.join := .of_no_aliases rename rfl
  unfold analyzeArgs
  dsimp only
  rw [innerName_renamed, keyColumns_renamed hrules, keyColumns_renamed hrules, sourceName?_renamed,
    lambdaParams_renamed,
    SelectClause.build_renamed (renamed_withParameterAliases hrename context result.lambdaParams)]

theorem analyze_renamed (hrename : Function.Injective rename) (context : Context) (call : Expr) :
    analyze (call.renamed rename) context = analyze call context := by
  cases call with
  | staticCall name args type =>
      match args with
      | [outer, inner, outerKey, innerKey, result] =>
          change (if name = "Join" then analyzeArgs (outer.renamed rename) (inner.renamed rename)
            (outerKey.renamed rename) (innerKey.renamed rename) (result.renamed rename) context
            else _) = if name = "Join" then _ else _
          rw [analyzeArgs_renamed hrename]
      | [] | [_] | [_, _] | [_, _, _] | [_, _, _, _] | _ :: _ :: _ :: _ :: _ :: _ :: _ => rfl
  | _ => rfl

end JoinClause

namespace OrderByClause

theorem isComplex_renamed (rename : String → String) (key : Expr) :
    isComplex (key.renamed rename) = isComplex key := by
  refine any_mapLeaves id rename ?_ key
  intro node
  cases node <;> rfl

theorem term_renamed (h : rules.Renamed rename rules') (key : Expr) (direction : SortDirection) :
    term rules' (key.renamed rename) direction = term rules key direction := by
  have hcomplex : isComplex (key.renamed rename).stripLambda = isComplex key.stripLambda := by
    rw [renamed, stripLambda_mapLeaves]
    exact isComplex_renamed rename key.stripLambda
  unfold term
  rw [hcomplex, lowerValue_renamed h]

theorem terms_renamed (h : rules.Renamed rename rules') (e : Expr) :
    terms rules' (e.renamed rename) = terms rules e := by
  unfold renamed
  induction e with
  | lambda params body ih =>
      rw [terms, ← term_renamed h (.lambda params body) .ascending]
      rfl
  | staticCall name args type ih =>
      match args with
      | [receiver, key] =>
          have hextend : ∀ (method : OrderingMethod) (earlier : List Term),
              extend rules' name method (key.mapLeaves id rename) earlier =
                extend rules name method key earlier := by
            intro method earlier
            unfold extend
            rw [← term_renamed h key method.direction]
            rfl
          rw [mapLeaves, mapArgs, mapArgs, mapArgs, terms, terms,
            ih receiver List.mem_cons_self]
          simp only [hextend]
      | [] | [_] | _ :: _ :: _ :: _ => rfl
  | _ => rfl

theorem build_renamed (rename : String → String) (hcontext : context.parameterAliases? = none)
    (ordering : Expr) : build (ordering.renamed rename) context = build ordering context := by
  unfold build
  rw [terms_renamed (.withContext rename hcontext rfl)]

end OrderByClause

namespace WindowClause

theorem spec_renamed (rename : String → String) (e : Expr) :
    spec (e.renamed rename) = spec e :=
  spec_mapLeaves rename (fun _ => rfl) e

theorem build_renamed (rename : String → String) (argument : Expr) :
    build (argument.renamed rename) = build argument := by
  unfold build
  rw [spec_renamed]

end WindowClause

end StreamQuery
