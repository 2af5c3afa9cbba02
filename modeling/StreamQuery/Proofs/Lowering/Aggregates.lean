import StreamQuery.Clause.Filter
import StreamQuery.Proofs.Lowering.Agree
import StreamQuery.Proofs.Report

/-!
# Aggregates through lowering

The grouping key is searched for aggregating calls before it is lowered, a condition on rows after.
Both searches find the same: lowering leaves out only what cannot aggregate, except for the group
that an aggregating call is made on, and the calls that it adds by itself do not aggregate.
-/

namespace StreamQuery

namespace Sql

theorem argsHaveAggregate_eq_any (args : List Sql) :
    argsHaveAggregate args = args.any hasAggregate := by
  induction args with
  | nil => rfl
  | cons head tail ih => rw [argsHaveAggregate, ih, List.any_cons]

theorem hasAggregate_call (method : String) (args : List Sql) (onInstance : Bool) :
    (Sql.call method args onInstance).hasAggregate =
      (SqlFunction.isAggregate method || args.any hasAggregate) := by
  rw [hasAggregate, argsHaveAggregate_eq_any]

theorem hasAggregate_keyEquality_zip {lefts rights : List Sql}
    (hlength : lefts.length = rights.length) :
    (Sql.keyEquality (lefts.zip rights)).hasAggregate =
      (lefts.any hasAggregate || rights.any hasAggregate) := by
  rw [hasAggregate]
  induction lefts generalizing rights with
  | nil =>
      rw [List.length_eq_zero_iff.mp hlength.symm]
      rfl
  | cons left lefts ih =>
      cases rights with
      | nil => cases hlength
      | cons right rights =>
          have hrest := ih (Nat.succ.inj hlength)
          simp only [List.zip_cons_cons, pairsHaveAggregate, List.any_cons, hrest]
          simp only [Bool.or_assoc, Bool.or_left_comm]

end Sql

namespace SqlFunction

/-- The methods that lowering calls by itself. -/
def addedMethods : List String :=
  ["Year", "Month", "Day", "Hour", "Minute", "Second", "DayOfWeek", "DayOfYear", "Length",
   "ArrayLength", "Coalesce"]

theorem isAggregate_of_mem_addedMethods : ∀ name ∈ addedMethods, isAggregate name = false := by
  decide +kernel

theorem mem_addedMethods_of_isDatePart {name : String} (h : isDatePart name) :
    name ∈ addedMethods :=
  List.mem_append_left ["Length", "ArrayLength", "Coalesce"] (of_decide_eq_true h)

end SqlFunction

namespace Expr

theorem hasAggregate_eq (e : Expr) :
    e.hasAggregate = (e.methodName?.any SqlFunction.isAggregate || e.children.any hasAggregate) :=
  any_eq _ e

theorem hasAggregate_call (target : Expr) (name : String) (args : List Expr) (type : DataType) :
    (Expr.call target name args type).hasAggregate =
      (SqlFunction.isAggregate name || (target :: args).any hasAggregate) := by
  rw [hasAggregate_eq, methodName?, children, Option.any_some]

theorem hasAggregate_staticCall (name : String) (args : List Expr) (type : DataType) :
    (Expr.staticCall name args type).hasAggregate =
      (SqlFunction.isAggregate name || args.any hasAggregate) := by
  rw [hasAggregate_eq, methodName?, children, Option.any_some]

theorem hasAggregate_binary (op : BinaryOp) (left right : Expr) :
    (Expr.binary op left right).hasAggregate = (left.hasAggregate || right.hasAggregate) := by
  simp [hasAggregate_eq (.binary op left right), children, methodName?]

theorem hasAggregate_conditional (test ifTrue ifFalse : Expr) :
    (Expr.conditional test ifTrue ifFalse).hasAggregate =
      (test.hasAggregate || (ifTrue.hasAggregate || ifFalse.hasAggregate)) := by
  simp [hasAggregate_eq (.conditional test ifTrue ifFalse), children, methodName?]

theorem hasAggregate_object (members : List (Option String × Expr)) :
    (Expr.object members).hasAggregate = (members.map (·.2)).any hasAggregate :=
  hasAggregate_eq _

theorem hasAggregate_of_isNullConstant {e : Expr} (h : e.isNullConstant = true) :
    e.hasAggregate = false := by
  cases e with
  | constant value => rfl
  | _ => cases h

theorem hasAggregate_eq_true_iff {e : Expr} :
    e.hasAggregate = true ↔
      ∃ node ∈ e.nodes, ∃ name ∈ node.methodName?, SqlFunction.isAggregate name = true := by
  rw [hasAggregate, any_eq_true_iff]
  simp only [Option.any_eq_true, Option.mem_def]

end Expr

namespace LoweringRules

variable {rules : LoweringRules}

/-- A member path consists of members and conversions, with no call among them. -/
theorem hasAggregate_of_columnOfPath {leaf : String} {path : List String} {e : Expr} {t : Sql}
    (h : rules.columnOfPath leaf path e = .ok t) : e.hasAggregate = false := by
  induction e generalizing path with
  | parameter name type => rfl
  | member target name type ih => exact ih h
  | unary op operand type ih =>
      cases op with
      | convert => exact ih h
      | convertChecked => exact ih h
      | typeAs => exact ih h
      | _ => cases h
  | _ => cases h

theorem hasAggregate_of_memberColumn {target : Expr} {name : String} {t : Sql}
    (h : rules.memberColumn target name = .ok t) :
    t.hasAggregate = false ∧ target.hasAggregate = false := by
  constructor
  · rcases rules.memberColumn_eq_error_or_column target name with ⟨failure, herror⟩ | ⟨column, hok⟩
    · rw [herror] at h
      cases h
    · rw [hok] at h
      obtain rfl := Except.ok.inj h
      rfl
  · unfold memberColumn at h
    split at h
    · next hkey =>
        -- A column of the key belongs to a parameter or to a member of one.
        unfold groupKeyColumn? at hkey
        split at hkey
        · cases hkey
        · split at hkey
          · rfl
          · rfl
          · cases hkey
    · exact hasAggregate_of_columnOfPath h

theorem hasAggregate_of_lowerMember {target : Expr} {name : String}
    {lowered : Except Failure Sql} {t : Sql} (h : rules.lowerMember target name lowered = .ok t)
    (hlowered : ∀ s, lowered = .ok s → s.hasAggregate = target.hasAggregate) :
    t.hasAggregate = target.hasAggregate := by
  have hcall : ∀ method ∈ SqlFunction.addedMethods,
      (do return .call method [← lowered] false) = Except.ok t →
      t.hasAggregate = target.hasAggregate := by
    intro method hmethod hreturn
    obtain ⟨s, hs, hpure⟩ := bind_eq_ok_iff.mp hreturn
    obtain rfl := Except.ok.inj hpure
    rw [Sql.hasAggregate_call, SqlFunction.isAggregate_of_mem_addedMethods method hmethod,
      ← hlowered s hs]
    simp
  unfold lowerMember at h
  split at h
  · obtain ⟨s, hs, hpure⟩ := bind_eq_ok_iff.mp h
    obtain rfl := Except.ok.inj hpure
    exact hlowered s hs
  split at h
  · exact hlowered t h
  split at h
  · next hpart =>
      have hdate : isDatePart name := (Bool.and_eq_true_iff.mp hpart).1
      exact hcall name (SqlFunction.mem_addedMethods_of_isDatePart hdate) h
  split at h
  · exact hcall "Length" (by decide) h
  · obtain ⟨ht, htarget⟩ := hasAggregate_of_memberColumn h
    rw [ht, htarget]

/-- Only an aggregating call leaves out an operand. -/
theorem lowerCall_eq_ok {target : Option (Except Failure Sql)} {name : String} {args : List Expr}
    {lowered : List (Except Failure Sql)} {t : Sql}
    (h : rules.lowerCall target name args lowered = .ok t) :
    ∃ operands, t = .call name operands target.isSome ∧
      (SqlFunction.isAggregate name = false →
        List.Forall₂ (fun x s => x = .ok s) (target.toList ++ lowered) operands) := by
  unfold lowerCall at h
  split at h
  · cases h
  · obtain ⟨operands, hoperands, hpure⟩ := bind_eq_ok_iff.mp h
    refine ⟨operands, (Except.ok.inj hpure).symm, fun hplain => ?_⟩
    have hkept := mapM_eq_ok_iff.mp hoperands
    cases target with
    | none => simpa [hplain] using hkept
    | some receiver => simpa [hplain] using hkept

theorem lowerKeyPairs_eq_ok {left right : List (Except Failure Sql)} {pairs : List (Sql × Sql)}
    (hlength : left.length = right.length) (h : lowerKeyPairs left right = .ok pairs) :
    ∃ lefts rights, pairs = lefts.zip rights ∧ List.Forall₂ (fun x s => x = .ok s) left lefts ∧
      List.Forall₂ (fun x s => x = .ok s) right rights := by
  have hpairs := mapM_eq_ok_iff.mp h
  clear h
  induction left generalizing right pairs with
  | nil =>
      rw [List.length_eq_zero_iff.mp hlength.symm] at hpairs ⊢
      cases hpairs
      exact ⟨[], [], rfl, .nil, .nil⟩
  | cons x left ih =>
      cases right with
      | nil => cases hlength
      | cons y right =>
          rw [List.zip_cons_cons] at hpairs
          cases hpairs with
          | cons hpair hrest =>
              obtain ⟨s, hs, hafter⟩ := bind_eq_ok_iff.mp hpair
              obtain ⟨s', hs', hpure⟩ := bind_eq_ok_iff.mp hafter
              obtain ⟨lefts, rights, rfl, hlefts, hrights⟩ := ih (Nat.succ.inj hlength) hrest
              obtain rfl := Except.ok.inj hpure
              exact ⟨s :: lefts, s' :: rights, rfl, .cons hs hlefts, .cons hs' hrights⟩

/-- Two composite keys are compared in all their members. -/
theorem hasAggregate_of_lowerKeys {op : BinaryOp} {left right : List (Except Failure Sql)} {t : Sql}
    (h : rules.lowerKeys op left right = .ok t) :
    ∃ lefts rights, List.Forall₂ (fun x s => x = .ok s) left lefts ∧
      List.Forall₂ (fun x s => x = .ok s) right rights ∧
      t.hasAggregate = (lefts.any Sql.hasAggregate || rights.any Sql.hasAggregate) := by
  unfold lowerKeys at h
  split at h
  · cases h
  · next hlength =>
      have hlength : left.length = right.length := Decidable.not_not.mp hlength
      obtain ⟨pairs, hpairs, hpure⟩ := bind_eq_ok_iff.mp h
      obtain ⟨lefts, rights, rfl, hlefts, hrights⟩ := lowerKeyPairs_eq_ok hlength hpairs
      have hzip : lefts.length = rights.length := by
        rw [← hlefts.length_eq, ← hrights.length_eq, hlength]
      refine ⟨lefts, rights, hlefts, hrights, ?_⟩
      rw [← Sql.hasAggregate_keyEquality_zip hzip]
      obtain rfl := Except.ok.inj hpure
      split <;> rfl

end LoweringRules

namespace Expr

open LoweringRules

variable {rules : LoweringRules}

/-- Both searches for aggregates find the same in the expression, in every position, and in each
member if it is an object. -/
structure KeepsAggregates (rules : LoweringRules) (e : Expr) : Prop where
  lower : ∀ position t, e.lower rules position = .ok t → t.hasAggregate = e.hasAggregate
  parts : ∀ ts, List.Forall₂ (fun x t => x = .ok t) (lowerParts rules e) ts →
    e.isObject = true → ts.any Sql.hasAggregate = e.hasAggregate

namespace KeepsAggregates

theorem of_lower {e : Expr} (hobject : e.isObject = false)
    (h : ∀ position t, e.lower rules position = .ok t → t.hasAggregate = e.hasAggregate) :
    KeepsAggregates rules e where
  lower := h
  parts ts _ htrue := by
    rw [hobject] at htrue
    cases htrue

theorem any_eq {es : List Expr} {ts : List Sql} (h : ∀ e ∈ es, KeepsAggregates rules e)
    (hlowered : List.Forall₂ (fun x t => x = .ok t) (es.map (·.lower rules .value)) ts) :
    ts.any Sql.hasAggregate = es.any hasAggregate := by
  rw [List.forall₂_map_left_iff] at hlowered
  induction hlowered with
  | nil => rfl
  | cons hhead _ ih =>
      obtain ⟨hkeeps, hrest⟩ := List.forall_mem_cons.mp h
      rw [List.any_cons, List.any_cons, hkeeps.lower .value _ hhead, ih hrest]

theorem of_return {e : Expr} (h : KeepsAggregates rules e) (position : Position)
    (build : Sql → Sql) (hbuild : ∀ s, (build s).hasAggregate = s.hasAggregate) {t : Sql}
    (ht : (do return build (← e.lower rules position)) = Except.ok t) :
    t.hasAggregate = e.hasAggregate := by
  obtain ⟨s, hs, hpure⟩ := bind_eq_ok_iff.mp ht
  obtain rfl := Except.ok.inj hpure
  rw [hbuild, h.lower position s hs]

theorem of_return_both {left right : Expr} (hleft : KeepsAggregates rules left)
    (hright : KeepsAggregates rules right) (position : Position) (build : Sql → Sql → Sql)
    (hbuild : ∀ l r, (build l r).hasAggregate = (l.hasAggregate || r.hasAggregate)) {t : Sql}
    (ht : (do return build (← left.lower rules position) (← right.lower rules position)) =
      Except.ok t) :
    t.hasAggregate = (left.hasAggregate || right.hasAggregate) := by
  obtain ⟨l, hl, hafter⟩ := bind_eq_ok_iff.mp ht
  obtain ⟨r, hr, hpure⟩ := bind_eq_ok_iff.mp hafter
  obtain rfl := Except.ok.inj hpure
  rw [hbuild, hleft.lower position l hl, hright.lower position r hr]

theorem member {target : Expr} (h : KeepsAggregates rules target) (name : String)
    (type : DataType) : KeepsAggregates rules (.member target name type) := by
  refine of_lower rfl fun position t ht => ?_
  change t.hasAggregate = target.hasAggregate
  rw [Expr.lower] at ht
  split at ht
  · obtain ⟨s, hs, hpure⟩ := bind_eq_ok_iff.mp ht
    obtain rfl := Except.ok.inj hpure
    rw [Sql.hasAggregate, hasAggregate_of_lowerMember hs (h.lower .value)]
    exact Bool.or_false _
  · exact hasAggregate_of_lowerMember ht (h.lower .value)

/-- An aggregating call is found on both sides, whatever it leaves out. -/
theorem of_lowerCall (target : Option Expr) {name : String} {args : List Expr} {t : Sql}
    (h : ∀ e ∈ target.toList ++ args, KeepsAggregates rules e)
    (ht : rules.lowerCall (target.map (·.lower rules .value)) name args
      (lowerArgs rules args) = .ok t) :
    t.hasAggregate =
      (SqlFunction.isAggregate name || (target.toList ++ args).any hasAggregate) := by
  obtain ⟨operands, rfl, hoperands⟩ := lowerCall_eq_ok ht
  rw [Sql.hasAggregate_call]
  cases haggregate : SqlFunction.isAggregate name with
  | true => rfl
  | false =>
      have hkept := hoperands haggregate
      rw [lowerArgs_eq_map] at hkept
      rw [Bool.false_or, Bool.false_or]
      apply any_eq h
      cases target <;> exact hkept

theorem call {target : Expr} {args : List Expr} (htarget : KeepsAggregates rules target)
    (hargs : ∀ arg ∈ args, KeepsAggregates rules arg) (name : String) (type : DataType) :
    KeepsAggregates rules (.call target name args type) := by
  refine of_lower rfl fun position t ht => ?_
  rw [Expr.lower] at ht
  rw [hasAggregate_call]
  exact of_lowerCall (some target) (List.forall_mem_cons.mpr ⟨htarget, hargs⟩) ht

theorem staticCall {args : List Expr} (hargs : ∀ arg ∈ args, KeepsAggregates rules arg)
    (name : String) (type : DataType) : KeepsAggregates rules (.staticCall name args type) := by
  refine of_lower rfl fun position t ht => ?_
  rw [Expr.lower] at ht
  rw [hasAggregate_staticCall]
  exact of_lowerCall none hargs ht

theorem binary {left right : Expr} (hleft : KeepsAggregates rules left)
    (hright : KeepsAggregates rules right) (op : BinaryOp) :
    KeepsAggregates rules (.binary op left right) := by
  refine of_lower rfl fun position t ht => ?_
  rw [hasAggregate_binary]
  simp only [Expr.lower] at ht
  split at ht
  · next hcompared =>
      have hnull := hasAggregate_of_isNullConstant (Bool.and_eq_true_iff.mp hcompared).2
      rw [hnull, Bool.or_false]
      exact hleft.of_return .value (Sql.isNull · _) (fun _ => rfl) ht
  split at ht
  · next hcompared =>
      have hnull := hasAggregate_of_isNullConstant (Bool.and_eq_true_iff.mp hcompared).2
      rw [hnull, Bool.false_or]
      exact hright.of_return .value (Sql.isNull · _) (fun _ => rfl) ht
  split at ht
  · next hobjects =>
      obtain ⟨hequality, hrightObject⟩ := Bool.and_eq_true_iff.mp hobjects
      have hleftObject := (Bool.and_eq_true_iff.mp hequality).2
      obtain ⟨lefts, rights, hlefts, hrights, hkeys⟩ := hasAggregate_of_lowerKeys ht
      rw [hkeys, hleft.parts lefts hlefts hleftObject, hright.parts rights hrights hrightObject]
  split at ht
  · exact hleft.of_return_both hright .condition (Sql.binary .and) (fun _ _ => rfl) ht
  · exact hleft.of_return_both hright .condition (Sql.binary .or) (fun _ _ => rfl) ht
  · refine hleft.of_return_both hright .value (Sql.call "Coalesce" [·, ·] false) (fun l r => ?_) ht
    simp [Sql.hasAggregate_call, SqlFunction.isAggregate_of_mem_addedMethods "Coalesce" (by decide)]
  · unfold lowerOperator at ht
    split at ht
    · exact hleft.of_return_both hright .value (Sql.binary _) (fun _ _ => rfl) ht
    · cases ht

theorem unary {operand : Expr} (h : KeepsAggregates rules operand) (op : UnaryOp)
    (type : DataType) : KeepsAggregates rules (.unary op operand type) := by
  refine of_lower rfl fun position t ht => ?_
  change t.hasAggregate = operand.hasAggregate
  cases op with
  | not =>
      rw [lower_not] at ht
      split at ht
      · refine h.of_return .value (Sql.binary .equal · (.literal "false")) (fun s => ?_) ht
        exact Bool.or_false _
      · exact h.of_return .condition Sql.not (fun _ => rfl) ht
  | negate => exact h.of_return .value Sql.negate (fun _ => rfl) ht
  | convert => exact h.lower .value t ht
  | convertChecked => exact h.lower .value t ht
  | typeAs => exact h.lower .value t ht
  | arrayLength =>
      refine h.of_return .value (Sql.call "ArrayLength" [·] false) (fun s => ?_) ht
      simp [Sql.hasAggregate_call,
        SqlFunction.isAggregate_of_mem_addedMethods "ArrayLength" (by decide)]

theorem conditional {test ifTrue ifFalse : Expr} (htest : KeepsAggregates rules test)
    (htrue : KeepsAggregates rules ifTrue) (hfalse : KeepsAggregates rules ifFalse) :
    KeepsAggregates rules (.conditional test ifTrue ifFalse) := by
  refine of_lower rfl fun position t ht => ?_
  rw [Expr.lower] at ht
  obtain ⟨c, hc, hafterTest⟩ := bind_eq_ok_iff.mp ht
  obtain ⟨a, ha, hafterTrue⟩ := bind_eq_ok_iff.mp hafterTest
  obtain ⟨b, hb, hpure⟩ := bind_eq_ok_iff.mp hafterTrue
  obtain rfl := Except.ok.inj hpure
  rw [hasAggregate_conditional, Sql.hasAggregate, htest.lower _ c hc, htrue.lower _ a ha,
    hfalse.lower _ b hb]

theorem object {members : List (Option String × Expr)}
    (h : ∀ entry ∈ members, KeepsAggregates rules entry.2) :
    KeepsAggregates rules (.object members) where
  lower position t ht := by
    rw [Expr.lower] at ht
    cases ht
  parts ts hts _ := by
    have hvalues : ∀ e ∈ members.map (·.2), KeepsAggregates rules e := by
      intro e he
      obtain ⟨entry, hentry, rfl⟩ := List.mem_map.mp he
      exact h entry hentry
    rw [lowerParts, lowerMembers_eq_map] at hts
    rw [hasAggregate_object]
    apply any_eq hvalues
    rwa [List.map_map]

end KeepsAggregates

theorem keepsAggregates (rules : LoweringRules) (e : Expr) : KeepsAggregates rules e := by
  induction e with
  | parameter name type =>
      refine .of_lower rfl fun position t ht => ?_
      obtain rfl := Except.ok.inj ht
      rfl
  | member target name type ih => exact ih.member name type
  | bareMember name type =>
      refine .of_lower rfl fun position t ht => ?_
      obtain rfl := Except.ok.inj ht
      rfl
  | call target name args type ihtarget ihargs => exact ihtarget.call ihargs name type
  | staticCall name args type ihargs => exact .staticCall ihargs name type
  | binary op left right ihleft ihright => exact ihleft.binary ihright op
  | unary op operand type ih => exact ih.unary op type
  | constant value =>
      refine .of_lower rfl fun position t ht => ?_
      obtain ⟨text, -, hpure⟩ := bind_eq_ok_iff.mp ht
      obtain rfl := Except.ok.inj hpure
      rfl
  | conditional test ifTrue ifFalse ihtest ihtrue ihfalse => exact ihtest.conditional ihtrue ihfalse
  | object members ih => exact .object ih
  | lambda params body ih => exact .of_lower rfl fun position t ht => ih.lower position t ht
  | source name => exact .of_lower rfl fun position t ht => by cases ht

theorem hasAggregate_of_filter {e : Expr} {context : Context} {text : String}
    (h : FilterClause.build e context = .ok text) : e.hasAggregate = false := by
  obtain ⟨condition, hcondition, hchecked⟩ := bind_eq_ok_iff.mp h
  have hkept := (keepsAggregates _ e).lower .condition condition hcondition
  cases haggregate : condition.hasAggregate with
  | false => rw [← hkept, haggregate]
  | true =>
      rw [haggregate] at hchecked
      cases hchecked

/-- The searches before and after lowering agree. So a condition on rows that can be written holds
no aggregating call, not even where lowering leaves something out. -/
theorem hasAggregate_eq_of_lowered (rules : LoweringRules) (e : Expr) :
    (∀ t, e.lowerCondition rules = .ok t ∨ e.lowerValue rules = .ok t →
      t.hasAggregate = e.hasAggregate) ∧
    ∀ context text, FilterClause.build e context = .ok text →
      ∀ node ∈ e.nodes, ∀ name ∈ node.methodName?, SqlFunction.isAggregate name = false := by
  constructor
  · rintro t (ht | ht)
    · exact (keepsAggregates rules e).lower .condition t ht
    · exact (keepsAggregates rules e).lower .value t ht
  · intro context text htext node hnode name hname
    rw [← Bool.not_eq_true]
    intro haggregate
    have hfound := hasAggregate_eq_true_iff.mpr ⟨node, hnode, name, hname, haggregate⟩
    rw [hasAggregate_of_filter htext] at hfound
    cases hfound

/-- The largest amount of a group that is itself the result of an aggregating call. -/
def largestAmount : Expr :=
  .staticCall "Max" [.call (.parameter "g" .unknown) "Count" [] .int,
    .lambda ["o"] (.member (.parameter "o" .unknown) "Amount" .int)] .int

/-- A city that is known and is Oslo, whatever its case. -/
def inOslo : Expr :=
  .lambda ["o"] (.binary .andAlso
    (.binary .notEqual (.constant .null) (.member (.parameter "o" .unknown) "City" .string))
    (.binary .equal (.call (.member (.parameter "o" .unknown) "City" .string) "ToUpper" [] .string)
      (.constant (.string "OSLO"))))

theorem hasAggregate_eq_of_lowered_largestAmount :
    (∃ t, largestAmount.lowerValue .select = .ok t ∧ t.text = "MAX(Amount)" ∧
      t.hasAggregate = largestAmount.hasAggregate) ∧
    FilterClause.build inOslo {} = .ok "(City IS NOT NULL AND (UPPER(City) = 'OSLO'))" ∧
    ∀ node ∈ inOslo.nodes, ∀ name ∈ node.methodName?, SqlFunction.isAggregate name = false := by
  have hbuild : FilterClause.build inOslo {} =
      .ok "(City IS NOT NULL AND (UPPER(City) = 'OSLO'))" := by
    rfl
  refine ⟨⟨_, rfl, by decide +kernel, ?_⟩, hbuild, ?_⟩
  · exact (hasAggregate_eq_of_lowered .select largestAmount).1 _ (Or.inr rfl)
  · exact (hasAggregate_eq_of_lowered .filter inOslo).2 {} _ hbuild

end Expr

end StreamQuery
