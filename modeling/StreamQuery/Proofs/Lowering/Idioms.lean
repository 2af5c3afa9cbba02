import StreamQuery.Proofs.Lowering.Agree

/-!
# Boolean idioms

With boolean idioms, a boolean member in the place of a condition is compared with `true`, and its
negation with `false`. This changes the text of a condition and never its meaning: in every
compositional reading of SQL where a boolean and its comparison with `true` have one value, the two
lowerings of an expression have one value.
-/

namespace StreamQuery

universe u

namespace Sql

/-- A reading of SQL expressions in which the value of an expression depends on the values of its
parts alone, and in which comparing a boolean with a truth value keeps or negates it. -/
structure Interpretation (V : Type u) where
  star : Option String → V
  column : String → V
  literal : String → V
  call : String → List V → Bool → V
  binary : SqlOp → V → V → V
  keyEquality : List (V × V) → V
  not : V → V
  negate : V → V
  isNull : V → Bool → V
  case : V → V → V → V
  IsBoolean : V → Prop
  equal_true : ∀ v, IsBoolean v → binary .equal v (literal "true") = v
  equal_false : ∀ v, IsBoolean v → binary .equal v (literal "false") = not v

namespace Interpretation

variable {V : Type u} (reading : Interpretation V)

mutual

def value : Sql → V
  | .star qualifier => reading.star qualifier
  | .column name => reading.column name
  | .literal text => reading.literal text
  | .call method args onInstance => reading.call method (argValues args) onInstance
  | .binary op left right => reading.binary op (value left) (value right)
  | .keyEquality pairs => reading.keyEquality (pairValues pairs)
  | .not operand => reading.not (value operand)
  | .negate operand => reading.negate (value operand)
  | .isNull operand negated => reading.isNull (value operand) negated
  | .case test ifTrue ifFalse => reading.case (value test) (value ifTrue) (value ifFalse)

def argValues : List Sql → List V
  | [] => []
  | e :: rest => value e :: argValues rest

def pairValues : List (Sql × Sql) → List (V × V)
  | [] => []
  | (left, right) :: rest => (value left, value right) :: pairValues rest

end

theorem argValues_congr {args args' : List Sql}
    (h : List.Forall₂ (fun t t' => reading.value t = reading.value t') args args') :
    reading.argValues args = reading.argValues args' := by
  induction h with
  | nil => rfl
  | cons hhead _ ih => rw [argValues, argValues, hhead, ih]

theorem pairValues_congr {pairs pairs' : List (Sql × Sql)}
    (h : List.Forall₂ (fun p q => reading.value p.1 = reading.value q.1 ∧
      reading.value p.2 = reading.value q.2) pairs pairs') :
    reading.pairValues pairs = reading.pairValues pairs' := by
  induction h with
  | nil => rfl
  | cons hhead _ ih => rw [pairValues, pairValues, hhead.1, hhead.2, ih]

/-- Equality of values is a congruence: this is what makes the reading compositional. -/
theorem congruence_value (named : String → Prop) :
    Congruence named fun t t' => reading.value t = reading.value t' where
  call _ hargs := by rw [value, value, reading.argValues_congr hargs]
  binary hleft hright := by rw [value, value, hleft, hright]
  keyEquality hpairs := by rw [value, value, reading.pairValues_congr hpairs]
  not h := by rw [value, value, h]
  negate h := by rw [value, value, h]
  isNull h := by rw [value, value, h]
  case htest htrue hfalse := by rw [value, value, htest, htrue, hfalse]

end Interpretation

end Sql

namespace LoweringRules

/-- The same rules with boolean idioms switched on or off. -/
def withIdioms (rules : LoweringRules) (idioms : Bool) : LoweringRules :=
  { rules with booleanIdioms := idioms }

theorem memberColumn_withIdioms (rules : LoweringRules) (idioms : Bool) (target : Expr)
    (name : String) :
    (rules.withIdioms idioms).memberColumn target name = rules.memberColumn target name := by
  unfold memberColumn
  rw [@columnOfPath_congr (rules.withIdioms idioms) rules rfl rfl rfl]
  rfl

end LoweringRules

namespace Expr

theorem lower_withoutIdioms (rules : LoweringRules) (position : Position) (e : Expr) :
    e.lower (rules.withIdioms false) position = e.lower (rules.withIdioms false) .value := by
  induction e with
  | lambda params body ih => rw [lower, lower, ih]
  | unary op operand type ih =>
      cases op <;> simp [lower, LoweringRules.withIdioms]
  | _ => simp [lower, LoweringRules.withIdioms]

/-- Compared with a truth value, the expression is related to itself or to its negation, if it is a
boolean member. -/
def IdiomAlike (R : Sql → Sql → Prop) (rules : LoweringRules) (e : Expr) : Prop :=
  e.isBoolMember → ∀ t t', e.lower (rules.withIdioms true) .value = .ok t →
    e.lower (rules.withIdioms false) .value = .ok t' → R t t' →
      R (.binary .equal t (.literal "true")) t' ∧
      R (.binary .equal t (.literal "false")) (.not t')

section Idioms

open LoweringRules

variable {R : Sql → Sql → Prop} {rules : LoweringRules}

theorem lowersAlike_member_withIdioms (hR : Sql.Congruence (fun _ => True) R)
    (hcolumn : ∀ name, R (.column name) (.column name)) {target : Expr} {name : String}
    {type : DataType}
    (htarget : LowersAlike R (rules.withIdioms true) (rules.withIdioms false) target target)
    (hidiom : IdiomAlike R rules (.member target name type)) :
    LowersAlike R (rules.withIdioms true) (rules.withIdioms false) (.member target name type)
      (.member target name type) := by
  have hlowered : Agree R
      ((rules.withIdioms true).lowerMember target name
        (target.lower (rules.withIdioms true) .value))
      ((rules.withIdioms false).lowerMember target name
        (target.lower (rules.withIdioms false) .value)) := by
    refine agree_lowerMember hR trivial rfl (fun _ => htarget.lower .value) fun _ => ?_
    rw [memberColumn_withIdioms, memberColumn_withIdioms]
    obtain ⟨failure, hnamed⟩ | ⟨column, hnamed⟩ :=
      memberColumn_eq_error_or_column rules target name
    · rw [hnamed]
      exact .error failure
    · rw [hnamed]
      exact .ok (hcolumn column)
  have hvalue : ∀ idioms,
      (Expr.member target name type).lower (rules.withIdioms idioms) .value =
        (rules.withIdioms idioms).lowerMember target name
          (target.lower (rules.withIdioms idioms) .value) := by
    intro idioms
    simp [lower]
  refine .of_ne_object rfl (by simp [kind]) rfl fun position => ?_
  rw [lower_withoutIdioms, hvalue, lower]
  split
  · next hcompared =>
      have hbool : (Expr.member target name type).isBoolMember = true := by
        simp only [Bool.and_eq_true] at hcompared
        exact hcompared.2
      refine hlowered.with_values.mapLeft ?_
      rintro t t' ⟨ht, ht', hrelated⟩
      exact (hidiom hbool t t' ((hvalue true).trans ht) ((hvalue false).trans ht') hrelated).1
  · exact hlowered

theorem lowersAlike_not_withIdioms (hR : Sql.Congruence (fun _ => True) R) {operand : Expr}
    (type : DataType)
    (hoperand : LowersAlike R (rules.withIdioms true) (rules.withIdioms false) operand operand)
    (hidiom : IdiomAlike R rules operand) :
    LowersAlike R (rules.withIdioms true) (rules.withIdioms false) (.unary .not operand type)
      (.unary .not operand type) := by
  refine .of_ne_object rfl (by simp [kind]) rfl fun position => ?_
  have hplain : (Expr.unary .not operand type).lower (rules.withIdioms false) .value =
      (do return .not (← operand.lower (rules.withIdioms false) .value)) := by
    rw [lower_not, lower_withoutIdioms rules .condition]
    simp
  rw [lower_withoutIdioms, hplain, lower_not]
  split
  · next hcompared =>
      have hbool : operand.isBoolMember = true := by
        simp only [Bool.and_eq_true] at hcompared
        exact hcompared.2
      refine (hoperand.lower .value).with_values.map ?_
      rintro t t' ⟨ht, ht', hrelated⟩
      exact (hidiom hbool t t' ht ht' hrelated).2
  · rw [← lower_withoutIdioms rules .condition]
    exact (hoperand.lower .condition).map fun _ _ h => hR.not h

/-- The two lowerings of an expression agree up to a congruence, if it relates the idioms of boolean
members to what they stand for. -/
theorem lowersAlike_withIdioms (hR : Sql.Congruence (fun _ => True) R)
    (hstar : ∀ qualifier, R (.star qualifier) (.star qualifier))
    (hcolumn : ∀ name, R (.column name) (.column name))
    (hliteral : ∀ text, R (.literal text) (.literal text)) (e : Expr)
    (hidiom : ∀ node ∈ e.nodes, IdiomAlike R rules node) :
    LowersAlike R (rules.withIdioms true) (rules.withIdioms false) e e := by
  have hclause : (rules.withIdioms true).clause = (rules.withIdioms false).clause := rfl
  have hinequality : (rules.withIdioms true).inequality = (rules.withIdioms false).inequality := rfl
  induction e with
  | parameter name type =>
      exact .of_ne_object rfl (by simp [kind]) rfl fun position => .ok (hstar _)
  | member target name type ih =>
      exact lowersAlike_member_withIdioms hR hcolumn
        (ih (nodes_of_child hidiom (by simp [children]))) (hidiom _ (self_mem_nodes _))
  | bareMember name type =>
      exact .of_ne_object rfl (by simp [kind]) rfl fun position => .ok (hcolumn name)
  | call target name args type ihtarget ihargs =>
      refine .call hR hclause type trivial ?_ (List.forall₂_same.mpr fun arg harg => ?_)
      · exact ihtarget (nodes_of_child hidiom (by simp [children]))
      · exact ihargs arg harg (nodes_of_child hidiom (by simp [children, harg]))
  | staticCall name args type ihargs =>
      refine .staticCall hR hclause type trivial (List.forall₂_same.mpr fun arg harg => ?_)
      exact ihargs arg harg (nodes_of_child hidiom (by simp [children, harg]))
  | binary op left right ihleft ihright =>
      refine .binary hR trivial hclause hinequality op ?_ ?_
      · exact ihleft (nodes_of_child hidiom (by simp [children]))
      · exact ihright (nodes_of_child hidiom (by simp [children]))
  | unary op operand type ih =>
      have hnodes : ∀ node ∈ operand.nodes, IdiomAlike R rules node :=
        nodes_of_child hidiom (by simp [children])
      by_cases hnot : op = .not
      · subst hnot
        exact lowersAlike_not_withIdioms hR type (ih hnodes) (hnodes operand (self_mem_nodes _))
      · exact .unary hR trivial hnot type (ih hnodes)
  | constant value =>
      refine .of_ne_object rfl (by simp [kind]) rfl fun position => ?_
      rw [lower, lower, hclause]
      cases value.literal (rules.withIdioms false).clause with
      | error failure => exact .error failure
      | ok text => exact .ok (hliteral text)
  | conditional test ifTrue ifFalse ihtest ihtrue ihfalse =>
      refine .conditional hR ?_ ?_ ?_
      · exact ihtest (nodes_of_child hidiom (by simp [children]))
      · exact ihtrue (nodes_of_child hidiom (by simp [children]))
      · exact ihfalse (nodes_of_child hidiom (by simp [children]))
  | object members ih =>
      refine .object hclause (List.forall₂_same.mpr fun entry hentry => ?_)
      exact ih entry hentry
        (nodes_of_child hidiom (List.mem_map.mpr ⟨entry, hentry, rfl⟩))
  | lambda params body ih =>
      exact .lambda params params (ih (nodes_of_child hidiom (by simp [children])))
  | source name => exact .source hclause name

end Idioms

/-- Idioms change neither what can be lowered nor, where boolean members have boolean values, the
value of what is lowered. -/
theorem value_lower_withIdioms {V : Type u} (reading : Sql.Interpretation V)
    (rules : LoweringRules) (e : Expr) (position : Position) :
    (∀ failure, e.lower (rules.withIdioms true) position = .error failure ↔
      e.lower (rules.withIdioms false) position = .error failure) ∧
    ∀ idioms, (∀ node ∈ e.nodes, node.isBoolMember →
        ∀ t, node.lowerValue (rules.withIdioms idioms) = .ok t →
          reading.IsBoolean (reading.value t)) →
      ∀ t t', e.lower (rules.withIdioms true) position = .ok t →
        e.lower (rules.withIdioms false) position = .ok t' →
          reading.value t = reading.value t' := by
  constructor
  · -- Any two trees are related here: only the failures count.
    have hany : Sql.Congruence (fun _ => True) fun _ _ => True := by
      constructor <;> intros <;> trivial
    have halike := @lowersAlike_withIdioms _ rules hany (fun _ => trivial) (fun _ => trivial)
      (fun _ => trivial) e fun _ _ _ _ _ _ _ _ => ⟨trivial, trivial⟩
    exact (halike.lower position).error_iff
  · intro idioms hboolean t t' ht ht'
    have halike := @lowersAlike_withIdioms _ rules (reading.congruence_value fun _ => True)
      (fun _ => rfl) (fun _ => rfl) (fun _ => rfl) e fun node hnode hbool u u' hu hu' hvalue => by
        have hisBoolean : reading.IsBoolean (reading.value u) := by
          cases idioms with
          | true => exact hboolean node hnode hbool u hu
          | false => exact hvalue ▸ hboolean node hnode hbool u' hu'
        constructor
        · calc
            reading.value (.binary .equal u (.literal "true")) = reading.value u :=
              reading.equal_true _ hisBoolean
            _ = reading.value u' := hvalue
        · calc
            reading.value (.binary .equal u (.literal "false")) = reading.not (reading.value u) :=
              reading.equal_false _ hisBoolean
            _ = reading.not (reading.value u') := by rw [hvalue]
            _ = reading.value (.not u') := rfl
    have hagree := halike.lower position
    rw [ht, ht'] at hagree
    exact hagree.related

/-- The order is not paid and is shipped. -/
def unpaidShipped : Expr :=
  .lambda ["o"] (.binary .andAlso
    (.unary .not (.member (.parameter "o" .unknown) "Paid" .bool) .bool)
    (.member (.parameter "o" .unknown) "Shipped" .bool))

/-- Three-valued logic beside numbers, over a row where `Paid` is null, `Shipped` is true and every
other column holds the number 7. -/
def shippedRow : Sql.Interpretation (Option (Bool ⊕ Int)) where
  star _ := none
  column name :=
    if name = "Paid" then none else if name = "Shipped" then some (.inl true) else some (.inr 7)
  literal text := if text = "true" then some (.inl true) else some (.inl false)
  call _ _ _ := none
  binary op left right :=
    match op with
    | .and => if left = some (.inl false) then left else if left = some (.inl true) then right
      else if right = some (.inl false) then right else none
    | _ => do return .inl ((← left) = (← right))
  keyEquality _ := none
  not
    | some (.inl value) => some (.inl !value)
    | _ => none
  negate operand := operand
  isNull operand negated := some (.inl (operand.isNone != negated))
  case test ifTrue ifFalse := if test = some (.inl true) then ifTrue else ifFalse
  IsBoolean v := ∀ n, v ≠ some (.inr n)
  equal_true v hv := by
    rcases v with _ | ⟨_ | _⟩ | n
    · rfl
    · rfl
    · rfl
    · exact absurd rfl (hv n)
  equal_false v hv := by
    rcases v with _ | ⟨_ | _⟩ | n
    · rfl
    · rfl
    · rfl
    · exact absurd rfl (hv n)

theorem value_lower_withIdioms_unpaidShipped :
    ∃ t t', unpaidShipped.lower (LoweringRules.filter.withIdioms true) .condition = .ok t ∧
      unpaidShipped.lower (LoweringRules.filter.withIdioms false) .condition = .ok t' ∧
      t.text = "((Paid = false) AND (Shipped = true))" ∧ t'.text = "(NOT (Paid) AND Shipped)" ∧
      shippedRow.value t = shippedRow.value t' := by
  have hboolean : ∀ node ∈ unpaidShipped.nodes, node.isBoolMember →
      ∀ t, node.lowerValue (LoweringRules.filter.withIdioms true) = .ok t →
        shippedRow.IsBoolean (shippedRow.value t) := by
    intro node hnode hbool t ht
    simp only [unpaidShipped, nodes, List.mem_cons, List.mem_append, List.not_mem_nil, or_false]
      at hnode
    rcases hnode with rfl | rfl | (rfl | rfl | rfl) | rfl | rfl <;> cases hbool <;> cases ht <;>
      intro n hn <;> cases hn
  exact ⟨_, _, rfl, rfl, rfl, rfl,
    (value_lower_withIdioms shippedRow LoweringRules.filter unpaidShipped .condition).2 true
      hboolean _ _ rfl rfl⟩

end Expr

end StreamQuery
