import StreamQuery.Proofs.Lowering.Inversion
import StreamQuery.Proofs.Sql.Literal

/-!
# Null tests

A comparison with the null constant is written as a null test. Only an operand that is the constant
itself is seen. A null behind a conversion, behind a lambda, in a composite key or as the value of a
nullable is compared by an equality, which no row passes.
-/

namespace StreamQuery

def SqlOp.isEquality : SqlOp → Bool
  | .equal => true
  | .notEqual _ => true
  | _ => false

namespace Sql

def isNullLiteral : Sql → Bool
  | .literal text => text = "NULL"
  | _ => false

/-- Whether the node is an equality with `NULL`. -/
def comparesNull : Sql → Bool
  | .binary op left right => op.isEquality && (left.isNullLiteral || right.isNullLiteral)
  | .keyEquality pairs => pairs.any fun pair => pair.1.isNullLiteral || pair.2.isNullLiteral
  | _ => false

/-- The test without an outer negation. -/
def unnegated : Sql → Sql
  | .not operand => operand
  | other => other

theorem unnegated_keyTest (op : BinaryOp) (pairs : List (Sql × Sql)) :
    (keyTest op pairs).unnegated = .keyEquality pairs := by
  unfold keyTest
  split <;> rfl

end Sql

namespace Expr

/-- Null, also behind conversions and lambdas and as the value of a nullable. -/
def isNullValue : Expr → Bool
  | .constant value => value = .null
  | .unary op operand _ => op ∈ [UnaryOp.convert, .convertChecked, .typeAs] && operand.isNullValue
  | .lambda _ body => body.isNullValue
  | .member target name _ => name = "Value" && target.dataType.isNullable && target.isNullValue
  | _ => false

/-- What an equality compares: the members of an object, or the expression itself. -/
def compared : Expr → List Expr
  | .object members => members.map (·.2)
  | e => [e]

/-- Whether the node compares a null that does not show: it is an equality of which neither side is
the null constant, or a boolean member that is compared with a truth value. -/
def hidesNull (rules : LoweringRules) : Expr → Bool
  | .binary op left right =>
    op.isEquality && (!left.isNullConstant && !right.isNullConstant) &&
      (left.compared ++ right.compared).any isNullValue
  | .member target name type =>
    rules.booleanIdioms && (Expr.member target name type).isBoolMember &&
      (Expr.member target name type).isNullValue
  | _ => false

/-- Whether an equality is made of the expression. -/
def isComparison (rules : LoweringRules) (position : Position) : Expr → Bool
  | .binary op _ _ => op.isEquality
  | .member target name type =>
    position = .condition && rules.booleanIdioms && (Expr.member target name type).isBoolMember
  | _ => false

open LoweringRules

variable {rules : LoweringRules} {position : Position} {e : Expr} {t : Sql}

theorem isNullValue_member {target : Expr} {name : String} (type : DataType)
    (h : name ≠ "Value" ∨ target.dataType.isNullable = false) :
    (Expr.member target name type).isNullValue = false := by
  rw [isNullValue]
  rcases h with h | h
  · rw [decide_eq_false h, Bool.false_and, Bool.false_and]
  · rw [h, Bool.and_false, Bool.false_and]

/-- Exactly the null values are written `NULL`. -/
theorem isNullLiteral_of_lowersTo (h : LowersTo rules .value e t) :
    t.isNullLiteral = e.isNullValue := by
  refine LowersTo.induction
    (motive := fun position e t => position = .value → t.isNullLiteral = e.isNullValue) ?_ h rfl
  clear h
  rintro _ e t h rfl
  cases h with
  | value type hnullable h =>
      rw [isNullValue, hnullable, ← h.2 rfl]
      rfl
  | conversion type hop h =>
      rw [isNullValue, decide_eq_true hop, h.2 rfl]
      rfl
  | lambda params h => exact h.2 rfl
  | built h =>
      cases h with
      | member type hderived h =>
          refine (isNullValue_member type ?_).symm
          simp only [isDerived, Bool.or_eq_false_iff, Bool.and_eq_false_iff,
            decide_eq_false_iff_not] at hderived
          exact hderived.1.1.2
      | hasValue type h => exact (isNullValue_member type (Or.inl (by decide))).symm
      | call hname hoperands h onInstance => cases e <;> first | rfl | cases hname
      | property type hname h =>
          refine (isNullValue_member type (Or.inl ?_)).symm
          rintro rfl
          revert hname
          decide
      | keys hop hlength h h' =>
          unfold Sql.keyTest
          split <;> rfl
      | @constant _ value text h =>
          rw [Sql.isNullLiteral, isNullValue]
          refine decide_eq_decide.mpr ⟨?_, ?_⟩
          · rintro rfl
            exact (Constant.written_of_literal h).eq_null rfl
          · rintro rfl
            exact (Except.ok.inj h).symm
      | _ => rfl

theorem any_isNullLiteral {es : List Expr} {ts : List Sql}
    (h : List.Forall₂ (LowersTo rules .value) es ts) :
    ts.any Sql.isNullLiteral = es.any isNullValue := by
  induction h with
  | nil => rfl
  | cons hhead _ ih => rw [List.any_cons, List.any_cons, isNullLiteral_of_lowersTo hhead, ih]

theorem any_zip_or (p : Sql → Bool) {ts ts' : List Sql} (h : ts.length = ts'.length) :
    ((ts.zip ts').any fun pair => p pair.1 || p pair.2) = (ts.any p || ts'.any p) := by
  induction ts generalizing ts' with
  | nil =>
      rw [List.eq_nil_of_length_eq_zero h.symm]
      rfl
  | cons t ts ih =>
      cases ts' with
      | nil => cases h
      | cons t' ts' =>
          rw [List.zip_cons_cons, List.any_cons, List.any_cons, List.any_cons, ih (Nat.succ.inj h)]
          ac_rfl

theorem comparesNull_keys {op : BinaryOp} {members members' : List (Option String × Expr)}
    {ts ts' : List Sql} (hop : op.isEquality) (hlength : members.length = members'.length)
    (h : List.Forall₂ (LowersTo rules .value) (members.map (·.2)) ts)
    (h' : List.Forall₂ (LowersTo rules .value) (members'.map (·.2)) ts') :
    (Sql.keyEquality (ts.zip ts')).comparesNull =
      (Expr.binary op (.object members) (.object members')).hidesNull rules := by
  have hequal : ts.length = ts'.length := by
    rw [← h.length_eq, ← h'.length_eq, List.length_map, List.length_map, hlength]
  calc (Sql.keyEquality (ts.zip ts')).comparesNull
      = (ts.any Sql.isNullLiteral || ts'.any Sql.isNullLiteral) := any_zip_or _ hequal
    _ = ((members.map (·.2)).any isNullValue || (members'.map (·.2)).any isNullValue) := by
        rw [any_isNullLiteral h, any_isNullLiteral h']
    _ = _ := by
        rw [hidesNull, hop, List.any_append]
        rfl

theorem compared_of_lowersTo (h : LowersTo rules position e t) : e.compared = [e] := by
  cases e with
  | object members => cases h
  | _ => rfl

theorem comparesNull_operator {op : BinaryOp} {symbol : SqlOp} {left right : Expr} {l r : Sql}
    (hop : rules.operator? op = some symbol)
    (hnull : op.isEquality → left.isNullConstant = false ∧ right.isNullConstant = false)
    (hleft : LowersTo rules .value left l) (hright : LowersTo rules .value right r) :
    (Sql.binary symbol l r).comparesNull = (Expr.binary op left right).hidesNull rules := by
  have hsymbol : symbol.isEquality = op.isEquality := by
    cases op <;> cases hop <;> rfl
  rw [Sql.comparesNull, hidesNull, hsymbol, isNullLiteral_of_lowersTo hleft,
    isNullLiteral_of_lowersTo hright, compared_of_lowersTo hleft, compared_of_lowersTo hright]
  cases hequality : op.isEquality with
  | false => rfl
  | true =>
      obtain ⟨hl, hr⟩ := hnull hequality
      simp [hl, hr]

theorem hidesNull_of_isBoolMember (hidioms : rules.booleanIdioms) (hbool : e.isBoolMember) :
    e.hidesNull rules = e.isNullValue := by
  cases e with
  | member target name type => rw [hidesNull, hidioms, hbool, Bool.true_and, Bool.true_and]
  | _ => cases hbool

theorem comparesNull_truth (t : Sql) (value : Bool) :
    (Sql.binary .equal t (.literal (if value then "true" else "false"))).comparesNull =
      t.isNullLiteral := by
  cases value <;> simp [Sql.comparesNull, SqlOp.isEquality, Sql.isNullLiteral]

/-- Every equality with `NULL` comes from a comparison that hides a null. -/
theorem exists_hidesNull {node : Sql} (h : Makes rules e node) (hnull : node.comparesNull) :
    ∃ e' ∈ e.nodes, e'.hidesNull rules := by
  cases h with
  | truth value => cases hnull
  | keys hmem hop hlength h h' =>
      refine ⟨_, hmem, ?_⟩
      rw [← comparesNull_keys hop hlength h h']
      exact hnull
  | node hmem h =>
      cases h with
      | isTrue hidioms hbool h =>
          refine ⟨_, hmem, ?_⟩
          rw [hidesNull_of_isBoolMember hidioms hbool, ← isNullLiteral_of_lowersTo h,
            ← comparesNull_truth _ true]
          exact hnull
      | @isFalse operand t type hidioms hbool h =>
          have hinner : operand ∈ (Expr.unary .not operand type).nodes :=
            mem_nodes.mpr (Or.inr ⟨operand, List.mem_cons_self, self_mem_nodes operand⟩)
          refine ⟨operand, nodes_trans hmem hinner, ?_⟩
          rw [hidesNull_of_isBoolMember hidioms hbool, ← isNullLiteral_of_lowersTo h,
            ← comparesNull_truth _ false]
          exact hnull
      | operator hop hconstant hleft hright =>
          refine ⟨_, hmem, ?_⟩
          rw [← comparesNull_operator hop hconstant hleft hright]
          exact hnull
      | logical hop hleft hright =>
          rcases hop with ⟨-, rfl⟩ | ⟨-, rfl⟩ <;> cases hnull
      | @keys _ op members members' ts ts' hop hlength h h' =>
          refine ⟨_, hmem, ?_⟩
          unfold Sql.keyTest at hnull
          split at hnull
          · cases hnull
          · rw [← comparesNull_keys hop hlength h h']
            exact hnull
      | _ => cases hnull

/-- An equality becomes a null test if a side is the null constant. Otherwise it compares what its
sides are lowered to. -/
theorem LowersTo.equality {op : BinaryOp} {left right : Expr}
    (h : LowersTo rules position (.binary op left right) t) (hop : op.isEquality) :
    (∃ operand s,
      (right.isNullConstant ∧ operand = left ∨ left.isNullConstant ∧ operand = right) ∧
        LowersTo rules .value operand s ∧ t = .isNull s (op = .notEqual)) ∨
    (left.isNullConstant || right.isNullConstant) = false ∧
      t.unnegated.comparesNull = (Expr.binary op left right).hidesNull rules := by
  cases h.by_rule with
  | built hbuilt =>
      cases hbuilt with
      | isTrue hidioms hbool _ => cases hbool
      | call hname hoperands _ onInstance => cases hname
      | coalesce hleft hright => cases hop
      | nullTest _ hside hoperand => exact Or.inl ⟨_, _, hside, hoperand, rfl⟩
      | keys _ hlength hkeys hkeys' =>
          refine Or.inr ⟨rfl, ?_⟩
          rw [Sql.unnegated_keyTest]
          exact comparesNull_keys hop hlength hkeys hkeys'
      | logical hlogical hleft hright =>
          rcases hlogical with ⟨rfl, -⟩ | ⟨rfl, -⟩ <;> cases hop
      | operator hsymbol hconstant hleft hright =>
          obtain ⟨hl, hr⟩ := hconstant hop
          refine Or.inr ⟨?_, comparesNull_operator hsymbol hconstant hleft hright⟩
          rw [hl, hr]
          rfl

theorem comparesNull_of_isComparison (h : LowersTo rules position e t)
    (hcomparison : e.isComparison rules position) :
    t.unnegated.comparesNull = e.hidesNull rules := by
  cases e with
  | member target name type =>
      obtain ⟨hplace, hbool⟩ := Bool.and_eq_true_iff.mp hcomparison
      rw [LowersTo, lower, hplace, hbool, Bool.true_and, if_pos rfl] at h
      obtain ⟨s, hs, hpure⟩ := bind_eq_ok_iff.mp h
      obtain rfl := Except.ok.inj hpure
      have hvalue : LowersTo rules .value (.member target name type) s := hs
      rw [hidesNull_of_isBoolMember (Bool.and_eq_true_iff.mp hplace).2 hbool,
        ← isNullLiteral_of_lowersTo hvalue]
      exact comparesNull_truth s true
  | binary op left right =>
      rcases h.equality hcomparison with ⟨operand, s, hside, -, rfl⟩ | ⟨-, heq⟩
      · rw [hidesNull]
        rcases hside with ⟨hnull, -⟩ | ⟨hnull, -⟩ <;>
          simp [hnull, Sql.unnegated, Sql.comparesNull]
      · exact heq
  | _ => cases hcomparison

/-- An equality with `NULL` is written only where the expression compares a null that does not show,
and there always. Where the null constant is a side of the comparison, there is a null test of the
other side. -/
theorem comparesNull_iff_hidesNull {rules : LoweringRules} {position : Position} {e : Expr}
    {t : Sql} (h : e.lower rules position = .ok t) :
    ((∃ node ∈ t.nodes, node.comparesNull) → ∃ e' ∈ e.nodes, e'.hidesNull rules) ∧
    (e.isComparison rules position → (t.unnegated.comparesNull ↔ e.hidesNull rules)) ∧
    ∀ op left right, e = .binary op left right → op.isEquality →
      left.isNullConstant || right.isNullConstant →
        ∃ operand s,
          (right.isNullConstant ∧ operand = left ∨ left.isNullConstant ∧ operand = right) ∧
            operand.lower rules .value = .ok s ∧ t = .isNull s (op = .notEqual) := by
  refine ⟨?_, ?_, ?_⟩
  · rintro ⟨node, hnode, hnull⟩
    exact exists_hidesNull (LowersTo.makes h node hnode) hnull
  · intro hcomparison
    rw [comparesNull_of_isComparison h hcomparison]
  · rintro op left right rfl hop hnull
    rcases LowersTo.equality h hop with htest | ⟨hnone, -⟩
    · exact htest
    · rw [hnone] at hnull
      cases hnull

/-- Orders of which the name is a null of the type of names. -/
def unnamedByConversion : Expr :=
  .binary .equal (.member (.parameter "o" .unknown) "Name" .string)
    (.unary .convert (.constant .null) .string)

/-- Orders of which the place is not a pair with a null. -/
def placedOutsideNull : Expr :=
  .binary .notEqual
    (.object [(none, .member (.parameter "o" .unknown) "Region" .string),
      (none, .member (.parameter "o" .unknown) "City" .string)])
    (.object [(none, .constant (.string "EU")), (none, .constant .null)])

theorem comparesNull_iff_hidesNull_placedOutsideNull :
    ∃ t, placedOutsideNull.lower .filter .condition = .ok t ∧
      t.text = "NOT ((Region = 'EU' AND City = NULL))" ∧ t.unnegated.comparesNull := by
  have h : placedOutsideNull.lower .filter .condition = .ok (.not (.keyEquality
      [(.column "Region", .literal "'EU'"), (.column "City", .literal "NULL")])) := rfl
  exact ⟨_, h, by decide, ((comparesNull_iff_hidesNull h).2.1 rfl).mpr (by decide)⟩

theorem hidden_null_is_compared :
    unnamedByConversion.lower .filter .condition =
      .ok (.binary .equal (.column "Name") (.literal "NULL")) ∧
    (Sql.binary .equal (.column "Name") (.literal "NULL")).comparesNull :=
  ⟨rfl, rfl⟩

end Expr

end StreamQuery
