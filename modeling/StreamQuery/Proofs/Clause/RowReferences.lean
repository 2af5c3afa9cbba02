import StreamQuery.Clause.Select
import StreamQuery.Proofs.Lowering.Inversion

/-!
# Aggregates beside rows

Without a grouping a select list has one value for all rows or one for each row, and cannot mix the
two. The check looks for columns outside every aggregating call and so keeps them away from
aggregates. It does not look for `*`: a parameter that stands for the whole row passes beside an
aggregate, and nothing else does.
-/

namespace StreamQuery

namespace Sql

def isAggregateCall : Sql → Bool
  | .call method _ _ => SqlFunction.isAggregate method
  | _ => false

/-- The node stands in the tree outside every aggregating call. -/
inductive Exposed (node : Sql) : Sql → Prop
  | here : Exposed node node
  | inside {t child : Sql} (hplain : t.isAggregateCall = false) (hchild : child ∈ t.children)
    (h : Exposed node child) : Exposed node t

theorem exposed_iff {node t : Sql} :
    Exposed node t ↔
      node = t ∨ t.isAggregateCall = false ∧ ∃ child ∈ t.children, Exposed node child := by
  constructor
  · intro h
    cases h with
    | here => exact Or.inl rfl
    | inside hplain hchild h => exact Or.inr ⟨hplain, _, hchild, h⟩
  · rintro (rfl | ⟨hplain, child, hchild, h⟩)
    · exact .here
    · exact .inside hplain hchild h

theorem argsHavePlainColumn_iff {args : List Sql} :
    argsHavePlainColumn args = true ↔ ∃ arg ∈ args, arg.hasPlainColumn = true := by
  induction args with
  | nil => simp [argsHavePlainColumn]
  | cons head tail ih => simp [argsHavePlainColumn, ih]

theorem pairsHavePlainColumn_iff {pairs : List (Sql × Sql)} :
    pairsHavePlainColumn pairs = true ↔
      ∃ child ∈ (Sql.keyEquality pairs).children, child.hasPlainColumn = true := by
  rw [children_keyEquality]
  induction pairs with
  | nil => simp [pairsHavePlainColumn]
  | cons head tail ih =>
      obtain ⟨left, right⟩ := head
      rw [pairsHavePlainColumn, Bool.or_eq_true, Bool.or_eq_true, ih, List.flatMap_cons]
      simp only [List.mem_append, List.mem_cons, List.not_mem_nil, or_false, or_and_right,
        exists_or, exists_eq_left, or_assoc]

theorem hasPlainColumn_iff {t : Sql} :
    t.hasPlainColumn = true ↔
      (∃ name, .column name = t) ∨
        t.isAggregateCall = false ∧ ∃ child ∈ t.children, child.hasPlainColumn = true := by
  cases t with
  | call method args onInstance =>
      simp [hasPlainColumn, isAggregateCall, children, argsHavePlainColumn_iff]
  | keyEquality pairs =>
      rw [hasPlainColumn, pairsHavePlainColumn_iff]
      simp [isAggregateCall]
  | _ => simp [hasPlainColumn, isAggregateCall, children]

/-- The check finds the columns outside every aggregating call. -/
theorem hasPlainColumn_iff_exposed {t : Sql} :
    t.hasPlainColumn = true ↔ ∃ name, Exposed (.column name) t := by
  induction t using children_induction with
  | step t ih =>
      rw [hasPlainColumn_iff]
      constructor
      · rintro (⟨name, rfl⟩ | ⟨hplain, child, hchild, hcolumn⟩)
        · exact ⟨name, .here⟩
        · obtain ⟨name, hname⟩ := (ih child hchild).mp hcolumn
          exact ⟨name, .inside hplain hchild hname⟩
      · rintro ⟨name, hname⟩
        rcases exposed_iff.mp hname with rfl | ⟨hplain, child, hchild, hexposed⟩
        · exact Or.inl ⟨name, rfl⟩
        · exact Or.inr ⟨hplain, child, hchild, (ih child hchild).mpr ⟨name, hexposed⟩⟩

/-- A whole row stands in the tree outside every aggregating call. -/
def ExposesRow (t : Sql) : Prop :=
  ∃ qualifier, Exposed (.star qualifier) t

theorem exposesRow_iff {t : Sql} :
    t.ExposesRow ↔
      (∃ qualifier, .star qualifier = t) ∨
        t.isAggregateCall = false ∧ ∃ child ∈ t.children, child.ExposesRow := by
  constructor
  · rintro ⟨qualifier, h⟩
    rcases exposed_iff.mp h with rfl | ⟨hplain, child, hchild, hexposed⟩
    · exact Or.inl ⟨qualifier, rfl⟩
    · exact Or.inr ⟨hplain, child, hchild, qualifier, hexposed⟩
  · rintro (⟨qualifier, rfl⟩ | ⟨hplain, child, hchild, qualifier, hexposed⟩)
    · exact ⟨qualifier, .here⟩
    · exact ⟨qualifier, .inside hplain hchild hexposed⟩

@[simp]
theorem exposesRow_star (qualifier : Option String) : (Sql.star qualifier).ExposesRow :=
  ⟨qualifier, .here⟩

@[simp]
theorem not_exposesRow_column (name : String) : ¬(Sql.column name).ExposesRow := by
  rw [exposesRow_iff]
  simp [children]

@[simp]
theorem not_exposesRow_literal (text : String) : ¬(Sql.literal text).ExposesRow := by
  rw [exposesRow_iff]
  simp [children]

@[simp]
theorem exposesRow_call (method : String) (args : List Sql) (onInstance : Bool) :
    (Sql.call method args onInstance).ExposesRow ↔
      SqlFunction.isAggregate method = false ∧ ∃ arg ∈ args, arg.ExposesRow := by
  simp [exposesRow_iff (t := .call method args onInstance), isAggregateCall, children]

@[simp]
theorem exposesRow_binary (op : SqlOp) (left right : Sql) :
    (Sql.binary op left right).ExposesRow ↔ left.ExposesRow ∨ right.ExposesRow := by
  simp [exposesRow_iff (t := .binary op left right), isAggregateCall, children]

@[simp]
theorem exposesRow_not (operand : Sql) : (Sql.not operand).ExposesRow ↔ operand.ExposesRow := by
  simp [exposesRow_iff (t := .not operand), isAggregateCall, children]

@[simp]
theorem exposesRow_negate (operand : Sql) :
    (Sql.negate operand).ExposesRow ↔ operand.ExposesRow := by
  simp [exposesRow_iff (t := .negate operand), isAggregateCall, children]

@[simp]
theorem exposesRow_isNull (operand : Sql) (negated : Bool) :
    (Sql.isNull operand negated).ExposesRow ↔ operand.ExposesRow := by
  simp [exposesRow_iff (t := .isNull operand negated), isAggregateCall, children]

@[simp]
theorem exposesRow_case (test ifTrue ifFalse : Sql) :
    (Sql.case test ifTrue ifFalse).ExposesRow ↔
      test.ExposesRow ∨ ifTrue.ExposesRow ∨ ifFalse.ExposesRow := by
  simp [exposesRow_iff (t := .case test ifTrue ifFalse), isAggregateCall, children]

theorem mem_children_zip {lefts rights : List Sql} (hlength : lefts.length = rights.length)
    {t : Sql} : t ∈ (Sql.keyEquality (lefts.zip rights)).children ↔ t ∈ lefts ∨ t ∈ rights := by
  rw [children_keyEquality]
  induction lefts generalizing rights with
  | nil =>
      rw [List.eq_nil_of_length_eq_zero hlength.symm]
      simp
  | cons left lefts ih =>
      cases rights with
      | nil => cases hlength
      | cons right rights =>
          rw [List.zip_cons_cons, List.flatMap_cons, List.mem_append, ih (Nat.succ.inj hlength)]
          simp only [List.mem_cons, List.not_mem_nil, or_false]
          exact or_or_or_comm

theorem exposesRow_keyTest (op : BinaryOp) {lefts rights : List Sql}
    (hlength : lefts.length = rights.length) :
    (Sql.keyTest op (lefts.zip rights)).ExposesRow ↔
      (∃ t ∈ lefts, t.ExposesRow) ∨ ∃ t ∈ rights, t.ExposesRow := by
  have hequality : (Sql.keyEquality (lefts.zip rights)).ExposesRow ↔
      (∃ t ∈ lefts, t.ExposesRow) ∨ ∃ t ∈ rights, t.ExposesRow := by
    rw [exposesRow_iff]
    simp [isAggregateCall, mem_children_zip hlength, or_and_right, exists_or]
  unfold keyTest
  split
  · rw [exposesRow_not, hequality]
  · exact hequality

end Sql

namespace Expr

open LoweringRules

mutual

/-- Whether a parameter stands for a whole row outside every aggregating call. The parameter of a
member that is a column stands for that column only. -/
def exposesRow : Expr → Bool
  | .parameter .. => true
  | .member target name _ => isDerived target name && target.exposesRow
  | .bareMember .. => false
  | .call target name args _ =>
    !SqlFunction.isAggregate name && (target.exposesRow || argsExposeRow args)
  | .staticCall name args _ => !SqlFunction.isAggregate name && argsExposeRow args
  | .binary _ left right => left.exposesRow || right.exposesRow
  | .unary _ operand _ => operand.exposesRow
  | .constant _ => false
  | .conditional test ifTrue ifFalse =>
    test.exposesRow || (ifTrue.exposesRow || ifFalse.exposesRow)
  | .object members => membersExposeRow members
  | .lambda _ body => body.exposesRow
  | .source _ => false

def argsExposeRow : List Expr → Bool
  | [] => false
  | e :: rest => e.exposesRow || argsExposeRow rest

def membersExposeRow : List (Option String × Expr) → Bool
  | [] => false
  | (_, e) :: rest => e.exposesRow || membersExposeRow rest

end

theorem argsExposeRow_iff {args : List Expr} :
    argsExposeRow args = true ↔ ∃ arg ∈ args, arg.exposesRow = true := by
  induction args with
  | nil => simp [argsExposeRow]
  | cons head tail ih => simp [argsExposeRow, ih]

theorem exposesRow_object {members : List (Option String × Expr)} :
    (Expr.object members).exposesRow = true ↔
      ∃ e ∈ members.map (·.2), e.exposesRow = true := by
  rw [exposesRow]
  induction members with
  | nil => simp [membersExposeRow]
  | cons head tail ih => simp [membersExposeRow, ih]

/-- A call shows rows through its operands, unless it aggregates. -/
theorem exposesRow_of_methodName {e : Expr} {name : String} (h : e.methodName? = some name) :
    e.exposesRow = true ↔
      SqlFunction.isAggregate name = false ∧ ∃ child ∈ e.children, child.exposesRow = true := by
  cases e with
  | call target method args type =>
      obtain rfl := Option.some.inj h
      simp [exposesRow, children, argsExposeRow_iff]
  | staticCall method args type =>
      obtain rfl := Option.some.inj h
      simp [exposesRow, children, argsExposeRow_iff]
  | _ => cases h

theorem exposesRow_stripLambda (e : Expr) : e.stripLambda.exposesRow = e.exposesRow := by
  induction e with
  | lambda params body ih => rw [stripLambda, ih, exposesRow]
  | _ => rfl

theorem hasAggregate_stripLambda (e : Expr) : e.stripLambda.hasAggregate = e.hasAggregate := by
  induction e with
  | lambda params body ih =>
      rw [stripLambda, ih, hasAggregate_eq (.lambda params body)]
      simp [children, methodName?]
  | _ => rfl

theorem exposesRow_of_isNullConstant {e : Expr} (h : e.isNullConstant = true) :
    e.exposesRow = false := by
  cases e with
  | constant value => rfl
  | _ => cases h

theorem exists_exposesRow_iff {R : Expr → Sql → Prop} {es : List Expr} {ts : List Sql}
    (h : List.Forall₂ R es ts)
    (hR : ∀ e ∈ es, ∀ t, R e t → (t.ExposesRow ↔ e.exposesRow = true)) :
    (∃ t ∈ ts, t.ExposesRow) ↔ ∃ e ∈ es, e.exposesRow = true := by
  induction h with
  | nil => simp
  | cons hhead _ ih =>
      rw [List.forall_mem_cons] at hR
      simp only [List.mem_cons, exists_eq_or_imp]
      rw [hR.1 _ hhead, ih hR.2]

variable {rules : LoweringRules} {position : Position} {e : Expr} {t : Sql}

/-- Rows show in the lowered expression exactly where parameters stand for them. -/
theorem exposesRow_iff_of_lowersTo (h : LowersTo rules position e t) :
    t.ExposesRow ↔ e.exposesRow = true := by
  refine LowersTo.part_induction
    (motive := fun _ e t => t.ExposesRow ↔ e.exposesRow = true) ?_ h
  clear h
  intro position e t hlowered hparts hrule
  cases hrule with
  | value type hnullable h => simp [exposesRow, h.2, isDerived, hnullable]
  | conversion type hop h => exact h.2
  | lambda params h => exact h.2
  | built h =>
      cases h with
      | parameter name type => simp [exposesRow]
      | bareMember name type => simp [exposesRow]
      | member type hderived h => simp [exposesRow, hderived]
      | hasValue type h => simp [exposesRow, h.2, isDerived]
      | isTrue hidioms hbool h => simp [h.2]
      | @call _ _ name operands ts hname hoperands h onInstance =>
          rw [Sql.exposesRow_call, exposesRow_of_methodName hname]
          apply and_congr_right
          intro hplain
          obtain ⟨_, _, hcall, hchildren⟩ := hlowered.operands hname hplain
          cases hcall
          refine exists_exposesRow_iff hchildren fun child hchild s hs => ?_
          exact hparts .value child s (Or.inl hchild) hs
      | property type hname h =>
          rw [exposesRow, hlowered.isDerived_of_call, Bool.true_and, Sql.exposesRow_call]
          simp [h.2, SqlFunction.isAggregate_of_mem_addedMethods _ hname]
      | coalesce hleft hright =>
          simp [exposesRow, hleft.2, hright.2,
            SqlFunction.isAggregate_of_mem_addedMethods "Coalesce" (by decide)]
      | arrayLength type h =>
          simp [exposesRow, h.2,
            SqlFunction.isAggregate_of_mem_addedMethods "ArrayLength" (by decide)]
      | nullTest hop hnull h =>
          rw [Sql.exposesRow_isNull, h.2, exposesRow]
          rcases hnull with ⟨hnull, rfl⟩ | ⟨hnull, rfl⟩
          · rw [exposesRow_of_isNullConstant hnull, Bool.or_false]
          · rw [exposesRow_of_isNullConstant hnull, Bool.false_or]
      | keys hop hlength h h' =>
          have hequal := h.length_eq.symm.trans
            ((by simpa using hlength : _ = _).trans h'.length_eq)
          rw [Sql.exposesRow_keyTest _ hequal, exposesRow, Bool.or_eq_true, exposesRow_object,
            exposesRow_object, exists_exposesRow_iff h fun _ _ _ hs => hs.2,
            exists_exposesRow_iff h' fun _ _ _ hs => hs.2]
      | logical hop hleft hright => simp [exposesRow, hleft.2, hright.2]
      | operator hop hnull hleft hright => simp [exposesRow, hleft.2, hright.2]
      | isFalse type hidioms hbool h => simp [exposesRow, h.2]
      | not type h => simp [exposesRow, h.2]
      | negate type h => simp [exposesRow, h.2]
      | constant h => simp [exposesRow]
      | conditional htest htrue hfalse => simp [exposesRow, htest.2, htrue.2, hfalse.2]

end Expr

namespace SelectClause

open StreamQuery.Sql StreamQuery.Expr

/-- The values of a select list: the members of an object, or the expression itself. -/
def values : Expr → List Expr
  | .object members => members.map (·.2)
  | e => [e]

theorem exposesRow_iff_values {e : Expr} :
    e.exposesRow = true ↔ ∃ value ∈ values e, value.exposesRow = true := by
  cases e with
  | object members => exact exposesRow_object
  | _ => simp [values]

theorem hasAggregate_eq_values (e : Expr) :
    e.hasAggregate = (values e).any Expr.hasAggregate := by
  cases e with
  | object members => exact hasAggregate_object members
  | _ => simp [values]

section

variable {rules : LoweringRules} {e : Expr} {columns : List Projection}

/-- Each column of a select list is what its value is lowered to. -/
theorem forall₂_of_projections (h : projections rules e = .ok columns) :
    List.Forall₂ (LowersTo rules .value) (values e) (columns.map (·.sql)) := by
  rw [List.forall₂_map_right_iff]
  unfold projections at h
  split at h
  · next members =>
      have hvalues : members.map (·.2) = members.zipIdx.map (·.1.2) := by
        calc members.map (·.2)
            = (members.zipIdx.map Prod.fst).map (·.2) := by rw [List.zipIdx_map_fst]
          _ = members.zipIdx.map (·.1.2) := List.map_map
      rw [values, hvalues, List.forall₂_map_left_iff]
      refine (mapM_eq_ok_iff.mp h).imp ?_
      rintro ⟨⟨name, value⟩, index⟩ column hcolumn
      obtain ⟨t, ht, hpure⟩ := bind_eq_ok_iff.mp hcolumn
      obtain rfl := Except.ok.inj hpure
      exact ht
  · next hobject =>
      obtain ⟨t, ht, hpure⟩ := bind_eq_ok_iff.mp h
      obtain rfl := Except.ok.inj hpure
      have hvalues : values e = [e] := by
        cases e with
        | object members => exact absurd rfl (hobject members)
        | _ => rfl
      rw [hvalues]
      exact .cons ht .nil

theorem any_hasAggregate_of_projections (h : projections rules e = .ok columns) :
    columns.any (·.sql.hasAggregate) = e.hasAggregate := by
  have hcolumns : List.Forall₂ (fun x t => x = .ok t) ((values e).map (·.lower rules .value))
      (columns.map (·.sql)) :=
    List.forall₂_map_left_iff.mpr (forall₂_of_projections h)
  calc columns.any (·.sql.hasAggregate)
      = (columns.map (·.sql)).any Sql.hasAggregate := by rw [List.any_map]; rfl
    _ = (values e).any Expr.hasAggregate :=
        KeepsAggregates.any_eq (fun value _ => keepsAggregates rules value) hcolumns
    _ = e.hasAggregate := (hasAggregate_eq_values e).symm

theorem exposesRow_of_projections (h : projections rules e = .ok columns) :
    (∃ column ∈ columns, column.sql.ExposesRow) ↔ e.exposesRow = true := by
  rw [exposesRow_iff_values, ← exists_exposesRow_iff (forall₂_of_projections h)
    fun _ _ _ hs => exposesRow_iff_of_lowersTo hs]
  simp

end

/-- Every column and every star of the tree lies below an aggregating call. -/
def IsAggregated (t : Sql) : Prop :=
  (∀ name, ¬Exposed (.column name) t) ∧ ∀ qualifier, ¬Exposed (.star qualifier) t

/-- Without a grouping, no column of a select list that aggregates stands outside every aggregating
call. A whole row does so exactly if the selector has a parameter for it there. -/
theorem isAggregated_iff_of_build (selector : Expr) (context : Context) (text : String)
    (hcontext : context.isGrouped = false) (h : build selector context = .ok text)
    (haggregate : selector.hasAggregate = true) :
    ∃ columns,
      projections (LoweringRules.select.withContext context) selector.stripLambda = .ok columns ∧
      render columns = text ∧
      (∀ column ∈ columns, ∀ name, ¬Exposed (.column name) column.sql) ∧
      ((∀ column ∈ columns, IsAggregated column.sql) ↔ selector.exposesRow = false) := by
  obtain ⟨columns, hcolumns, hafter⟩ := bind_eq_ok_iff.mp h
  obtain ⟨_, hvalid, hpure⟩ := bind_eq_ok_iff.mp hafter
  have hfound : columns.any (·.sql.hasAggregate) = true := by
    rw [any_hasAggregate_of_projections hcolumns, hasAggregate_stripLambda, haggregate]
  have hexposed : ∀ column ∈ columns, ∀ name, ¬Exposed (.column name) column.sql := by
    intro column hcolumn name hname
    have hplain : columns.any (·.sql.hasPlainColumn) = true :=
      List.any_eq_true.mpr ⟨column, hcolumn, hasPlainColumn_iff_exposed.mpr ⟨name, hname⟩⟩
    unfold validate at hvalid
    rw [hcontext, hfound, hplain] at hvalid
    cases hvalid
  refine ⟨columns, hcolumns, Except.ok.inj hpure, hexposed, ?_⟩
  rw [← exposesRow_stripLambda, ← Bool.not_eq_true, ← exposesRow_of_projections hcolumns]
  constructor
  · rintro haggregated ⟨column, hcolumn, qualifier, hstar⟩
    exact (haggregated column hcolumn).2 qualifier hstar
  · intro hrows column hcolumn
    refine ⟨hexposed column hcolumn, fun qualifier hstar => ?_⟩
    exact hrows ⟨column, hcolumn, qualifier, hstar⟩

/-- How many orders there are, and their rounded average. -/
def orderFigures : Expr :=
  let orders := Expr.parameter "g" .unknown
  .lambda ["g"] (.object [(some "Count", .staticCall "Count" [orders] .int),
    (some "Average", .staticCall "Round" [.staticCall "Average" [orders,
      .lambda ["x"] (.member (.parameter "x" .unknown) "Amount" .int)] .double] .double)])

theorem isAggregated_iff_of_build_orderFigures :
    build orderFigures {} = .ok "COUNT(*) AS Count, ROUND(AVG(Amount)) AS Average" ∧
    orderFigures.hasAggregate = true ∧ orderFigures.exposesRow = false ∧
    ∃ columns, projections .select orderFigures.stripLambda = .ok columns ∧ columns.length = 2 ∧
      ∀ column ∈ columns, IsAggregated column.sql := by
  obtain ⟨hbuild, haggregate, hrows⟩ :
      build orderFigures {} = .ok "COUNT(*) AS Count, ROUND(AVG(Amount)) AS Average" ∧
        orderFigures.hasAggregate = true ∧ orderFigures.exposesRow = false := by
    decide +kernel
  obtain ⟨columns, hcolumns, -, -, hiff⟩ :=
    isAggregated_iff_of_build orderFigures {} _ rfl hbuild haggregate
  refine ⟨hbuild, haggregate, hrows, columns, hcolumns, ?_, hiff.mpr hrows⟩
  have hlength := (forall₂_of_projections hcolumns).length_eq
  rw [List.length_map] at hlength
  exact hlength.symm

/-- The number of orders beside a whole order. -/
def countBesideOrder : Expr :=
  let order := Expr.parameter "o" .unknown
  .lambda ["o"] (.object [(some "Count", .staticCall "Count" [order] .int), (some "Row", order)])

/-- A whole row passes beside an aggregate without a grouping. -/
theorem row_beside_aggregate :
    Context.isGrouped {} = false ∧ countBesideOrder.hasAggregate = true ∧
    build countBesideOrder {} = .ok "COUNT(*) AS Count, * AS Row" ∧
    ∃ columns, projections .select countBesideOrder.stripLambda = .ok columns ∧
      ∃ column ∈ columns, ∃ qualifier, Exposed (.star qualifier) column.sql := by
  obtain ⟨hbuild, haggregate, hrows⟩ :
      build countBesideOrder {} = .ok "COUNT(*) AS Count, * AS Row" ∧
        countBesideOrder.hasAggregate = true ∧ countBesideOrder.stripLambda.exposesRow = true := by
    decide +kernel
  obtain ⟨columns, hcolumns, -⟩ := bind_eq_ok_iff.mp hbuild
  exact ⟨rfl, haggregate, hbuild, columns, hcolumns, (exposesRow_of_projections hcolumns).mpr hrows⟩

end SelectClause

end StreamQuery
