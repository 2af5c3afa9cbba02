import StreamQuery.Proofs.Lowering.Inversion

/-!
# References to columns through lowering

An expression refers to columns by its parameters and by members without a target. A member path
belongs to the parameter at its end and becomes one column, and a parameter by itself becomes a
star. So lowering neither loses nor doubles a reference, unless an aggregating call leaves out the
group that it is made on.
-/

namespace StreamQuery

namespace Expr

def isParameter : Expr → Bool
  | .parameter .. => true
  | _ => false

def isBareMember : Expr → Bool
  | .bareMember .. => true
  | _ => false

def isReference (e : Expr) : Bool :=
  e.isParameter || e.isBareMember

/-- The number of references in all trees of a list. -/
def countReferences (es : List Expr) : Nat :=
  (es.flatMap nodes).countP isReference

theorem argNodes_eq_flatMap (args : List Expr) : argNodes args = args.flatMap nodes := by
  induction args with
  | nil => rfl
  | cons arg rest ih => rw [argNodes, ih, List.flatMap_cons]

theorem memberNodes_eq_flatMap (members : List (Option String × Expr)) :
    memberNodes members = (members.map (·.2)).flatMap nodes := by
  induction members with
  | nil => rfl
  | cons entry rest ih => rw [memberNodes, ih, List.map_cons, List.flatMap_cons]

theorem nodes_eq_cons (e : Expr) : e.nodes = e :: e.children.flatMap nodes := by
  cases e with
  | object members => rw [nodes, memberNodes_eq_flatMap, children]
  | _ => simp [nodes, children, argNodes_eq_flatMap]

@[simp]
theorem countReferences_nil : countReferences [] = 0 := rfl

@[simp]
theorem countReferences_cons (e : Expr) (es : List Expr) :
    countReferences (e :: es) =
      (if e.isReference then 1 else 0) + countReferences e.children + countReferences es := by
  unfold countReferences
  rw [List.flatMap_cons, nodes_eq_cons, List.countP_append, List.countP_cons]
  omega

/-- No node is a parameter and a member at once. -/
theorem countP_isReference (nodes : List Expr) :
    nodes.countP isReference = nodes.countP isParameter + nodes.countP isBareMember := by
  induction nodes with
  | nil => rfl
  | cons node rest ih =>
      rw [List.countP_cons, List.countP_cons, List.countP_cons, ih]
      cases node <;> simp [isReference, isParameter, isBareMember] <;> omega

end Expr

namespace Sql

/-- Columns and stars. -/
def isReference : Sql → Bool
  | .star _ => true
  | .column _ => true
  | _ => false

/-- The number of references in all trees of a list. -/
def countReferences (ts : List Sql) : Nat :=
  (ts.flatMap nodes).countP isReference

theorem argNodes_eq_flatMap (args : List Sql) : argNodes args = args.flatMap nodes := by
  induction args with
  | nil => rfl
  | cons arg rest ih => rw [argNodes, ih, List.flatMap_cons]

theorem pairNodes_eq_flatMap (pairs : List (Sql × Sql)) :
    pairNodes pairs = (Sql.keyEquality pairs).children.flatMap nodes := by
  rw [children_keyEquality]
  induction pairs with
  | nil => rfl
  | cons pair rest ih =>
      obtain ⟨left, right⟩ := pair
      rw [pairNodes, ih, List.flatMap_cons, List.flatMap_append, List.flatMap_cons,
        List.flatMap_singleton, List.append_assoc]

theorem nodes_eq_cons (t : Sql) : t.nodes = t :: t.children.flatMap nodes := by
  cases t with
  | keyEquality pairs => rw [nodes, pairNodes_eq_flatMap]
  | _ => simp [nodes, children, argNodes_eq_flatMap]

@[simp]
theorem countReferences_nil : countReferences [] = 0 := rfl

@[simp]
theorem countReferences_cons (t : Sql) (ts : List Sql) :
    countReferences (t :: ts) =
      (if t.isReference then 1 else 0) + countReferences t.children + countReferences ts := by
  unfold countReferences
  rw [List.flatMap_cons, nodes_eq_cons, List.countP_append, List.countP_cons]
  omega

/-- The pairs of a key equality hold what the two lists hold. -/
theorem countReferences_zip {ts ts' : List Sql} (hlength : ts.length = ts'.length) :
    countReferences (Sql.keyEquality (ts.zip ts')).children =
      countReferences ts + countReferences ts' := by
  rw [children_keyEquality]
  induction ts generalizing ts' with
  | nil =>
      rw [List.length_eq_zero_iff.mp hlength.symm]
      rfl
  | cons t ts ih =>
      cases ts' with
      | nil => cases hlength
      | cons t' ts' =>
          have hrest := ih (Nat.succ.inj hlength)
          rw [List.zip_cons_cons, List.flatMap_cons, List.cons_append, List.cons_append,
            List.nil_append]
          simp only [countReferences_cons, hrest]
          omega

theorem countReferences_keyTest {ts ts' : List Sql} (hlength : ts.length = ts'.length)
    (op : BinaryOp) :
    countReferences [Sql.keyTest op (ts.zip ts')] = countReferences ts + countReferences ts' := by
  have hequality : countReferences [.keyEquality (ts.zip ts')] =
      countReferences ts + countReferences ts' := by
    rw [countReferences_cons, countReferences_zip hlength]
    simp [isReference]
  unfold keyTest
  split
  · rw [countReferences_cons, show (Sql.not (.keyEquality (ts.zip ts'))).children =
      [.keyEquality (ts.zip ts')] from rfl, hequality]
    simp [isReference]
  · exact hequality

end Sql

namespace LoweringRules

variable {rules : LoweringRules}

/-- A member path has one reference, the parameter at its end. -/
theorem countReferences_of_columnOfPath {leaf : String} {path : List String} {e : Expr} {t : Sql}
    (h : rules.columnOfPath leaf path e = .ok t) : Expr.countReferences [e] = 1 := by
  induction e generalizing path with
  | parameter name type => rfl
  | member target name type ih => exact ih h
  | unary op operand type ih =>
      cases op with
      | convert => exact ih h
      | convertChecked => exact ih h
      | typeAs => exact ih h
      | _ => cases h
  | _ => cases h

theorem countReferences_of_memberColumn {target : Expr} {name : String} {t : Sql}
    (h : rules.memberColumn target name = .ok t) : Expr.countReferences [target] = 1 := by
  unfold memberColumn at h
  split at h
  · next hkey =>
      -- A column of the key belongs to a parameter or to a member of one.
      unfold groupKeyColumn? at hkey
      split at hkey
      · cases hkey
      · split at hkey
        · rfl
        · rfl
        · cases hkey
  · exact countReferences_of_columnOfPath h

end LoweringRules

namespace Expr

variable {rules : LoweringRules} {position : Position} {e : Expr} {t : Sql}

theorem hasAggregate_of_isPart {part : Expr} (hplain : e.hasAggregate = false)
    (hpart : part.IsPart e) : part.hasAggregate = false := by
  rw [← Bool.not_eq_true] at hplain ⊢
  intro haggregate
  obtain ⟨node, hnode, hname⟩ := hasAggregate_eq_true_iff.mp haggregate
  apply hplain
  exact hasAggregate_eq_true_iff.mpr ⟨node, mem_nodes_of_isPart hpart hnode, hname⟩

theorem countReferences_of_isNullConstant (h : e.isNullConstant = true) :
    countReferences [e] = 0 := by
  cases e with
  | constant value => rfl
  | _ => cases h

/-- The expression and its tree have equally many references. -/
def KeepsReferences (e : Expr) (t : Sql) : Prop :=
  Sql.countReferences [t] = countReferences [e]

theorem countReferences_of_forall₂ {es : List Expr} {ts : List Sql}
    (h : List.Forall₂ KeepsReferences es ts) : Sql.countReferences ts = countReferences es := by
  induction h with
  | nil => rfl
  | cons hhead _ ih =>
      unfold KeepsReferences at hhead
      simp only [countReferences_cons, Sql.countReferences_cons, countReferences_nil,
        Sql.countReferences_nil] at hhead ⊢
      omega

namespace KeepsReferences

/-- Nodes that are no references themselves refer to what their children refer to. -/
theorem of_children (he : e.isReference = false) (ht : t.isReference = false)
    (h : Sql.countReferences t.children = countReferences e.children) : KeepsReferences e t := by
  unfold KeepsReferences
  rw [Sql.countReferences_cons, countReferences_cons, he, ht, h]
  rfl

theorem compared (h : KeepsReferences e t) (op : SqlOp) (text : String) :
    KeepsReferences e (.binary op t (.literal text)) := by
  have hliteral : Sql.countReferences [t, .literal text] = Sql.countReferences [t] := by
    simp [Sql.isReference, Sql.children]
  unfold KeepsReferences at h ⊢
  rw [← h, ← hliteral, Sql.countReferences_cons]
  simp [Sql.isReference, Sql.children]

theorem member {target : Expr} {name column : String} (type : DataType)
    (h : rules.memberColumn target name = .ok (.column column)) :
    KeepsReferences (.member target name type) (.column column) := by
  have htarget : countReferences (Expr.member target name type).children = 1 :=
    LoweringRules.countReferences_of_memberColumn h
  unfold KeepsReferences
  rw [countReferences_cons, htarget]
  rfl

theorem nullTest {left right operand : Expr} (op : BinaryOp) (negated : Bool)
    (hnull : right.isNullConstant ∧ operand = left ∨ left.isNullConstant ∧ operand = right)
    (h : KeepsReferences operand t) :
    KeepsReferences (.binary op left right) (.isNull t negated) := by
  apply of_children rfl rfl
  have hoperand : Sql.countReferences [t] = countReferences [operand] := h
  change Sql.countReferences [t] = countReferences [left, right]
  rw [hoperand]
  rcases hnull with ⟨hright, rfl⟩ | ⟨hleft, rfl⟩
  · have hnone := countReferences_of_isNullConstant hright
    simp only [countReferences_cons, countReferences_nil] at hnone ⊢
    omega
  · have hnone := countReferences_of_isNullConstant hleft
    simp only [countReferences_cons, countReferences_nil] at hnone ⊢
    omega

theorem keys {members members' : List (Option String × Expr)} {ts ts' : List Sql} (op : BinaryOp)
    (hlength : members.length = members'.length)
    (h : List.Forall₂ KeepsReferences (members.map (·.2)) ts)
    (h' : List.Forall₂ KeepsReferences (members'.map (·.2)) ts') :
    KeepsReferences (.binary op (.object members) (.object members')) (.keyTest op (ts.zip ts')) := by
  have hzip : ts.length = ts'.length := by
    have hts := h.length_eq
    have hts' := h'.length_eq
    rw [List.length_map] at hts hts'
    omega
  unfold KeepsReferences
  rw [Sql.countReferences_keyTest hzip, countReferences_of_forall₂ h, countReferences_of_forall₂ h']
  simp [children, isReference, isParameter, isBareMember]

/-- A node that is made for an expression refers to what its parts refer to. For a call this says
nothing, because the rule does not tell which operands are left out. -/
theorem of_builtBy (h : BuiltBy rules (fun _ => KeepsReferences) position e t)
    (hcall : e.methodName? = none) : KeepsReferences e t := by
  cases h with
  | parameter name type => rfl
  | bareMember name type => rfl
  | constant h => rfl
  | call hname hoperands h onInstance =>
      rw [hcall] at hname
      cases hname
  | member type hderived h => exact .member type h
  | nullTest hop hnull h => exact .nullTest _ _ hnull h
  | keys hop hlength h h' => exact .keys _ hlength h h'
  | isTrue hidioms hbool h => exact h.compared _ _
  | @isFalse operand s type hidioms hbool h =>
      have hoperand : KeepsReferences operand (.binary .equal s (.literal "false")) :=
        h.compared _ _
      unfold KeepsReferences at hoperand ⊢
      rw [hoperand, countReferences_cons (.unary .not operand type)]
      simp [children, isReference, isParameter, isBareMember]
  | conditional htest htrue hfalse =>
      exact .of_children rfl rfl
        (countReferences_of_forall₂ (.cons htest (.cons htrue (.cons hfalse .nil))))
  | coalesce hleft hright =>
      exact .of_children rfl rfl (countReferences_of_forall₂ (.cons hleft (.cons hright .nil)))
  | logical hop hleft hright =>
      exact .of_children rfl rfl (countReferences_of_forall₂ (.cons hleft (.cons hright .nil)))
  | operator hop hnull hleft hright =>
      exact .of_children rfl rfl (countReferences_of_forall₂ (.cons hleft (.cons hright .nil)))
  | hasValue type h => exact .of_children rfl rfl (countReferences_of_forall₂ (.cons h .nil))
  | property type hname h => exact .of_children rfl rfl (countReferences_of_forall₂ (.cons h .nil))
  | arrayLength type h => exact .of_children rfl rfl (countReferences_of_forall₂ (.cons h .nil))
  | not type h => exact .of_children rfl rfl (countReferences_of_forall₂ (.cons h .nil))
  | negate type h => exact .of_children rfl rfl (countReferences_of_forall₂ (.cons h .nil))

/-- Values of nullables, conversions and lambdas leave no trace. -/
theorem of_loweredBy (h : LoweredBy rules (fun _ => KeepsReferences) position e t)
    (hcall : e.methodName? = none) : KeepsReferences e t := by
  have houter : ∀ {outer inner : Expr}, outer.children = [inner] → outer.isReference = false →
      KeepsReferences inner t → KeepsReferences outer t := by
    intro outer inner hchildren houter hinner
    unfold KeepsReferences at hinner ⊢
    rw [hinner, countReferences_cons outer, hchildren, houter]
    simp
  cases h with
  | built h => exact of_builtBy h hcall
  | value type hnullable h => exact houter rfl rfl h
  | conversion type hop h => exact houter rfl rfl h
  | lambda params h => exact houter rfl rfl h

/-- A call that does not aggregate refers to what its operands refer to. -/
theorem of_call {name : String} (h : LowersTo rules position e t)
    (hname : e.methodName? = some name) (hplain : e.hasAggregate = false)
    (hparts : ∀ part ∈ e.children, ∀ s, LowersTo rules .value part s → KeepsReferences part s) :
    KeepsReferences e t := by
  have hmethod : SqlFunction.isAggregate name = false := by
    rw [hasAggregate_eq, hname, Bool.or_eq_false_iff] at hplain
    exact hplain.1
  obtain ⟨ts, onInstance, rfl, hoperands⟩ := h.operands hname hmethod
  have hkept : List.Forall₂ KeepsReferences e.children ts :=
    @forall₂_value_imp (LowersTo rules) (fun _ => KeepsReferences) _ _ hoperands hparts
  have hnode : e.isReference = false := by
    cases e with
    | call target name args type => rfl
    | staticCall name args type => rfl
    | _ => cases hname
  exact of_children hnode rfl (countReferences_of_forall₂ hkept)

end KeepsReferences

theorem LowersTo.keepsReferences (h : LowersTo rules position e t)
    (hplain : e.hasAggregate = false) : KeepsReferences e t := by
  refine LowersTo.part_induction
    (motive := fun _ e t => e.hasAggregate = false → KeepsReferences e t) ?_ h hplain
  clear h hplain
  intro position e t h ih hrule hplain
  have hpart : ∀ part : Expr, part.IsPart e → part.hasAggregate = false :=
    fun part => hasAggregate_of_isPart hplain
  cases hcall : e.methodName? with
  | some name =>
      apply KeepsReferences.of_call h hcall hplain
      intro part hmem s hs
      exact ih .value part s (Or.inl hmem) hs (hpart part (Or.inl hmem))
  | none =>
      have hkept : LoweredBy rules (fun _ => KeepsReferences) position e t :=
        hrule.imp (fun _ part s hmem hs => hs.2 (hpart part hmem)) fun _ s hs => hs.2 hplain
      exact .of_loweredBy hkept hcall

/-- An expression without aggregating calls has as many parameters and members without a target as
the tree that it is lowered to has columns and stars. -/
theorem countP_isReference_of_lowered (rules : LoweringRules) (e : Expr)
    (hplain : e.hasAggregate = false) (t : Sql)
    (h : e.lowerCondition rules = .ok t ∨ e.lowerValue rules = .ok t) :
    t.nodes.countP Sql.isReference = e.nodes.countP isParameter + e.nodes.countP isBareMember := by
  have hlowers : ∃ position, LowersTo rules position e t := by
    rcases h with h | h
    · exact ⟨.condition, h⟩
    · exact ⟨.value, h⟩
  obtain ⟨position, hlowers⟩ := hlowers
  have hkept := hlowers.keepsReferences hplain
  rw [← countP_isReference]
  unfold KeepsReferences Sql.countReferences countReferences at hkept
  rwa [List.flatMap_singleton, List.flatMap_singleton] at hkept

/-- Conditions on the groups of orders by region and city. -/
def cityRules : LoweringRules :=
  { LoweringRules.filter with
    aliases := [("o", "orders")]
    groupKeys := some { members := [("City", "Town")] } }

/-- Two keys that agree, a text of the whole row that is known, and an order that is paid. -/
def agreesAndIsKnown : Expr :=
  let o : Expr := .parameter "o" .unknown
  .lambda ["o"] (.binary .andAlso
    (.binary .equal
      (.object [(none, .member (.member o "Key" .unknown) "City" .string),
        (none, .unary .convert (.member (.member o "Size" .unknown) "Width" .int) .int)])
      (.object [(none, .bareMember "Place" .string),
        (none, .member (.member o "Title" .string) "Length" .int)]))
    (.binary .andAlso
      (.binary .notEqual (.constant .null) (.staticCall "Concat" [o, .bareMember "At" .int] .string))
      (.member (.member o "Paid" (.nullable .bool)) "Value" .bool)))

theorem countP_isReference_of_lowered_agreesAndIsKnown :
    agreesAndIsKnown.hasAggregate = false ∧
    ∃ t, agreesAndIsKnown.lowerCondition cityRules = .ok t ∧
      t.text = "((Town = Place AND orders.Width = LEN(orders.Title)) AND " ++
        "(CONCAT(orders.*, At) IS NOT NULL AND (orders.Paid = true)))" ∧
      t.nodes.countP Sql.isReference = 5 + 2 := by
  have hplain : agreesAndIsKnown.hasAggregate = false := by decide +kernel
  obtain ⟨t, ht, htext⟩ : ∃ t, agreesAndIsKnown.lowerCondition cityRules = .ok t ∧
      t.text = "((Town = Place AND orders.Width = LEN(orders.Title)) AND " ++
        "(CONCAT(orders.*, At) IS NOT NULL AND (orders.Paid = true)))" :=
    ⟨_, rfl, by decide +kernel⟩
  refine ⟨hplain, t, ht, htext, ?_⟩
  exact countP_isReference_of_lowered cityRules agreesAndIsKnown hplain t (Or.inl ht)

end Expr

end StreamQuery
