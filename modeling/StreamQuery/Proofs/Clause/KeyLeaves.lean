import StreamQuery.Proofs.Clause.GroupKeys
import StreamQuery.Proofs.Lowering.Aggregates

/-!
# The leaves of a grouping key

A grouping clause lists the leaves of its key, from left to right. It is refused exactly if the key
calls an aggregating method or one that may not transform a key, has a whole row or a stream as a
leaf, has a leaf with no SQL expression, or has more leaves than a clause may have. What counts is
the number of leaves, not that of the members that hold them.
-/

namespace StreamQuery

theorem forall₂_iff_eq_map {α β : Type} {R : α → β → Prop} {f : α → β} {xs : List α} {ys : List β}
    (h : ∀ x ∈ xs, ∀ y, R x y ↔ y = f x) : List.Forall₂ R xs ys ↔ ys = xs.map f := by
  induction xs generalizing ys with
  | nil => rw [List.forall₂_nil_left_iff, List.map_nil]
  | cons x xs ih =>
      obtain ⟨hx, hxs⟩ := List.forall_mem_cons.mp h
      simp only [List.forall₂_cons_left_iff, hx, ih hxs, List.map_cons]
      constructor
      · rintro ⟨_, _, rfl, rfl, rfl⟩
        rfl
      · exact fun hys => ⟨f x, xs.map f, rfl, rfl, hys⟩

namespace Expr

/-- Whether the leaves of an expression stand below it. -/
def isWrapper : Expr → Bool
  | .lambda .. => true
  | .unary op _ _ => op = .convert ∨ op = .convertChecked
  | .object _ => true
  | _ => false

/-- The leaves of an expression from left to right, under lambdas, conversions and the members of
anonymous objects. -/
inductive HasLeaves : Expr → List Expr → Prop where
  | lambda {params : List String} {body : Expr} {leaves : List Expr}
      (hbody : HasLeaves body leaves) : HasLeaves (.lambda params body) leaves
  | conversion {op : UnaryOp} {operand : Expr} {type : DataType} {leaves : List Expr}
      (hop : op = .convert ∨ op = .convertChecked) (hoperand : HasLeaves operand leaves) :
      HasLeaves (.unary op operand type) leaves
  | object {members : List (Option String × Expr)} {lists : List (List Expr)}
      (hmembers : List.Forall₂ (fun member leaves => HasLeaves member.2 leaves) members lists) :
      HasLeaves (.object members) lists.flatten
  | leaf {e : Expr} (hleaf : e.isWrapper = false) : HasLeaves e [e]

section HasLeaves

variable {list : List Expr}

theorem hasLeaves_lambda {params : List String} {body : Expr} :
    HasLeaves (.lambda params body) list ↔ body.HasLeaves list := by
  constructor
  · intro h
    cases h with
    | lambda hbody => exact hbody
    | leaf hleaf => cases hleaf
  · exact .lambda

theorem hasLeaves_conversion {op : UnaryOp} {operand : Expr} {type : DataType}
    (hop : op = .convert ∨ op = .convertChecked) :
    HasLeaves (.unary op operand type) list ↔ operand.HasLeaves list := by
  constructor
  · intro h
    cases h with
    | conversion _ hoperand => exact hoperand
    | leaf hleaf => exact absurd hop (of_decide_eq_false hleaf)
  · exact .conversion hop

theorem hasLeaves_object {members : List (Option String × Expr)} :
    HasLeaves (.object members) list ↔ ∃ lists, list = List.flatten lists ∧
      List.Forall₂ (fun member leaves => HasLeaves member.2 leaves) members lists := by
  constructor
  · intro h
    cases h with
    | object hmembers => exact ⟨_, rfl, hmembers⟩
    | leaf hleaf => cases hleaf
  · rintro ⟨lists, rfl, hmembers⟩
    exact .object hmembers

theorem hasLeaves_of_not_isWrapper {e : Expr} (h : e.isWrapper = false) :
    e.HasLeaves list ↔ list = [e] := by
  constructor
  · intro hlist
    cases hlist with
    | leaf _ => rfl
    | conversion hop _ => exact absurd hop (of_decide_eq_false h)
    | _ => cases h
  · rintro rfl
    exact .leaf h

end HasLeaves

theorem argMethodNames_eq_flatMap (args : List Expr) :
    argMethodNames args = args.flatMap methodNames := by
  induction args with
  | nil => rfl
  | cons arg rest ih => rw [argMethodNames, ih, List.flatMap_cons]

theorem memberMethodNames_eq_flatMap (members : List (Option String × Expr)) :
    memberMethodNames members = members.flatMap fun member => member.2.methodNames := by
  induction members with
  | nil => rfl
  | cons member rest ih => rw [memberMethodNames, ih, List.flatMap_cons]

theorem methodNames_eq (e : Expr) :
    e.methodNames = e.methodName?.toList ++ e.children.flatMap methodNames := by
  cases e with
  | object members =>
      simp [methodNames, methodName?, children, memberMethodNames_eq_flatMap, List.flatMap_map]
  | _ => simp [methodNames, methodName?, children, argMethodNames_eq_flatMap]

/-- The methods that are called are those of the nodes. -/
theorem mem_methodNames {name : String} {e : Expr} :
    name ∈ e.methodNames ↔ ∃ node ∈ e.nodes, name ∈ node.methodName? := by
  induction e using children_induction with
  | step e ih =>
      rw [methodNames_eq, List.mem_append, Option.mem_toList, List.mem_flatMap]
      constructor
      · rintro (hself | ⟨child, hchild, hname⟩)
        · exact ⟨e, self_mem_nodes e, hself⟩
        · obtain ⟨node, hnode, hcalled⟩ := (ih child hchild).mp hname
          exact ⟨node, mem_nodes.mpr (Or.inr ⟨child, hchild, hnode⟩), hcalled⟩
      · rintro ⟨node, hnode, hcalled⟩
        rcases mem_nodes.mp hnode with rfl | ⟨child, hchild, hnode⟩
        · exact Or.inl hcalled
        · exact Or.inr ⟨child, hchild, (ih child hchild).mpr ⟨node, hnode, hcalled⟩⟩

end Expr

namespace GroupByClause

open StreamQuery.Expr

theorem memberLeaves_eq_flatMap (members : List (Option String × Expr)) :
    memberLeaves members =
      members.flatMap fun member => leaves (memberName? member.1 member.2) member.2 := by
  induction members with
  | nil => rfl
  | cons member rest ih => rw [memberLeaves, ih, List.flatMap_cons]

/-- The leaves that the clause is made of are the leaves of the key. -/
theorem hasLeaves_iff {e : Expr} {list : List Expr} (name : Option String) :
    e.HasLeaves list ↔ list = (leaves name e).map (·.2) := by
  induction e generalizing name list with
  | lambda params body ih => rw [hasLeaves_lambda, ih name, leaves]
  | unary op operand type ih =>
      cases op with
      | convert => rw [hasLeaves_conversion (Or.inl rfl), ih name, leaves]
      | convertChecked => rw [hasLeaves_conversion (Or.inr rfl), ih name, leaves]
      | _ => exact hasLeaves_of_not_isWrapper rfl
  | object members ih =>
      have hlists : ∀ lists, List.Forall₂ (fun member list => HasLeaves member.2 list) members
          lists ↔ lists = members.map fun member =>
            (leaves (memberName? member.1 member.2) member.2).map (·.2) :=
        fun lists => forall₂_iff_eq_map fun member hmember list => ih member hmember _
      simp only [hasLeaves_object, hlists, exists_eq_right]
      rw [leaves, memberLeaves_eq_flatMap, List.map_flatMap, List.flatMap_def]
  | _ => exact hasLeaves_of_not_isWrapper rfl

theorem checkMethod_eq_ok_iff {name : String} :
    checkMethod name = .ok () ↔ name ∈ allowedMethods := by
  have hallowed : ∀ name ∈ allowedMethods, name ∉ sequenceMethods := by decide
  unfold checkMethod
  constructor
  · intro h
    split at h
    · cases h
    split at h
    · assumption
    · cases h
  · intro h
    rw [if_neg (hallowed name h), if_pos h]

/-- A leaf has a column exactly if it is neither a row nor a stream and has an SQL expression. -/
theorem exists_keyColumn_iff {rules : LoweringRules} {leaf : Expr} :
    (∃ column, keyColumn rules leaf = .ok column) ↔
      (leaf.kind ≠ .parameter ∧ leaf.kind ≠ .source) ∧ ∃ t, leaf.lowerValue rules = .ok t := by
  constructor
  · rintro ⟨column, h⟩
    obtain ⟨t, ht, -⟩ := keyColumn_eq_ok h
    refine ⟨⟨?_, ?_⟩, t, ht⟩ <;> intro hkind
    · cases leaf with
      | parameter name type => cases h
      | _ => cases hkind
    · cases leaf with
      | source name => cases h
      | _ => cases hkind
  · rintro ⟨⟨hparameter, hsource⟩, t, ht⟩
    refine ⟨t.text, ?_⟩
    unfold keyColumn
    split
    · exact absurd rfl hparameter
    · exact absurd rfl hsource
    · exact bind_eq_ok_iff.mpr ⟨t, ht, rfl⟩

theorem exists_keys_iff {selector : Expr} {context : Context} :
    (∃ list, keys selector context = .ok list) ↔
      selector.hasAggregate = false ∧ (∀ name ∈ selector.methodNames, checkMethod name = .ok ()) ∧
      (∀ leaf ∈ leaves none selector, ∃ column,
        keyColumn (LoweringRules.groupBy.withContext context) leaf.2 = .ok column) ∧
      (leaves none selector).length ≤ maxKeys := by
  have hcolumns : (∃ list, List.Forall₂ (fun leaf (key : Key) => leaf.1 = key.name ∧
      keyColumn (LoweringRules.groupBy.withContext context) leaf.2 = .ok key.column)
        (leaves none selector) list) ↔
      ∀ leaf ∈ leaves none selector, ∃ column,
        keyColumn (LoweringRules.groupBy.withContext context) leaf.2 = .ok column := by
    rw [exists_forall₂_iff]
    refine forall₂_congr fun leaf _ => ⟨?_, ?_⟩
    · rintro ⟨key, -, hcolumn⟩
      exact ⟨key.column, hcolumn⟩
    · rintro ⟨column, hcolumn⟩
      exact ⟨⟨leaf.1, column⟩, rfl, hcolumn⟩
  simp only [keys_eq_ok_iff, ← hcolumns]
  constructor
  · rintro ⟨list, haggregate, hmethods, hleaves, hlength⟩
    exact ⟨haggregate, hmethods, ⟨list, hleaves⟩, hleaves.length_eq ▸ hlength⟩
  · rintro ⟨haggregate, hmethods, ⟨list, hleaves⟩, hlength⟩
    exact ⟨list, haggregate, hmethods, hleaves, hleaves.length_eq ▸ hlength⟩

theorem exists_build_iff {selector : Expr} {context : Context} :
    (∃ text, build selector context = .ok text) ↔ ∃ list, keys selector context = .ok list := by
  constructor
  · rintro ⟨text, h⟩
    obtain ⟨list, hlist, -⟩ := bind_eq_ok_iff.mp h
    exact ⟨list, hlist⟩
  · rintro ⟨list, hlist⟩
    exact ⟨_, bind_eq_ok_iff.mpr ⟨list, hlist, rfl⟩⟩

theorem exists_groupKeys_iff {selector : Expr} {context : Context} :
    (∃ found, groupKeys selector context = .ok found) ↔
      ∃ list, keys selector context = .ok list := by
  constructor
  · rintro ⟨found, h⟩
    obtain ⟨list, hlist, -⟩ := bind_eq_ok_iff.mp h
    exact ⟨list, hlist⟩
  · rintro ⟨list, hlist⟩
    exact ⟨_, groupKeys_of_keys hlist⟩

/-- The grouping clause lists the leaves of its key. A key has one list of leaves. The clause is
built exactly if the key calls no aggregating method and none that may not transform a key, none of
its leaves is a row or a stream, each leaf has an SQL expression and there are at most ten of them.
Its text is that of the leaves, in their order. Later clauses can refer to the key exactly if the
clause is built. -/
theorem build_by_leaves (selector : Expr) (context : Context) :
    ∃ leaves, (∀ list, selector.HasLeaves list ↔ list = leaves) ∧
      ((∃ text, build selector context = .ok text) ↔
        (∀ node ∈ selector.nodes, ∀ name ∈ node.methodName?,
          SqlFunction.isAggregate name = false) ∧
        (∀ node ∈ selector.nodes, ∀ name ∈ node.methodName?, name ∈ allowedMethods) ∧
        (∀ leaf ∈ leaves, leaf.kind ≠ .parameter ∧ leaf.kind ≠ .source) ∧
        (∀ leaf ∈ leaves, ∃ t,
          leaf.lowerValue (LoweringRules.groupBy.withContext context) = .ok t) ∧
        leaves.length ≤ 10) ∧
      (∀ text, build selector context = .ok text → ∃ columns,
        List.Forall₂ (IsColumn context) leaves columns ∧
        text = String.intercalate ", " columns) ∧
      ((∃ keys, groupKeys selector context = .ok keys) ↔
        ∃ text, build selector context = .ok text) := by
  have haggregate : selector.hasAggregate = false ↔ ∀ node ∈ selector.nodes,
      ∀ name ∈ node.methodName?, SqlFunction.isAggregate name = false := by
    rw [← Bool.not_eq_true, hasAggregate_eq_true_iff]
    simp only [not_exists, not_and, Bool.not_eq_true]
  have hmethods : (∀ name ∈ selector.methodNames, checkMethod name = .ok ()) ↔
      ∀ node ∈ selector.nodes, ∀ name ∈ node.methodName?, name ∈ allowedMethods := by
    simp only [checkMethod_eq_ok_iff, mem_methodNames]
    constructor
    · exact fun h node hnode name hname => h name ⟨node, hnode, hname⟩
    · rintro h name ⟨node, hnode, hname⟩
      exact h node hnode name hname
  refine ⟨(leaves none selector).map (·.2), fun list => hasLeaves_iff none, ?_, ?_, ?_⟩
  · rw [exists_build_iff, exists_keys_iff, haggregate, hmethods]
    simp only [exists_keyColumn_iff, List.forall_mem_map, List.length_map, maxKeys, forall_and,
      and_assoc]
  · intro text h
    obtain ⟨list, hlist, hpure⟩ := bind_eq_ok_iff.mp h
    refine ⟨list.map (·.column), ?_, (Except.ok.inj hpure).symm⟩
    rw [List.forall₂_map_left_iff, List.forall₂_map_right_iff]
    exact (forall₂_of_keys hlist).imp fun _ _ hkey => hkey.2
  · exact exists_groupKeys_iff.trans exists_build_iff.symm

-- Two members with eleven leaves are too many, and eleven members with no leaf are none.
example :
    let order := Expr.parameter "o" .unknown
    let columns (names : List String) := Expr.object (names.map (none, .member order · .int))
    build (.lambda ["o"] (.object [(some "First", columns ["A", "B", "C", "D", "E", "F"]),
      (some "Second", .unary .convert (columns ["G", "H", "I", "J", "K"]) .unknown)])) {} =
        .error (.violation (.tooManyGroupKeys 11)) ∧
    build (.lambda ["o"] (.object (List.replicate 11 (none, columns [])))) {} = .ok "" :=
  ⟨rfl, rfl⟩

end GroupByClause

end StreamQuery
