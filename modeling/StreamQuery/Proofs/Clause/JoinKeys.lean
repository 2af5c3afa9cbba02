import StreamQuery.Clause.Join
import StreamQuery.Proofs.Clause.GroupKeys
import StreamQuery.Proofs.Lowering.Aliases

/-!
# The keys of a join

The condition of a join compares the keys of its two sides, one pair after the other. Each key is
written without an alias, and the alias of its side is put before the finished text. So the columns
of a key have the alias if the key begins with a column, and in general only then.
-/

namespace StreamQuery

namespace JoinClause

/-- The keys of one side: the members of an anonymous object, or the selector itself. -/
def keyExprs (selector : Expr) : List Expr :=
  match selector.stripWrappers with
  | .object members => members.map (·.2)
  | other => [other]

theorem mem_nodes_of_mem_keyExprs {selector key : Expr} (h : key ∈ keyExprs selector) :
    key ∈ selector.nodes := by
  have hchild : ∀ {e child : Expr}, child ∈ e.children → key ∈ child.nodes → key ∈ e.nodes :=
    fun hchild hmem => Expr.mem_nodes.mpr (Or.inr ⟨_, hchild, hmem⟩)
  have hself : ∀ {e : Expr}, key ∈ [e] → key ∈ e.nodes := by
    intro e hmem
    rw [List.mem_singleton.mp hmem]
    exact Expr.self_mem_nodes e
  induction selector with
  | lambda params body ih => exact hchild List.mem_cons_self (ih h)
  | unary op operand type ih =>
      cases op with
      | convert => exact hchild List.mem_cons_self (ih h)
      | convertChecked => exact hchild List.mem_cons_self (ih h)
      | _ => exact hself h
  | object members ih => exact hchild h (Expr.self_mem_nodes key)
  | _ => exact hself h

/-- Each key gives one column. -/
theorem forall₂_of_keyColumns {rules : LoweringRules} {selector : Expr} {columns : List String}
    (h : keyColumns rules selector = .ok columns) :
    List.Forall₂ (fun key column => ∃ t, key.lowerValue rules = .ok t ∧ t.text = column)
      (keyExprs selector) columns := by
  have hsingle : ∀ {e : Expr}, (do return [(← e.lowerValue rules).text]) = Except.ok columns →
      List.Forall₂ (fun key column => ∃ t, key.lowerValue rules = .ok t ∧ t.text = column)
        [e] columns := by
    intro e hreturn
    obtain ⟨t, ht, hpure⟩ := bind_eq_ok_iff.mp hreturn
    obtain rfl := Except.ok.inj hpure
    exact .cons ⟨t, ht, rfl⟩ .nil
  induction selector with
  | lambda params body ih => exact ih h
  | unary op operand type ih =>
      cases op with
      | convert => exact ih h
      | convertChecked => exact ih h
      | _ => exact hsingle h
  | object members ih =>
      refine List.forall₂_map_left_iff.mpr ((mapM_eq_ok_iff.mp h).imp ?_)
      rintro ⟨name, value⟩ column hcolumn
      obtain ⟨t, ht, hpure⟩ := bind_eq_ok_iff.mp hcolumn
      exact ⟨t, ht, Except.ok.inj hpure⟩
  | _ => exact hsingle h

theorem analyze_eq_ok {outer inner outerKey innerKey result : Expr} {type : DataType}
    {context : Context} {join : Join}
    (h : analyze (.staticCall "Join" [outer, inner, outerKey, innerKey, result] type) context =
      .ok join) :
    keyColumns .join outerKey = .ok join.outerKeys ∧
      keyColumns .join innerKey = .ok join.innerKeys ∧
      join.outerKeys.length = join.innerKeys.length ∧
      join.outerAlias = outerAlias ∧ join.innerAlias = innerAlias := by
  rw [analyze, if_pos rfl, analyzeArgs] at h
  obtain ⟨innerType, -, hafterInner⟩ := bind_eq_ok_iff.mp h
  obtain ⟨outerKeys, houter, hafterOuter⟩ := bind_eq_ok_iff.mp hafterInner
  obtain ⟨innerKeys, hinner, hafterKeys⟩ := bind_eq_ok_iff.mp hafterOuter
  split at hafterKeys
  · cases hafterKeys
  · next hlength =>
      obtain ⟨projection, -, hpure⟩ := bind_eq_ok_iff.mp hafterKeys
      obtain rfl := Except.ok.inj hpure
      exact ⟨houter, hinner, not_not.mp hlength, rfl, rfl⟩

/-- The text of a key in the condition of a join: the alias, and the key as it is written without
one. It is the key with the alias in it if the key begins with a column. A key without objects has
to begin with a column for that. -/
def IsSide (parameter qualifier : String) (key : Expr) (side : String) : Prop :=
  ∃ t t', key.lowerValue .join = .ok t ∧
    key.lowerValue (LoweringRules.join.withAlias parameter qualifier) = .ok t' ∧
    side = qualifier ++ "." ++ t.text ∧ (key.startsWithColumn → side = t'.text) ∧
    (key.any Expr.isObject = false → side = t'.text → key.startsWithColumn)

theorem IsSide.eq_of_lowerValue {parameter qualifier side : String} {key : Expr} {t : Sql}
    (h : IsSide parameter qualifier key side) (ht : key.lowerValue .join = .ok t) :
    side = qualifier ++ "." ++ t.text := by
  obtain ⟨s, -, hs, -, hside, -⟩ := h
  rw [hside, Except.ok.inj (hs.symm.trans ht)]

theorem forall₂_isSide (qualifier : String) (hqualifier : ∀ c ∈ qualifier.toList, c.isLower)
    {parameter : String} {selector : Expr} (hselector : selector.hasOnlyParameter parameter)
    {columns : List String} (h : keyColumns .join selector = .ok columns) :
    List.Forall₂ (fun key column => IsSide parameter qualifier key (qualifier ++ "." ++ column))
      (keyExprs selector) columns := by
  obtain ⟨hlength, hkeys⟩ := List.forall₂_iff_zip.mp (forall₂_of_keyColumns h)
  refine List.forall₂_iff_zip.mpr ⟨hlength, fun {key column} hpair => ?_⟩
  obtain ⟨t, ht, rfl⟩ := hkeys hpair
  have hnode := mem_nodes_of_mem_keyExprs (List.of_mem_zip hpair).1
  have hkey := Expr.hasOnlyParameter_of_mem_nodes hselector hnode
  have hagree := Expr.agree_lower_withAlias LoweringRules.isBare_join hqualifier hkey .value
  rw [← Expr.lowerValue, ht] at hagree
  obtain ⟨t', ht', hstarts, hconverse⟩ := hagree.exists_of_ok
  exact ⟨t, t', ht, ht', rfl, fun h => (hstarts h).symm, fun hobject h => hconverse hobject h.symm⟩

/-- The condition of a join has one conjunct for each pair of keys, and its sides are the texts of
the two keys under the aliases of the two sides of the join. -/
theorem sides_of_analyze (outer inner outerBody innerBody result : Expr)
    (outerParam innerParam : String) (type : DataType) (context : Context) (join : Join)
    (h : analyze (.staticCall "Join" [outer, inner, .lambda [outerParam] outerBody,
      .lambda [innerParam] innerBody, result] type) context = .ok join)
    (houter : outerBody.hasOnlyParameter outerParam)
    (hinner : innerBody.hasOnlyParameter innerParam) :
    ∃ sides : List (String × String),
      join.condition = String.intercalate " AND " (sides.map fun side =>
        side.1 ++ " = " ++ side.2) ∧
      List.Forall₂ (fun key side => IsSide outerParam outerAlias key side.1) (keyExprs outerBody)
        sides ∧
      List.Forall₂ (fun key side => IsSide innerParam innerAlias key side.2) (keyExprs innerBody)
        sides := by
  obtain ⟨houterKeys, hinnerKeys, hlength, houterAlias, hinnerAlias⟩ := analyze_eq_ok h
  have houterSides : List.Forall₂ _ (keyExprs outerBody) join.outerKeys :=
    forall₂_isSide outerAlias (List.forall_mem_singleton.mpr rfl) houter houterKeys
  have hinnerSides : List.Forall₂ _ (keyExprs innerBody) join.innerKeys :=
    forall₂_isSide innerAlias (List.forall_mem_singleton.mpr rfl) hinner hinnerKeys
  refine ⟨(join.outerKeys.zip join.innerKeys).map fun keys =>
    (outerAlias ++ "." ++ keys.1, innerAlias ++ "." ++ keys.2), ?_, ?_, ?_⟩
  · rw [Join.condition, houterAlias, hinnerAlias, List.map_map]
    refine congrArg (String.intercalate " AND ") (List.map_congr_left fun keys _ => ?_)
    simp only [Function.comp_apply, String.append_assoc]
  · rw [← List.map_fst_zip (Nat.le_of_eq hlength), List.forall₂_map_right_iff] at houterSides
    exact List.forall₂_map_right_iff.mpr houterSides
  · rw [← List.map_snd_zip (Nat.le_of_eq hlength.symm), List.forall₂_map_right_iff] at hinnerSides
    exact List.forall₂_map_right_iff.mpr hinnerSides

/-- The number of an order's customer, and the name in capitals. -/
def orderKeys : Expr :=
  let order := Expr.parameter "x" .unknown
  .object [(some "Id", .unary .convert (.member order "CustomerId" .int) .long),
    (some "Name", .call (.member order "Name" .string) "ToUpper" [] .string)]

/-- The number of a customer, and the name of the contact. -/
def customerKeys : Expr :=
  let customer := Expr.parameter "y" .unknown
  .object [(some "Id", .member customer "Id" .long),
    (some "Name", .member (.member customer "Contact" .unknown) "Name" .string)]

def orderNumbers : Expr :=
  .lambda ["x", "y"] (.object [(some "Id", .member (.parameter "x" .unknown) "Id" .int)])

theorem sides_of_analyze_orderKeys_customerKeys :
    ∃ join, analyze (.staticCall "Join" [.source "orders", .source "customers",
        .lambda ["x"] orderKeys, .lambda ["y"] customerKeys, orderNumbers] .unknown)
          { base := "orders" } = .ok join ∧
      join.condition = "o.CustomerId = i.Id AND o.UPPER(Name) = i.Name" ∧
      List.Forall₂ (IsSide "x" outerAlias) (keyExprs orderKeys) ["o.CustomerId", "o.UPPER(Name)"] ∧
      List.Forall₂ (IsSide "y" innerAlias) (keyExprs customerKeys) ["i.Id", "i.Name"] := by
  refine ⟨_, rfl, ?_⟩
  obtain ⟨sides, hcondition, houter, hinner⟩ := sides_of_analyze (.source "orders")
    (.source "customers") orderKeys customerKeys orderNumbers "x" "y" .unknown
    { base := "orders" } _ rfl (by decide) (by decide)
  obtain ⟨first, _, hfirst, hafterFirst, rfl⟩ := List.forall₂_cons_left_iff.mp houter
  obtain ⟨second, _, hsecond, hnil, rfl⟩ := List.forall₂_cons_left_iff.mp hafterFirst
  obtain rfl := List.forall₂_nil_left_iff.mp hnil
  obtain ⟨hfirstInner, hafterInner⟩ := List.forall₂_cons.mp hinner
  obtain ⟨hsecondInner, -⟩ := List.forall₂_cons.mp hafterInner
  have hnumber : first.1 = "o.CustomerId" :=
    (hfirst.eq_of_lowerValue (t := .column "CustomerId") rfl).trans (by decide)
  have hcapitals : second.1 = "o.UPPER(Name)" :=
    (hsecond.eq_of_lowerValue (t := .call "ToUpper" [.column "Name"] true) rfl).trans
      (by decide +kernel)
  have hid : first.2 = "i.Id" :=
    (hfirstInner.eq_of_lowerValue (t := .column "Id") rfl).trans (by decide)
  have hname : second.2 = "i.Name" :=
    (hsecondInner.eq_of_lowerValue (t := .column "Name") rfl).trans (by decide)
  rw [hnumber] at hfirst
  rw [hcapitals] at hsecond
  rw [hid] at hfirstInner
  rw [hname] at hsecondInner
  refine ⟨?_, .cons hfirst (.cons hsecond .nil), .cons hfirstInner (.cons hsecondInner .nil)⟩
  rw [hcondition, List.map_cons, List.map_singleton, hnumber, hcapitals, hid, hname]
  decide

/-- The name of an order in capitals. -/
def capitals : Expr :=
  .call (.member (.parameter "o" .unknown) "Name" .string) "ToUpper" [] .string

/-- The condition has the alias before the function, not before the column. -/
theorem alias_before_function :
    ∃ join t, analyze (.staticCall "Join" [.source "orders", .source "customers",
        .lambda ["o"] capitals, .lambda ["c"] (.member (.parameter "c" .unknown) "Name" .string),
        .lambda ["o", "c"] (.object [(some "Id", .member (.parameter "o" .unknown) "Id" .int)])]
          .unknown) { base := "orders" } = .ok join ∧
      capitals.lowerValue (LoweringRules.join.withAlias "o" outerAlias) = .ok t ∧
      t.text = "UPPER(o.Name)" ∧ join.condition = "o.UPPER(Name) = i.Name" ∧
      join.condition ≠ t.text ++ " = i.Name" :=
  ⟨_, _, rfl, rfl, by decide +kernel⟩

end JoinClause

end StreamQuery
