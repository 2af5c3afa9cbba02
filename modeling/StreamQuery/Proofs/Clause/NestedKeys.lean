import StreamQuery.Proofs.Clause.GroupKeys

/-!
# References into nested keys

A composite key can hold further anonymous objects. The grouping clause has a column for each leaf,
however deep it stands, and records it under the name of the member that holds the leaf. Only one
member below `Key` is looked up there: a longer path is named like any other path of members, so it
is no column of the clause, and a leaf is found by its last name alone, the last leaf of that name
before the others.
-/

namespace StreamQuery

namespace Dictionary

/-- The last entry under a key is the one that is found. -/
theorem get?_ofList_of_last {α : Type} {key : String} (value : α) (before : List (String × α))
    {after : List (String × α)} (hafter : key ∉ keys after) :
    get? key (ofList (before ++ (key, value) :: after)) = some value := by
  induction after using List.reverseRecOn with
  | nil => rw [ofList_concat, get?_insert, if_pos rfl]
  | append_singleton after last ih =>
      rw [keys, List.map_append, List.mem_append, not_or] at hafter
      have hne : key ≠ last.1 := fun heq => hafter.2 (by simp [heq])
      rw [← List.cons_append, ← List.append_assoc, ofList_concat, get?_insert, if_neg hne]
      exact ih hafter.1

end Dictionary

namespace Expr

/-- The named members `path` lead through nested anonymous objects to a leaf. -/
inductive Reaches : Expr → List String → Expr → Prop where
  | leaf {e : Expr} (hleaf : e.stripWrappers.isObject = false) : Reaches e [] e
  | member {e value leaf : Expr} {members : List (Option String × Expr)} {name : String}
      {path : List String} (hobject : e.stripWrappers = .object members)
      (hmember : (some name, value) ∈ members) (hpath : Reaches value path leaf) :
      Reaches e (name :: path) leaf

/-- One member after the other, of no known type. -/
def access (target : Expr) (path : List String) : Expr :=
  path.foldl (fun target name => .member target name .unknown) target

theorem access_concat (target : Expr) (path : List String) (name : String) :
    target.access (path ++ [name]) = .member (target.access path) name .unknown := by
  rw [access, List.foldl_append]
  rfl

end Expr

namespace LoweringRules

theorem columnOfPath_access (rules : LoweringRules) (leaf : String) (target : Expr)
    (names path : List String) :
    rules.columnOfPath leaf path (target.access names) =
      rules.columnOfPath leaf (names ++ path) target := by
  induction names using List.reverseRecOn generalizing path with
  | nil => rfl
  | append_singleton names name ih =>
      rw [Expr.access_concat, columnOfPath, ih, List.append_assoc]
      rfl

/-- The columns of a key are looked up for one member below `Key`, not for more. -/
theorem groupKeyColumn?_access (rules : LoweringRules) (group : String) (type : DataType)
    {path : List String} (hpath : path ≠ []) (name : String) :
    rules.groupKeyColumn? ((Expr.keyOf group type).access path) name = none := by
  obtain ⟨inner, last, rfl⟩ := (List.eq_nil_or_concat' path).resolve_left hpath
  -- The target of the last member is the access before it, which is a member itself.
  have htarget : ∃ target key, (Expr.keyOf group type).access inner =
      .member target key .unknown := by
    rcases List.eq_nil_or_concat' inner with rfl | ⟨outer, key, rfl⟩
    · exact ⟨_, _, rfl⟩
    · exact ⟨_, _, Expr.access_concat _ outer key⟩
  obtain ⟨target, key, htarget⟩ := htarget
  rw [Expr.access_concat, htarget, groupKeyColumn?]
  cases rules.groupKeys <;> rfl

/-- A path of at least two members below `Key` is named by all its members. -/
theorem lowerValue_access (rules : LoweringRules) (hnaming : rules.naming = .path)
    (group : String) (type : DataType) {path : List String} (hpath : path ≠ []) {name : String}
    (hname : name ≠ "HasValue") :
    ((Expr.keyOf group type).access (path ++ [name])).lowerValue rules =
      .ok (.column (rules.qualify group (String.intercalate "." ("Key" :: (path ++ [name]))))) := by
  have htype : ((Expr.keyOf group type).access path).dataType = .unknown := by
    rcases List.eq_nil_or_concat' path with rfl | ⟨inner, last, rfl⟩
    · rfl
    · rw [Expr.access_concat]
      rfl
  have htemporal : DataType.unknown.isTemporal = false := rfl
  have hmember : rules.lowerMember ((Expr.keyOf group type).access path) name
      (((Expr.keyOf group type).access path).lower rules .value) =
        rules.columnOfPath name [name] ((Expr.keyOf group type).access path) := by
    simp [lowerMember, hname, htype, htemporal, DataType.isNullable,
      groupKeyColumn?_access rules group type hpath name]
  rw [Expr.access_concat, Expr.lowerValue, Expr.lower, if_neg (by simp), hmember,
    columnOfPath_access, Expr.keyOf, columnOfPath, columnOfPath, hnaming]

/-- A path of several members is written with points. -/
theorem point_mem_qualify (rules : LoweringRules) (group first : String) {names : List String}
    (hnames : names ≠ []) :
    '.' ∈ (rules.qualify group (String.intercalate "." (first :: names))).toList := by
  have hpath : '.' ∈ (String.intercalate "." (first :: names)).toList := by
    rw [String.intercalate_cons_of_ne_nil hnames]
    simp
  rw [qualify]
  cases Dictionary.get? group rules.aliases with
  | none => exact hpath
  | some qualifier => simp

end LoweringRules

namespace GroupByClause

theorem leaves_stripWrappers (name : Option String) (e : Expr) :
    leaves name e.stripWrappers = leaves name e := by
  induction e with
  | lambda params body ih => rw [Expr.stripWrappers, ih, leaves]
  | unary op operand type ih =>
      cases op with
      | convert => rw [Expr.stripWrappers, ih, leaves]
      | convertChecked => rw [Expr.stripWrappers, ih, leaves]
      | _ => rfl
  | _ => rfl

/-- A leaf is kept with the last name of the path that leads to it. -/
theorem mem_leaves_of_reaches {e leaf : Expr} {path : List String} (h : e.Reaches path leaf)
    (name : Option String) : (path.getLast?.or name, leaf.stripWrappers) ∈ leaves name e := by
  induction h generalizing name with
  | leaf hleaf =>
      rw [leaves_of_not_isObject name hleaf]
      exact List.mem_cons_self
  | @member e value leaf members first path hobject hmember hpath ih =>
      rw [← leaves_stripWrappers, hobject, leaves]
      have hlast : (first :: path).getLast?.or name = path.getLast?.or (some first) := by
        cases path with
        | nil => rfl
        | cons second rest => simp [List.getLast?_cons]
      rw [hlast]
      exact mem_memberLeaves.mpr ⟨_, hmember, ih (some first)⟩

/-- The columns by name are those of the leaves, each under the name of its leaf. -/
theorem columnsByName_eq_of_keys {selector : Expr} {context : Context} {list : List Key}
    (h : keys selector context = .ok list) :
    columnsByName list = ((leaves none selector).zip (list.map (·.column))).filterMap
      fun entry => entry.1.1.map (·, entry.2) := by
  rw [columnsByName]
  generalize hleaves : leaves none selector = entries
  have hkeys := forall₂_of_keys h
  rw [hleaves] at hkeys
  clear h hleaves
  induction hkeys with
  | nil => rfl
  | cons hkey _ ih =>
      rw [List.map_cons, List.zip_cons_cons, List.filterMap_cons, List.filterMap_cons, hkey.1, ih]

theorem get?_columnsByName_of_last {selector : Expr} {context : Context} {list : List Key}
    (h : keys selector context = .ok list) {name column : String} {leaf : Expr}
    {before after : List ((Option String × Expr) × String)}
    (hsplit : (leaves none selector).zip (list.map (·.column)) =
      before ++ ((some name, leaf), column) :: after)
    (hafter : ∀ other ∈ after, other.1.1 ≠ some name) :
    Dictionary.get? name (Dictionary.ofList (columnsByName list)) = some column := by
  rw [columnsByName_eq_of_keys h, hsplit, List.filterMap_append, List.filterMap_cons]
  refine Dictionary.get?_ofList_of_last column _ ?_
  intro hmem
  obtain ⟨entry, hentry, hname⟩ := List.mem_map.mp hmem
  obtain ⟨other, hother, hpair⟩ := List.mem_filterMap.mp hentry
  obtain ⟨otherName, hotherName, rfl⟩ := Option.map_eq_some_iff.mp hpair
  exact hafter other hother (hotherName.trans (congrArg some hname))

end GroupByClause

namespace Builders

open GroupByClause

/-- The grouping clause of a composite key has one column for each leaf. A path of two or more
members below the key of a group, from object to object down to a leaf, is not that column but the
path itself. By its last name alone the leaf is found, unless another leaf of that name follows. -/
theorem lowerValue_nestedKey (builders : Builders) (selector : Expr) (context : Context)
    (text : String) (h : (builders.build .groupBy selector context).result = .ok text)
    (hobject : selector.stripLambda.stripConversions.isObject) :
    ∃ grouped columns, (builders.buildGrouping (some selector) context).result =
        .ok (some ⟨text, selector⟩, grouped) ∧
      text = String.intercalate ", " columns ∧
      List.Forall₂ (fun leaf column => IsColumn context leaf.2 column) (leaves none selector)
        columns ∧
      ∀ (path : List String) (name : String) (leaf : Expr), path ≠ [] → name ≠ "HasValue" →
        selector.Reaches (path ++ [name]) leaf → ∀ (group : String) (type : DataType),
        let rules := LoweringRules.select.withContext grouped
        ((Expr.keyOf group type).access (path ++ [name])).lowerValue rules = .ok (.column
            (rules.qualify group (String.intercalate "." ("Key" :: (path ++ [name]))))) ∧
        ∃ column, ((some name, leaf.stripWrappers), column) ∈ (leaves none selector).zip columns ∧
          ('.' ∉ column.toList →
            ((Expr.keyOf group type).access (path ++ [name])).lowerValue rules ≠
              .ok (.column column)) ∧
          ∀ before after, (leaves none selector).zip columns =
              before ++ ((some name, leaf.stripWrappers), column) :: after →
            (∀ other ∈ after, other.1.1 ≠ some name) →
            (Expr.member (Expr.keyOf group type) name .unknown).lowerValue rules =
              .ok (.column column) := by
  obtain ⟨list, hlist, hpure⟩ := bind_eq_ok_iff.mp (result_of_build rfl h)
  have hkeys := groupKeys_of_keys hlist
  rw [if_pos hobject] at hkeys
  have hcolumns : List.Forall₂ (fun leaf column => IsColumn context leaf.2 column)
      (leaves none selector) (list.map (·.column)) :=
    List.forall₂_map_right_iff.mpr ((forall₂_of_keys hlist).imp fun _ _ hkey => hkey.2)
  refine ⟨_, list.map (·.column), result_buildGrouping h hkeys, (Except.ok.inj hpure).symm,
    hcolumns, ?_⟩
  intro path name leaf hpath hname hreaches group type rules
  have haccess := rules.lowerValue_access rfl group type hpath hname
  refine ⟨haccess, ?_⟩
  have hmem : (some name, leaf.stripWrappers) ∈ leaves none selector := by
    simpa using mem_leaves_of_reaches hreaches none
  rw [← List.map_fst_zip (Nat.le_of_eq hcolumns.length_eq), List.mem_map] at hmem
  obtain ⟨⟨entry, column⟩, hpair, rfl⟩ := hmem
  refine ⟨column, hpair, ?_, ?_⟩
  · intro hcolumn hequal
    rw [haccess] at hequal
    injection hequal with hequal
    injection hequal with hequal
    refine hcolumn ?_
    rw [← hequal]
    exact rules.point_mem_qualify group "Key" (by simp)
  · intro before after hsplit hafter
    exact Expr.lowerValue_member_keyOf (LoweringRules.groupKeys_withContext _ context _) hname
      (get?_columnsByName_of_last hlist hsplit hafter) group type .unknown

/-- Orders by their kind and by a place that has members of its own. -/
def byKindAndPlace : Expr :=
  let order := Expr.parameter "o" .unknown
  let address := Expr.member order "Address" .unknown
  .lambda ["o"] (.object [(some "Kind", .member order "Kind" .string),
    (some "Place", .unary .convert (.object [
      (some "City", .call (.member address "City" .string) "ToUpper" [] .string),
      (some "Zip", .member address "Zip" .int)]) .unknown)])

theorem lowerValue_nestedKey_byKindAndPlace :
    ∃ grouped, (standard.buildGrouping (some byKindAndPlace) { base := "orders" }).result =
        .ok (some ⟨"Kind, UPPER(City), Zip", byKindAndPlace⟩, grouped) ∧
      let rules := LoweringRules.select.withContext grouped
      let key := Expr.keyOf "g" .unknown
      (key.access ["Place", "City"]).lowerValue rules = .ok (.column "Key.Place.City") ∧
      (key.access ["Place", "City"]).lowerValue rules ≠ .ok (.column "UPPER(City)") ∧
      (key.access ["City"]).lowerValue rules = .ok (.column "UPPER(City)") := by
  obtain ⟨grouped, columns, hgrouping, -, hcolumns, hpaths⟩ := lowerValue_nestedKey standard
    byKindAndPlace { base := "orders" } "Kind, UPPER(City), Zip" rfl rfl
  obtain ⟨kind, _, ⟨_, ht, rfl⟩, hafterKind, rfl⟩ := List.forall₂_cons_left_iff.mp hcolumns
  obtain rfl := Except.ok.inj ht
  obtain ⟨city, _, ⟨_, ht, rfl⟩, hafterCity, rfl⟩ := List.forall₂_cons_left_iff.mp hafterKind
  obtain rfl := Except.ok.inj ht
  obtain ⟨zip, _, -, hnil, rfl⟩ := List.forall₂_cons_left_iff.mp hafterCity
  obtain rfl := List.forall₂_nil_left_iff.mp hnil
  obtain ⟨keys, -, rfl⟩ := context_of_buildGrouping hgrouping
  have hreaches : byKindAndPlace.Reaches ["Place", "City"] _ :=
    .member rfl (.tail _ (.head _)) (.member rfl (.head _) (.leaf rfl))
  obtain ⟨haccess, column, hpair, hdiffers, hlast⟩ :=
    hpaths ["Place"] "City" _ (by simp) (by decide) hreaches "g" .unknown
  -- Only the second entry has this name.
  have hkind : some "City" ≠ some "Kind" := by decide
  have hzip : some "Zip" ≠ some "City" := by decide
  have hcolumn : column = "UPPER(City)" := by
    rcases List.mem_cons.mp hpair with hfirst | hpair
    · exact absurd (congrArg (·.1.1) hfirst) hkind
    rcases List.mem_cons.mp hpair with hsecond | hpair
    · exact congrArg (·.2) hsecond
    · exact absurd (congrArg (·.1.1) (List.mem_singleton.mp hpair)).symm hzip
  subst hcolumn
  refine ⟨_, hgrouping, haccess, hdiffers (by decide), ?_⟩
  exact hlast [_] [_] rfl (List.forall_mem_singleton.mpr hzip)

/-- Orders by the city of a place. -/
def byCityOfPlace : Expr :=
  let order := Expr.parameter "o" .unknown
  .lambda ["o"] (.object [(some "Place", .object [(some "City", .member order "City" .string)])])

/-- The column of the grouping clause is `City`, and the reference to it through both members is
another column. -/
theorem lowerValue_cityOfPlace :
    ∃ grouped, (standard.buildGrouping (some byCityOfPlace) { base := "orders" }).result =
        .ok (some ⟨"City", byCityOfPlace⟩, grouped) ∧
      ((Expr.keyOf "g" .unknown).access ["Place", "City"]).lowerValue
        (LoweringRules.select.withContext grouped) ≠ .ok (.column "City") := by
  refine ⟨_, rfl, ?_⟩
  intro hequal
  have hnames : "Key.Place.City" = "City" := Sql.column.inj (Except.ok.inj hequal)
  exact absurd hnames (by decide)

end Builders

end StreamQuery
