import Mathlib.Data.List.Induction
import StreamQuery.Proofs.Assembly
import StreamQuery.Proofs.Context
import StreamQuery.Proofs.Expr.Nodes

/-!
# References to the key of a group

Clauses after a grouping refer to its columns through the `Key` of a group. A simple key is the one
column of the grouping clause. A member of a composite key is the column that stands at its place in
the clause, provided that the names of the members tell them apart.
-/

namespace StreamQuery

namespace Dictionary

variable {α : Type}

theorem ofList_concat (entries : List (String × α)) (entry : String × α) :
    ofList (entries ++ [entry]) = insert entry.1 entry.2 (ofList entries) := by
  rw [ofList, List.foldl_append]
  rfl

/-- Entries under different keys are all kept. -/
theorem get?_ofList_of_nodup {entries : List (String × α)} (hkeys : (keys entries).Nodup)
    {entry : String × α} (h : entry ∈ entries) :
    get? entry.1 (ofList entries) = some entry.2 := by
  induction entries using List.reverseRecOn with
  | nil => cases h
  | append_singleton entries last ih =>
      rw [ofList_concat, get?_insert]
      rw [keys, List.map_append, List.nodup_append] at hkeys
      obtain ⟨hentries, -, hlast⟩ := hkeys
      rcases List.mem_append.mp h with hmem | hmem
      · have hne : entry.1 ≠ last.1 :=
          hlast _ (List.mem_map_of_mem hmem) _ List.mem_cons_self
        rw [if_neg hne]
        exact ih hentries hmem
      · rw [List.mem_singleton.mp hmem, if_pos rfl]

end Dictionary

namespace Expr

/-- The expression under all outer lambdas and conversions, in any order. -/
def stripWrappers : Expr → Expr
  | .lambda _ body => body.stripWrappers
  | .unary .convert operand _ => operand.stripWrappers
  | .unary .convertChecked operand _ => operand.stripWrappers
  | other => other

/-- The key of a group, of no known type. -/
def keyOf (group : String) (type : DataType) : Expr :=
  .member (.parameter group type) "Key" .unknown

theorem stripWrappers_stripLambda (e : Expr) : e.stripLambda.stripWrappers = e.stripWrappers := by
  induction e with
  | lambda params body ih => rw [stripLambda, ih, stripWrappers]
  | _ => rfl

/-- Under the conversions stands a lambda, or nothing that is stripped. -/
theorem stripWrappers_of_not_isLambda {e : Expr} (h : e.stripConversions.isLambda = false) :
    e.stripWrappers = e.stripConversions := by
  induction e with
  | lambda params body ih => cases h
  | unary op operand type ih =>
      cases op with
      | convert => exact ih h
      | convertChecked => exact ih h
      | _ => rfl
  | _ => rfl

theorem lowerValue_stripWrappers (rules : LoweringRules) (e : Expr) :
    e.stripWrappers.lowerValue rules = e.lowerValue rules := by
  induction e with
  | lambda params body ih =>
      rw [stripWrappers, ih, lowerValue, lowerValue, lower]
  | unary op operand type ih =>
      cases op with
      | convert => rw [stripWrappers, ih, lowerValue, lowerValue, lower]
      | convertChecked => rw [stripWrappers, ih, lowerValue, lowerValue, lower]
      | _ => rfl
  | _ => rfl

end Expr

namespace GroupByClause

theorem leaves_stripLambda (name : Option String) (e : Expr) :
    leaves name e.stripLambda = leaves name e := by
  induction e with
  | lambda params body ih => rw [Expr.stripLambda, ih, leaves]
  | _ => rfl

theorem leaves_stripConversions (name : Option String) (e : Expr) :
    leaves name e.stripConversions = leaves name e := by
  induction e with
  | unary op operand type ih =>
      cases op with
      | convert => rw [Expr.stripConversions, ih, leaves]
      | convertChecked => rw [Expr.stripConversions, ih, leaves]
      | _ => rfl
  | _ => rfl

/-- A key with no members is its own leaf. -/
theorem leaves_of_not_isObject (name : Option String) {e : Expr}
    (h : e.stripWrappers.isObject = false) : leaves name e = [(name, e.stripWrappers)] := by
  induction e with
  | lambda params body ih => exact ih h
  | unary op operand type ih =>
      cases op with
      | convert => exact ih h
      | convertChecked => exact ih h
      | _ => rfl
  | object members ih => cases h
  | _ => rfl

theorem mem_memberLeaves {members : List (Option String × Expr)} {leaf : Option String × Expr} :
    leaf ∈ memberLeaves members ↔
      ∃ entry ∈ members, leaf ∈ leaves (memberName? entry.1 entry.2) entry.2 := by
  induction members with
  | nil => simp [memberLeaves]
  | cons entry rest ih => simp [memberLeaves, ih]

theorem memberLeaves_eq_map {members : List (Option String × Expr)}
    (h : ∀ member ∈ members, member.2.stripWrappers.isObject = false) :
    memberLeaves members =
      members.map fun member => (memberName? member.1 member.2, member.2.stripWrappers) := by
  induction members with
  | nil => rfl
  | cons member rest ih =>
      obtain ⟨hmember, hrest⟩ := List.forall_mem_cons.mp h
      rw [memberLeaves, leaves_of_not_isObject _ hmember, ih hrest]
      rfl

theorem keyColumn_eq_ok {rules : LoweringRules} {leaf : Expr} {column : String}
    (h : keyColumn rules leaf = .ok column) :
    ∃ t, leaf.lowerValue rules = .ok t ∧ t.text = column := by
  unfold keyColumn at h
  split at h
  · cases h
  · cases h
  · obtain ⟨t, ht, hcolumn⟩ := bind_eq_ok_iff.mp h
    exact ⟨t, ht, Except.ok.inj hcolumn⟩

/-- The value becomes this column of the grouping clause. -/
def IsColumn (context : Context) (value : Expr) (column : String) : Prop :=
  ∃ t, value.lowerValue (LoweringRules.groupBy.withContext context) = .ok t ∧ t.text = column

/-- What the passes over a key accept, and the keys that they make of its leaves. -/
theorem keys_eq_ok_iff {selector : Expr} {context : Context} {list : List Key} :
    keys selector context = .ok list ↔
      selector.hasAggregate = false ∧ (∀ name ∈ selector.methodNames, checkMethod name = .ok ()) ∧
      List.Forall₂ (fun leaf key => leaf.1 = key.name ∧
        keyColumn (LoweringRules.groupBy.withContext context) leaf.2 = .ok key.column)
        (leaves none selector) list ∧
      list.length ≤ maxKeys := by
  unfold keys
  constructor
  · intro h
    split at h
    · cases h
    next haggregate =>
    obtain ⟨_, hmethods, hafter⟩ := bind_eq_ok_iff.mp h
    obtain ⟨found, hmap, hcount⟩ := bind_eq_ok_iff.mp hafter
    split at hcount
    · cases hcount
    next hlength =>
    obtain rfl := Except.ok.inj hcount
    refine ⟨Bool.eq_false_iff.mpr haggregate, forM_eq_ok_iff.mp hmethods,
      (mapM_eq_ok_iff.mp hmap).imp ?_, Nat.le_of_not_lt hlength⟩
    rintro ⟨name, leaf⟩ key hkey
    obtain ⟨column, hcolumn, hpure⟩ := bind_eq_ok_iff.mp hkey
    obtain rfl := Except.ok.inj hpure
    exact ⟨rfl, hcolumn⟩
  · rintro ⟨haggregate, hmethods, hleaves, hlength⟩
    rw [haggregate, if_neg Bool.false_ne_true]
    refine bind_eq_ok_iff.mpr ⟨(), forM_eq_ok_iff.mpr hmethods, bind_eq_ok_iff.mpr ⟨list, ?_, ?_⟩⟩
    · refine mapM_eq_ok_iff.mpr (hleaves.imp ?_)
      rintro ⟨name, leaf⟩ ⟨_, column⟩ ⟨rfl, hcolumn⟩
      exact bind_eq_ok_iff.mpr ⟨column, hcolumn, rfl⟩
    · rw [if_neg (Nat.not_lt.mpr hlength)]
      rfl

/-- Each leaf gives one key, of the same name. -/
theorem forall₂_of_keys {selector : Expr} {context : Context} {list : List Key}
    (h : keys selector context = .ok list) :
    List.Forall₂ (fun leaf key => leaf.1 = key.name ∧ IsColumn context leaf.2 key.column)
      (leaves none selector) list :=
  (keys_eq_ok_iff.mp h).2.2.1.imp fun _ _ hkey => ⟨hkey.1, keyColumn_eq_ok hkey.2⟩

/-- The columns of a composite key by the names of its members. -/
def columnsByName (list : List Key) : List (String × String) :=
  list.filterMap fun key => key.name.map (·, key.column)

theorem groupKeys_of_keys {selector : Expr} {context : Context} {list : List Key}
    (h : keys selector context = .ok list) :
    groupKeys selector context = .ok (
      if selector.stripLambda.stripConversions.isObject then
        { members := Dictionary.ofList (columnsByName list) }
      else { single := list.head?.map (·.column) }) := by
  rw [groupKeys, h]
  change (if _ then _ else _) = _
  split <;> rfl

section

variable {context : Context} {selector : Expr} {list : List Key}
  {members : List (Option String × Expr)}

/-- A key that is no object is a single column. -/
theorem keys_of_not_isObject (hlist : keys selector context = .ok list)
    (hobject : selector.stripLambda.stripConversions.isObject = false)
    (hlambda : selector.stripLambda.stripConversions.isLambda = false) :
    ∃ key, list = [key] ∧ IsColumn context selector key.column := by
  have hstrip : selector.stripWrappers = selector.stripLambda.stripConversions := by
    rw [← Expr.stripWrappers_stripLambda, Expr.stripWrappers_of_not_isLambda hlambda]
  have hleaves := forall₂_of_keys hlist
  rw [leaves_of_not_isObject none (by rw [hstrip, hobject])] at hleaves
  obtain ⟨key, rest, ⟨-, t, ht, hcolumn⟩, hnil, rfl⟩ := List.forall₂_cons_left_iff.mp hleaves
  obtain rfl := List.forall₂_nil_left_iff.mp hnil
  rw [Expr.lowerValue_stripWrappers] at ht
  exact ⟨key, rfl, t, ht, hcolumn⟩

/-- The names of the members that have one, given or inferred. -/
def memberNames (members : List (Option String × Expr)) : List String :=
  members.filterMap fun member => memberName? member.1 member.2

theorem forall₂_of_object (hlist : keys selector context = .ok list)
    (hselector : selector.stripLambda.stripConversions = .object members)
    (hvalues : ∀ member ∈ members, member.2.stripWrappers.isObject = false) :
    List.Forall₂ (fun member key => memberName? member.1 member.2 = key.name ∧
      IsColumn context member.2 key.column) members list := by
  have hleaves : leaves none selector =
      members.map fun member => (memberName? member.1 member.2, member.2.stripWrappers) := by
    rw [← leaves_stripLambda, ← leaves_stripConversions, hselector, leaves,
      memberLeaves_eq_map hvalues]
  have hkeys := forall₂_of_keys hlist
  rw [hleaves, List.forall₂_map_left_iff] at hkeys
  refine hkeys.imp fun member key hkey => ⟨hkey.1, ?_⟩
  obtain ⟨t, ht, htext⟩ := hkey.2
  rw [Expr.lowerValue_stripWrappers] at ht
  exact ⟨t, ht, htext⟩

theorem keys_columnsByName (h : List.Forall₂ (fun member key =>
      memberName? member.1 member.2 = key.name ∧ IsColumn context member.2 key.column)
      members list) :
    Dictionary.keys (columnsByName list) = memberNames members := by
  induction h with
  | nil => rfl
  | @cons member key members list hkey _ ih =>
      rw [Dictionary.keys, columnsByName, memberNames] at ih ⊢
      rw [List.filterMap_cons, List.filterMap_cons, hkey.1]
      cases key.name with
      | none => exact ih
      | some name => exact congrArg (name :: ·) ih

theorem get?_columnsByName (hnames : (Dictionary.keys (columnsByName list)).Nodup) {key : Key}
    (hkey : key ∈ list) {name : String} (hname : key.name = some name) :
    Dictionary.get? name (Dictionary.ofList (columnsByName list)) = some key.column := by
  have hmem : (name, key.column) ∈ columnsByName list := by
    rw [columnsByName, List.mem_filterMap]
    exact ⟨key, hkey, by rw [hname]; rfl⟩
  exact Dictionary.get?_ofList_of_nodup hnames hmem

end

end GroupByClause

namespace Expr

variable {rules : LoweringRules} {keys : GroupKeys} {name column : String}

theorem lowerValue_keyOf (hkeys : rules.groupKeys = some keys) (hsingle : keys.single = some column)
    (group : String) (type : DataType) :
    (keyOf group type).lowerValue rules = .ok (.column column) := by
  have hcolumn : rules.groupKeyColumn? (.parameter group type) "Key" = some column := by
    rw [LoweringRules.groupKeyColumn?, hkeys]
    exact congrArg (fun single => some (single.getD "Key")) hsingle
  rw [lowerValue, keyOf, lower, if_neg (by simp)]
  simp [LoweringRules.lowerMember, isDatePart, hcolumn]

theorem lowerValue_member_keyOf (hkeys : rules.groupKeys = some keys) (hname : name ≠ "HasValue")
    (hmember : Dictionary.get? name keys.members = some column) (group : String)
    (type memberType : DataType) :
    (Expr.member (keyOf group type) name memberType).lowerValue rules = .ok (.column column) := by
  have hcolumn : rules.groupKeyColumn? (keyOf group type) name = some column := by
    rw [LoweringRules.groupKeyColumn?, hkeys]
    exact hmember
  -- A key of no known type is neither nullable nor a time nor a text.
  have hnullable : (keyOf group type).dataType.isNullable = false := rfl
  have htemporal : (keyOf group type).dataType.isTemporal = false := rfl
  have htext : (keyOf group type).dataType ≠ .string := by rintro ⟨⟩
  rw [lowerValue, lower, if_neg (by simp)]
  simp [LoweringRules.lowerMember, hname, hnullable, htemporal, htext, hcolumn]

end Expr

namespace Builders

open GroupByClause

theorem result_buildGrouping {builders : Builders} {selector : Expr} {context : Context}
    {text : String} {keys : GroupKeys}
    (htext : (builders.build .groupBy selector context).result = .ok text)
    (hkeys : groupKeys selector context = .ok keys) :
    (builders.buildGrouping (some selector) context).result =
      .ok (some ⟨text, selector⟩, context.grouped keys) :=
  Report.result_bind_eq_ok.mpr ⟨text, htext, Report.result_bind_eq_ok.mpr ⟨keys, hkeys, rfl⟩⟩

/-- A key whose clause is built has its columns, since both come from the same leaves. -/
theorem exists_groupKeys_of_build {builders : Builders} {key : Expr} {context : Context}
    {text : String} (h : (builders.build .groupBy key context).result = .ok text) :
    ∃ keys, groupKeys key context = .ok keys := by
  obtain ⟨list, hlist, -⟩ := bind_eq_ok_iff.mp (result_of_build rfl h)
  exact ⟨_, groupKeys_of_keys hlist⟩

theorem context_of_buildGrouping {builders : Builders} {key : Expr} {context inner : Context}
    {grouping : Option Built}
    (h : (builders.buildGrouping (some key) context).result = .ok (grouping, inner)) :
    ∃ keys, groupKeys key context = .ok keys ∧ inner = context.grouped keys := by
  obtain ⟨text, -, hafter⟩ := Report.result_bind_eq_ok.mp h
  obtain ⟨keys, hkeys, hpure⟩ := Report.result_bind_eq_ok.mp hafter
  exact ⟨keys, hkeys, (Prod.mk.inj (Except.ok.inj hpure)).2.symm⟩

/-- References to the key of a group are the columns of the grouping clause. A simple key is the
whole clause. A composite key with different names for its members has one column for each of them,
in their order, to which the member of the key refers. -/
theorem lowerValue_groupKey (builders : Builders) (selector : Expr) (context : Context)
    (text : String) (h : (builders.build .groupBy selector context).result = .ok text) :
    ∃ grouped, (builders.buildGrouping (some selector) context).result =
        .ok (some ⟨text, selector⟩, grouped) ∧
      ∀ (rules : LoweringRules) (group : String) (type : DataType),
        (selector.stripLambda.stripConversions.isObject = false →
          selector.stripLambda.stripConversions.isLambda = false →
          IsColumn context selector text ∧
          (Expr.keyOf group type).lowerValue (rules.withContext grouped) = .ok (.column text)) ∧
        ∀ members, selector.stripLambda.stripConversions = .object members →
          (∀ member ∈ members, member.2.stripWrappers.isObject = false) →
          (memberNames members).Nodup →
          ∃ columns, text = String.intercalate ", " columns ∧
            List.Forall₂ (fun member column => IsColumn context member.2 column ∧
              ∀ name ∈ memberName? member.1 member.2, name ≠ "HasValue" → ∀ memberType,
                (Expr.member (Expr.keyOf group type) name memberType).lowerValue
                  (rules.withContext grouped) = .ok (.column column)) members columns := by
  obtain ⟨list, hlist, hpure⟩ := bind_eq_ok_iff.mp (result_of_build rfl h)
  have htext : text = String.intercalate ", " (list.map (·.column)) := (Except.ok.inj hpure).symm
  have hkeys := groupKeys_of_keys hlist
  refine ⟨_, result_buildGrouping h hkeys, ?_⟩
  intro rules group type
  have hrules := rules.groupKeys_withContext context
  constructor
  · intro hobject hlambda
    obtain ⟨key, rfl, hcolumn⟩ := keys_of_not_isObject hlist hobject hlambda
    obtain rfl : text = key.column := by simpa using htext
    refine ⟨hcolumn, Expr.lowerValue_keyOf (hrules _) ?_ group type⟩
    rw [hobject]
    rfl
  · intro members hselector hvalues hnames
    have hmembers := forall₂_of_object hlist hselector hvalues
    rw [← keys_columnsByName hmembers] at hnames
    obtain ⟨hlength, hzip⟩ := List.forall₂_iff_zip.mp hmembers
    refine ⟨list.map (·.column), htext, ?_⟩
    rw [List.forall₂_map_right_iff, List.forall₂_iff_zip]
    refine ⟨hlength, fun {member key} hpair => ?_⟩
    obtain ⟨hname, hcolumn⟩ := hzip hpair
    refine ⟨hcolumn, fun name hmem hne memberType => ?_⟩
    have hkey : key ∈ list := (List.of_mem_zip hpair).2
    refine Expr.lowerValue_member_keyOf (hrules _) hne ?_ group type memberType
    rw [hselector]
    exact get?_columnsByName hnames hkey (hname.symm.trans hmem)

/-- Orders by their region. -/
def byRegion : Expr :=
  .lambda ["o"] (.unary .convert (.member (.parameter "o" .unknown) "Region" .int) .long)

/-- Orders by region, city and zip code, the last under a name that members of nullable values
have. -/
def byPlace : Expr :=
  let order := Expr.parameter "o" .unknown
  .lambda ["o"] (.object [(none, .member order "Region" .string),
    (some "City", .call (.member order "City" .string) "ToUpper" [] .string),
    (some "Value", .unary .convert (.member (.member order "Address" .unknown) "Zip" .int) .long)])

theorem lowerValue_groupKey_byRegion_byPlace :
    (∃ grouped, (standard.buildGrouping (some byRegion) { base := "orders" }).result =
        .ok (some ⟨"Region", byRegion⟩, grouped) ∧
      (Expr.keyOf "g" .unknown).lowerValue (LoweringRules.select.withContext grouped) =
        .ok (.column "Region")) ∧
    ∃ grouped, (standard.buildGrouping (some byPlace) { base := "orders" }).result =
        .ok (some ⟨"Region, UPPER(City), Zip", byPlace⟩, grouped) ∧
      (Expr.member (Expr.keyOf "g" .unknown) "Value" .long).lowerValue
        (LoweringRules.having.withContext grouped) = .ok (.column "Zip") := by
  constructor
  · obtain ⟨grouped, hgrouping, hkey⟩ :=
      lowerValue_groupKey standard byRegion { base := "orders" } "Region" rfl
    exact ⟨grouped, hgrouping, ((hkey .select "g" .unknown).1 rfl rfl).2⟩
  · obtain ⟨grouped, hgrouping, hkey⟩ :=
      lowerValue_groupKey standard byPlace { base := "orders" } "Region, UPPER(City), Zip" rfl
    refine ⟨grouped, hgrouping, ?_⟩
    obtain ⟨columns, -, hmembers⟩ := (hkey .having "g" .unknown).2 _ rfl (by decide) (by decide)
    obtain ⟨_, _, -, hafterRegion, rfl⟩ := List.forall₂_cons_left_iff.mp hmembers
    obtain ⟨_, _, -, hafterCity, rfl⟩ := List.forall₂_cons_left_iff.mp hafterRegion
    obtain ⟨zip, _, ⟨⟨t, ht, htext⟩, hzip⟩, -, rfl⟩ := List.forall₂_cons_left_iff.mp hafterCity
    obtain rfl : .column "Zip" = t := Except.ok.inj ht
    obtain rfl : "Zip" = zip := htext
    exact hzip "Value" rfl (by decide) .long

end Builders

end StreamQuery
