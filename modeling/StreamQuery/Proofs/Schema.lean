import StreamQuery.Proofs.Report
import StreamQuery.Schema

/-!
# Columns and keys of a schema statement

A statement reads the properties of an entity through its columns only, so that properties to be
ignored have no effect on it. The key of a table consists of the key properties that are columns.
-/

namespace StreamQuery

namespace Entity

/-- The entity without the properties to be ignored. -/
def withoutIgnored (entity : Entity) : Entity :=
  { entity with properties := entity.properties.filter (!·.ignore) }

/-- The key properties that have the name of a property that is not ignored. -/
def columnKeys (entity : Entity) : List String :=
  entity.keyProperties.filter fun key =>
    entity.properties.any fun property => !property.ignore && property.name = key

theorem columns_withoutIgnored (entity : Entity) :
    entity.withoutIgnored.columns = entity.columns := by
  simp [columns, withoutIgnored]

theorem keys_withoutIgnored (entity : Entity) : entity.withoutIgnored.keys = entity.keys := by
  unfold keys
  rw [columns_withoutIgnored]
  rfl

theorem mem_columnKeys {entity : Entity} {key : String} :
    key ∈ entity.columnKeys ↔
      key ∈ entity.keyProperties ∧ ∃ property ∈ entity.columns, property.name = key := by
  simp [columnKeys, columns, and_assoc]

/-- A key property is looked up among the columns by its name, which the column found has. -/
theorem map_name_keys (entity : Entity) : entity.keys.map (·.name) = entity.columnKeys := by
  have hany : ∀ key : String,
      (entity.properties.any fun property => !property.ignore && property.name = key) =
        (entity.columns.find? fun property => property.name = key).isSome := by
    intro key
    rw [columns, List.isSome_find?, List.any_filter]
  unfold keys columnKeys
  induction entity.keyProperties with
  | nil => rfl
  | cons key rest ih =>
      cases hfind : entity.columns.find? fun property => property.name = key with
      | none =>
          rw [List.filter_cons_of_neg (by simp [hany, hfind]), ← ih]
          simp only [List.filterMap_cons, hfind]
      | some property =>
          have hname : property.name = key := of_decide_eq_true (List.find?_some hfind :)
          rw [List.filter_cons_of_pos (by simp [hany, hfind]), ← ih]
          simp only [List.filterMap_cons, hfind, List.map_cons, hname]

end Entity

namespace Schema

/-- Whether an option has the given name. -/
def isOption (name : String) (option : String) : Bool :=
  (name ++ "=").toList.isPrefixOf option.toList

variable {settings : Settings} {kind : ObjectKind} {name topic : String} {entity : Entity}

theorem isOption_append (name other value : String) :
    isOption name (other ++ "=" ++ value) =
      (name ++ "=").toList.isPrefixOf ((other ++ "=").toList ++ value.toList) := by
  rw [← String.toList_append]
  rfl

theorem filter_isOption_self (name : String) (value : Option String) :
    (option name value).filter (isOption name) = option name value := by
  rw [List.filter_eq_self]
  intro text htext
  obtain ⟨inner, -, rfl⟩ := List.mem_map.mp htext
  rw [isOption_append, List.isPrefixOf_iff_prefix]
  exact List.prefix_append _ _

theorem filter_isOption_of_ne {other : String}
    (hother : ∀ rest, (name ++ "=").toList.isPrefixOf ((other ++ "=").toList ++ rest) = false)
    (value : Option String) : (option other value).filter (isOption name) = [] := by
  rw [List.filter_eq_nil_iff]
  intro text htext
  obtain ⟨inner, -, rfl⟩ := List.mem_map.mp htext
  rw [isOption_append, hother]
  exact Bool.false_ne_true

/-- Of the options of an object, only the key has the name of one. -/
theorem filter_options (settings : Settings) (kind : ObjectKind) (topic : String) (entity : Entity) :
    (options settings kind topic entity).filter (isOption "KEY") =
      quotedOption "KEY" (keyText? kind entity) := by
  unfold options quotedOption
  simp only [List.filter_append]
  rw [filter_isOption_self, filter_isOption_of_ne (fun _ => rfl), filter_isOption_of_ne (fun _ => rfl),
    filter_isOption_of_ne (fun _ => rfl), filter_isOption_of_ne (fun _ => rfl),
    filter_isOption_of_ne (fun _ => rfl)]
  simp

theorem create_withoutIgnored (settings : Settings) (kind : ObjectKind) (name topic : String)
    (entity : Entity) :
    create settings kind name topic entity.withoutIgnored =
      create settings kind name topic entity := by
  have hkey : keyText? kind entity.withoutIgnored = keyText? kind entity := by
    unfold keyText?
    rw [Entity.keys_withoutIgnored]
  unfold create statement options
  rw [Entity.columns_withoutIgnored, hkey]
  rfl

theorem validateIdentifier_eq_ok {role name : String} (h : validateIdentifier role name = .ok ()) :
    isIdentifier name := by
  unfold validateIdentifier at h
  split at h
  · assumption
  · cases h

theorem validateTopic_eq_ok {name : String} (h : validateTopic name = .ok ()) : isTopic name := by
  unfold validateTopic at h
  split at h
  · assumption
  · cases h

/-- What is checked before a statement is generated, and its parts. -/
theorem create_eq_ok_checked {text : String}
    (h : create settings kind name topic entity = .ok text) :
    isIdentifier name ∧ isTopic topic ∧ ∃ columns, columns ≠ [] ∧
      List.Forall₂ (fun property column => columnText settings property = .ok column)
        entity.columns columns ∧
      text = "CREATE " ++ kind.keyword ++ " " ++ name ++ " (" ++ String.intercalate ", " columns ++
        ") WITH (" ++ String.intercalate ", " (options settings kind topic entity) ++ ")" := by
  obtain ⟨hname, hafterName⟩ := check_bind_eq_ok_iff.mp (mapError_eq_ok_iff.mp h)
  obtain ⟨htopic, hafterTopic⟩ := check_bind_eq_ok_iff.mp hafterName
  obtain ⟨columns, hmap, hempty⟩ := bind_eq_ok_iff.mp hafterTopic
  dsimp only at hempty
  split at hempty
  · cases hempty
  · next hne =>
      refine ⟨validateIdentifier_eq_ok hname, validateTopic_eq_ok htopic, columns, ?_,
        mapM_eq_ok_iff.mp hmap, (Except.ok.inj hempty).symm⟩
      rintro rfl
      exact hne rfl

/-- The parts of a statement that is generated. -/
theorem create_eq_ok {text : String} (h : create settings kind name topic entity = .ok text) :
    ∃ columns, List.Forall₂ (fun property column => columnText settings property = .ok column)
        entity.columns columns ∧
      text = "CREATE " ++ kind.keyword ++ " " ++ name ++ " (" ++ String.intercalate ", " columns ++
        ") WITH (" ++ String.intercalate ", " (options settings kind topic entity) ++ ")" := by
  obtain ⟨-, -, columns, -, hcolumns, htext⟩ := create_eq_ok_checked h
  exact ⟨columns, hcolumns, htext⟩

theorem columnText_eq_ok {property : Property} {column : String}
    (h : columnText settings property = .ok column) :
    ∃ type : ColumnType, column = Text.upper property.name ++ " " ++ type.text := by
  obtain ⟨type, -, hpure⟩ := bind_eq_ok_iff.mp h
  exact ⟨type, (Except.ok.inj hpure).symm⟩

theorem exists_column_of_mem {columns : List String}
    (hcolumns : List.Forall₂ (fun property column => columnText settings property = .ok column)
      entity.columns columns) {key : String} (hkey : key ∈ entity.columnKeys) :
    ∃ type : ColumnType, Text.upper key ++ " " ++ type.text ∈ columns := by
  obtain ⟨-, property, hproperty, rfl⟩ := Entity.mem_columnKeys.mp hkey
  obtain ⟨column, hmem, hcolumn⟩ := exists_mem_of_forall₂ hcolumns hproperty
  obtain ⟨type, rfl⟩ := columnText_eq_ok hcolumn
  exact ⟨type, hmem⟩

/-- The key of a table lists the key properties that are columns. -/
theorem keyOption_table (entity : Entity) :
    quotedOption "KEY" (keyText? .table entity) =
      if entity.columnKeys = [] then []
      else ["KEY='" ++ String.intercalate ", " (entity.columnKeys.map Text.upper) ++ "'"] := by
  have hkeys : entity.keys.map (fun property => Text.upper property.name) =
      entity.columnKeys.map Text.upper := by
    rw [← Entity.map_name_keys, List.map_map]
    rfl
  rw [keyText?, hkeys]
  by_cases hnone : entity.columnKeys = []
  · simp [hnone, quotedOption, option]
  · simp [hnone, quotedOption, option, ← String.append_assoc]

/-- Properties to be ignored have no effect on a schema statement, and keys are columns. Without these
properties the statement, or the failure, is the same. The statement of a table consists of its
columns and its options. Its key lists, in the order of the key properties and as often as they
stand there, exactly those that have the name of a property that is not ignored. Each of them is a
column, and without any the table has no key. -/
theorem create_by_columns (settings : Settings) (name topic : String) (entity : Entity) :
    (∀ kind, create settings kind name topic entity.withoutIgnored =
      create settings kind name topic entity) ∧
    ∀ text, create settings .table name topic entity = .ok text →
      ∃ columns : List String,
        List.Forall₂ (fun property column => columnText settings property = .ok column)
          entity.columns columns ∧
        text = "CREATE TABLE " ++ name ++ " (" ++ String.intercalate ", " columns ++ ") WITH (" ++
          String.intercalate ", " (options settings .table topic entity) ++ ")" ∧
        (options settings .table topic entity).filter (isOption "KEY") =
          (if entity.columnKeys = [] then []
          else ["KEY='" ++ String.intercalate ", " (entity.columnKeys.map Text.upper) ++ "'"]) ∧
        ∀ key ∈ entity.columnKeys, ∃ type : ColumnType,
          Text.upper key ++ " " ++ type.text ∈ columns := by
  refine ⟨fun kind => create_withoutIgnored settings kind name topic entity, ?_⟩
  intro text htext
  obtain ⟨columns, hcolumns, rfl⟩ := create_eq_ok htext
  refine ⟨columns, hcolumns, rfl, ?_, fun key => exists_column_of_mem hcolumns⟩
  rw [filter_options, keyOption_table]

/-- Orders with a property that has no column type, and with a region that is ignored before one that
is not. -/
def orders : Entity :=
  { typeName := "Order"
    properties := [
      { name := "Id", type := .int },
      { name := "Status", type := .enum "OrderStatus", ignore := true },
      { name := "Region", type := .decimal, ignore := true, precision := some ⟨0, 9⟩ },
      { name := "Region", type := .nullable .string }]
    keyProperties := ["Region", "Status", "Id", "Region"] }

theorem create_by_columns_orders :
    create {} .table "orders" "orders" orders.withoutIgnored =
      .ok ("CREATE TABLE orders (ID INTEGER, REGION VARCHAR) WITH (KAFKA_TOPIC='orders', " ++
        "VALUE_FORMAT='AVRO', KEY='REGION, ID, REGION')") ∧
    (options {} .table "orders" orders).filter (isOption "KEY") = ["KEY='REGION, ID, REGION'"] := by
  obtain ⟨hignored, hkeys⟩ := create_by_columns {} "orders" "orders" orders
  obtain ⟨_, -, -, hkey, -⟩ := hkeys _ rfl
  exact ⟨(hignored .table).trans rfl, hkey⟩

end Schema

end StreamQuery
