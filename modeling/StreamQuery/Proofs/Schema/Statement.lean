import StreamQuery.Proofs.Identifier
import StreamQuery.Proofs.Schema
import StreamQuery.Proofs.Text.Items

/-!
# Reading a schema statement

A statement that is generated determines what it was generated from: the kind and name of the
object, its columns with their types, and its options. Names and topics have been checked, so none
of their characters is read as a delimiter. A column and an option show where they end, although
the type of a column can have a comma in it and the key of a table several.
-/

namespace StreamQuery

namespace ColumnType

/-- The word that a type begins with. -/
def keyword : ColumnType → String
  | .integer => "INTEGER"
  | .bigint => "BIGINT"
  | .double => "DOUBLE"
  | .decimal _ => "DECIMAL"
  | .varchar => "VARCHAR"
  | .boolean => "BOOLEAN"
  | .timestamp => "TIMESTAMP"
  | .bytes => "BYTES"

/-- What stands after the word, in parentheses. -/
def arguments : ColumnType → List Char
  | .decimal p =>
    '(' :: ((toString p.precision).toList ++ ',' :: ((toString p.scale).toList ++ [')']))
  | _ => []

theorem toList_text (type : ColumnType) :
    type.text.toList = type.keyword.toList ++ type.arguments := by
  cases type with
  | decimal p =>
      rw [text, keyword, arguments]
      simp only [String.toList_append, List.append_assoc]
      rfl
  | _ => exact (List.append_nil _).symm

theorem isAlpha_of_mem_keyword (type : ColumnType) : ∀ c ∈ type.keyword.toList, c.isAlpha := by
  have hdecimal : "DECIMAL".toList.all Char.isAlpha := by decide
  apply List.all_eq_true.mp
  cases type with
  | decimal p => exact hdecimal
  | _ => rfl

theorem endsRun_arguments (type : ColumnType) {rest : List Char} (hrest : endsItem rest) :
    endsRun Char.isAlpha (type.arguments ++ rest) := by
  cases type with
  | decimal p => rfl
  | _ => exact endsRun_of_endsItem hrest rfl rfl

/-- The word tells all types apart but decimals. -/
theorem eq_or_decimal_of_keyword_eq {type type' : ColumnType} (h : type.keyword = type'.keyword) :
    type = type' ∨ ∃ p p', type = .decimal p ∧ type' = .decimal p' := by
  cases type <;> cases type' <;> simp_all [keyword]

theorem precision_inj {p p' : Precision} {rest rest' : List Char}
    (h : (decimal p).arguments ++ rest = (decimal p').arguments ++ rest') :
    p = p' ∧ rest = rest' := by
  have hdigits : ∀ (n : Nat), ∀ c ∈ (toString n).toList, c.isDigit :=
    fun n c hc => isDigit_of_mem_toString hc
  simp only [arguments, List.append_assoc, List.cons_append, List.nil_append] at h
  obtain ⟨hprecision, hafter⟩ := run_inj (hdigits _) (hdigits _) rfl rfl (List.cons.inj h).2
  obtain ⟨hscale, hclosing⟩ := run_inj (hdigits _) (hdigits _) rfl rfl (List.cons.inj hafter).2
  have hprecision := toString_nat_injective (String.toList_inj.mp hprecision)
  have hscale := toString_nat_injective (String.toList_inj.mp hscale)
  cases p
  cases p'
  exact ⟨congrArg₂ Precision.mk hprecision hscale, (List.cons.inj hclosing).2⟩

theorem showsEnd_text : ShowsEnd (fun type : ColumnType => type.text.toList) fun _ => True := by
  intro type type' rest rest' _ _ hrest hrest' h
  simp only [toList_text, List.append_assoc] at h
  obtain ⟨hkeyword, harguments⟩ := run_inj type.isAlpha_of_mem_keyword type'.isAlpha_of_mem_keyword
    (type.endsRun_arguments hrest) (type'.endsRun_arguments hrest') h
  rcases eq_or_decimal_of_keyword_eq (String.toList_inj.mp hkeyword) with rfl | ⟨p, p', rfl, rfl⟩
  · exact ⟨rfl, List.append_cancel_left harguments⟩
  · obtain ⟨rfl, hends⟩ := precision_inj harguments
    exact ⟨rfl, hends⟩

end ColumnType

namespace Schema

/-! ### Columns -/

/-- The name and the type that a property has as a column. -/
def column (settings : Settings) (property : Property) : Except Failure (String × ColumnType) := do
  let precision := property.precision.getD settings.defaultPrecision
  return (Text.upper property.name, ← ColumnType.ofDataType property.type precision)

def columnChars (column : String × ColumnType) : List Char :=
  column.1.toList ++ ' ' :: column.2.text.toList

theorem showsEnd_columnChars :
    ShowsEnd columnChars fun column => ∀ c ∈ column.1.toList, isIdentifierChar c := by
  rintro ⟨name, type⟩ ⟨name', type'⟩ rest rest' hname hname' hrest hrest' h
  simp only [columnChars, List.append_assoc, List.cons_append] at h
  obtain ⟨hchars, hafter⟩ := run_inj hname hname' rfl rfl h
  obtain rfl : name = name' := String.toList_inj.mp hchars
  obtain ⟨rfl, hends⟩ :=
    ColumnType.showsEnd_text trivial trivial hrest hrest' (List.cons.inj hafter).2
  exact ⟨rfl, hends⟩

theorem exists_column_of_columnText {settings : Settings} {property : Property} {text : String}
    (h : columnText settings property = .ok text) :
    ∃ type, column settings property = .ok (Text.upper property.name, type) ∧
      text.toList = columnChars (Text.upper property.name, type) := by
  obtain ⟨type, htype, hpure⟩ := bind_eq_ok_iff.mp h
  obtain rfl := Except.ok.inj hpure
  refine ⟨type, bind_eq_ok_iff.mpr ⟨type, htype, rfl⟩, ?_⟩
  rw [String.toList_append, String.toList_append, List.append_assoc]
  rfl

/-- The columns of a statement as data. -/
theorem exists_columns {settings : Settings} {properties : List Property} {texts : List String}
    (hnames : ∀ property ∈ properties, isIdentifier property.name)
    (h : List.Forall₂ (fun property text => columnText settings property = .ok text) properties
      texts) :
    ∃ columns, properties.mapM (column settings) = .ok columns ∧
      texts.map String.toList = columns.map columnChars ∧
      ∀ column ∈ columns, ∀ c ∈ column.1.toList, isIdentifierChar c := by
  induction h with
  | nil => exact ⟨[], rfl, rfl, List.forall_mem_nil _⟩
  | @cons property text properties texts hcolumn _ ih =>
      obtain ⟨hname, hrest⟩ := List.forall_mem_cons.mp hnames
      obtain ⟨type, htype, hchars⟩ := exists_column_of_columnText hcolumn
      obtain ⟨columns, hmap, htexts, hvalid⟩ := ih hrest
      refine ⟨(Text.upper property.name, type) :: columns, ?_, ?_, ?_⟩
      · rw [mapM_eq_ok_iff] at hmap ⊢
        exact .cons htype hmap
      · rw [List.map_cons, List.map_cons, hchars, htexts]
      · exact List.forall_mem_cons.mpr ⟨isIdentifierChar_of_mem_upper hname, hvalid⟩

/-! ### Options -/

/-- The options of an object, in the order in which they are written. -/
inductive OptionName where
  | topic
  | valueFormat
  | key
  | keyFormat
  | partitions
  | replicas
deriving DecidableEq

namespace OptionName

def all : List OptionName :=
  [.topic, .valueFormat, .key, .keyFormat, .partitions, .replicas]

def text : OptionName → String
  | .topic => "KAFKA_TOPIC"
  | .valueFormat => "VALUE_FORMAT"
  | .key => "KEY"
  | .keyFormat => "KEY_FORMAT"
  | .partitions => "PARTITIONS"
  | .replicas => "REPLICAS"

theorem mem_all (name : OptionName) : name ∈ all := by
  cases name <;> decide

theorem text_injective : Function.Injective text := by
  intro name name'
  cases name <;> cases name' <;> decide

theorem isIdentifierChar_of_mem_text (name : OptionName) :
    ∀ c ∈ name.text.toList, isIdentifierChar c := by
  apply List.all_eq_true.mp
  cases name <;> rfl

end OptionName

/-- A text in quotes. -/
def quote (text : String) : String :=
  "'" ++ text ++ "'"

theorem quote_injective : Function.Injective quote := by
  intro text text' h
  unfold quote at h
  rw [String.append_left_inj, String.append_right_inj] at h
  exact h

/-- What an option is set to, if it is written. -/
def optionValue (settings : Settings) (kind : ObjectKind) (topic : String) (entity : Entity) :
    OptionName → Option String
  | .topic => some (quote topic)
  | .valueFormat => some (quote settings.valueFormat.name)
  | .key => (keyText? kind entity).map quote
  | .keyFormat => settings.keyFormat.map fun format => quote format.name
  | .partitions => settings.partitions.map toString
  | .replicas => settings.replicas.map toString

theorem options_eq_flatMap (settings : Settings) (kind : ObjectKind) (topic : String)
    (entity : Entity) :
    options settings kind topic entity = OptionName.all.flatMap fun name =>
      option name.text (optionValue settings kind topic entity name) := by
  simp only [options, quotedOption, OptionName.all, List.flatMap_cons, List.flatMap_nil,
    optionValue, OptionName.text, Option.map_map, List.append_assoc, List.append_nil]
  rfl

theorem option_inj {name name' : OptionName} {value value' : String}
    (h : name.text ++ "=" ++ value = name'.text ++ "=" ++ value') : name = name' ∧ value = value' := by
  have hchars := congrArg String.toList h
  simp only [String.toList_append, List.append_assoc] at hchars
  obtain ⟨hname, hafter⟩ := run_inj name.isIdentifierChar_of_mem_text
    name'.isIdentifierChar_of_mem_text rfl rfl hchars
  refine ⟨OptionName.text_injective (String.toList_inj.mp hname), ?_⟩
  exact String.toList_inj.mp (List.append_cancel_left hafter)

theorem mem_flatMap_option {names : List OptionName} {value : OptionName → Option String}
    {name : OptionName} {text : String}
    (h : name.text ++ "=" ++ text ∈ names.flatMap fun name => option name.text (value name)) :
    name ∈ names := by
  obtain ⟨other, hother, hmem⟩ := List.mem_flatMap.mp h
  obtain ⟨inner, -, heq⟩ := List.mem_map.mp hmem
  obtain ⟨rfl, -⟩ := option_inj heq
  exact hother

/-- Options that are written alike are set alike. -/
theorem value_eq_of_flatMap_eq {names : List OptionName} (hnodup : names.Nodup)
    {value value' : OptionName → Option String}
    (h : (names.flatMap fun name => option name.text (value name)) =
      names.flatMap fun name => option name.text (value' name)) :
    ∀ name ∈ names, value name = value' name := by
  induction names with
  | nil => exact List.forall_mem_nil _
  | cons name names ih =>
      obtain ⟨hfirst, hnodup⟩ := List.nodup_cons.mp hnodup
      rw [List.flatMap_cons, List.flatMap_cons] at h
      -- An option that only one side has would be found among the later ones of the other side.
      have hlater : ∀ {text : String} {value : OptionName → Option String},
          name.text ++ "=" ++ text ∉ names.flatMap fun name => option name.text (value name) :=
        fun hmem => hfirst (mem_flatMap_option hmem)
      rw [List.forall_mem_cons]
      cases hvalue : value name with
      | none =>
          cases hvalue' : value' name with
          | none =>
              rw [hvalue, hvalue'] at h
              exact ⟨rfl, ih hnodup h⟩
          | some text =>
              rw [hvalue, hvalue'] at h
              refine absurd ?_ (@hlater text value)
              rw [show (names.flatMap fun name => option name.text (value name)) = _ from h]
              exact List.mem_cons_self
      | some text =>
          cases hvalue' : value' name with
          | none =>
              rw [hvalue, hvalue'] at h
              refine absurd ?_ (@hlater text value')
              rw [show (names.flatMap fun name => option name.text (value' name)) = _ from h.symm]
              exact List.mem_cons_self
          | some text' =>
              rw [hvalue, hvalue'] at h
              obtain ⟨hhead, htail⟩ := List.cons.inj h
              exact ⟨congrArg some (option_inj hhead).2, ih hnodup htail⟩

/-- What an option can be set to: a text in quotes, or a number. -/
inductive IsValue : List Char → Prop
  | quoted {inner : List Char} (h : '\x27' ∉ inner) : IsValue ('\x27' :: (inner ++ ['\x27']))
  | number {digits : List Char} (h : ∀ c ∈ digits, c.isDigit) : IsValue digits

theorem head?_number_ne {digits rest : List Char} (hdigits : ∀ c ∈ digits, c.isDigit)
    (hrest : endsItem rest) : (digits ++ rest).head? ≠ some '\x27' := by
  intro hquote
  cases digits with
  | nil =>
      obtain ⟨rest, rfl⟩ := List.head?_eq_some_iff.mp hquote
      cases hrest
  | cons c digits =>
      obtain rfl : c = '\x27' := Option.some.inj hquote
      exact absurd (hdigits _ List.mem_cons_self) (by decide)

theorem value_inj {value value' rest rest' : List Char} (hvalue : IsValue value)
    (hvalue' : IsValue value') (hrest : endsItem rest) (hrest' : endsItem rest')
    (h : value ++ rest = value' ++ rest') : value = value' ∧ rest = rest' := by
  cases hvalue with
  | @quoted inner hinner =>
      cases hvalue' with
      | @quoted inner' hinner' =>
          have hplain : ∀ {text : List Char}, '\x27' ∉ text → ∀ c ∈ text, (c ≠ '\x27' : Bool) := by
            intro text hnot c hc
            rw [decide_eq_true_eq]
            rintro rfl
            exact hnot hc
          simp only [List.cons_append, List.append_assoc, List.nil_append] at h
          obtain ⟨rfl, hafter⟩ :=
            run_inj (hplain hinner) (hplain hinner') rfl rfl (List.cons.inj h).2
          exact ⟨rfl, (List.cons.inj hafter).2⟩
      | number hdigits' =>
          refine absurd ?_ (head?_number_ne hdigits' hrest')
          rw [← h]
          rfl
  | number hdigits =>
      cases hvalue' with
      | quoted hinner' =>
          refine absurd ?_ (head?_number_ne hdigits hrest)
          rw [h]
          rfl
      | number hdigits' =>
          exact run_inj hdigits hdigits' (endsRun_of_endsItem hrest rfl rfl)
            (endsRun_of_endsItem hrest' rfl rfl) h

/-- The text of an option. -/
def IsWritten (text : String) : Prop :=
  ∃ (name : OptionName) (value : String), text = name.text ++ "=" ++ value ∧ IsValue value.toList

theorem showsEnd_option : ShowsEnd String.toList IsWritten := by
  rintro _ _ rest rest' ⟨name, value, rfl, hvalue⟩ ⟨name', value', rfl, hvalue'⟩ hrest hrest' h
  simp only [String.toList_append, List.append_assoc] at h
  obtain ⟨hname, hafter⟩ := run_inj name.isIdentifierChar_of_mem_text
    name'.isIdentifierChar_of_mem_text rfl rfl h
  obtain rfl := OptionName.text_injective (String.toList_inj.mp hname)
  obtain ⟨hsame, hends⟩ :=
    value_inj hvalue hvalue' hrest hrest' (List.append_cancel_left hafter)
  obtain rfl := String.toList_inj.mp hsame
  exact ⟨rfl, hends⟩

theorem toList_quote (text : String) :
    (quote text).toList = '\x27' :: (text.toList ++ ['\x27']) := by
  rw [quote, String.toList_append, String.toList_append]
  rfl

theorem isValue_quote {text : String} (h : '\x27' ∉ text.toList) : IsValue (quote text).toList := by
  rw [toList_quote]
  exact .quoted h

theorem isValue_toString (n : Nat) : IsValue (toString n).toList :=
  .number fun _ hc => isDigit_of_mem_toString hc

theorem isValue_format (format : Format) : IsValue (quote format.name).toList := by
  apply isValue_quote
  cases format <;> decide

theorem isValue_topic {topic : String} (h : isTopic topic) : IsValue (quote topic).toList := by
  apply isValue_quote
  intro hquote
  obtain ⟨⟨hchars, -⟩, -⟩ : (topic.toList.all isTopicChar ∧ _) ∧ _ := by simpa [isTopic] using h
  exact absurd (List.all_eq_true.mp hchars _ hquote) (by decide)

/-! ### Keys -/

/-- The names of the key columns, as they are written. -/
def keyNames (entity : Entity) : List String :=
  entity.keys.map fun property => Text.upper property.name

section

variable {entity entity' : Entity}

theorem keyText?_eq (kind : ObjectKind) (entity : Entity) :
    keyText? kind entity =
      if kind = .table ∧ keyNames entity ≠ [] then some (String.intercalate ", " (keyNames entity))
      else none := rfl

theorem isIdentifierChar_of_mem_keyNames
    (hnames : ∀ property ∈ entity.columns, isIdentifier property.name) :
    ∀ key ∈ keyNames entity, ∀ c ∈ key.toList, isIdentifierChar c := by
  intro key hkey
  obtain ⟨property, hproperty, rfl⟩ := List.mem_map.mp hkey
  obtain ⟨_, -, hfind⟩ := List.mem_filterMap.mp hproperty
  exact isIdentifierChar_of_mem_upper (hnames property (List.mem_of_find?_eq_some hfind))

theorem isValue_keyText? (hnames : ∀ property ∈ entity.columns, isIdentifier property.name)
    {kind : ObjectKind} {text : String} (h : keyText? kind entity = some text) :
    IsValue (quote text).toList := by
  have htext : text = String.intercalate ", " (keyNames entity) := by
    rw [keyText?_eq] at h
    split at h
    · exact (Option.some.inj h).symm
    · cases h
  apply isValue_quote
  rw [htext, String.toList_intercalate]
  apply not_mem_intercalate (by decide)
  intro piece hpiece hquote
  obtain ⟨key, hkey, rfl⟩ := List.mem_map.mp hpiece
  exact absurd (isIdentifierChar_of_mem_keyNames hnames key hkey _ hquote) (by decide)

theorem keyNames_eq_of_keyText?_eq
    (hnames : ∀ property ∈ entity.columns, isIdentifier property.name)
    (hnames' : ∀ property ∈ entity'.columns, isIdentifier property.name)
    (h : keyText? .table entity = keyText? .table entity') : keyNames entity = keyNames entity' := by
  simp only [keyText?_eq, true_and] at h
  by_cases hempty : keyNames entity = []
  · by_cases hempty' : keyNames entity' = []
    · rw [hempty, hempty']
    · rw [if_neg (not_not.mpr hempty), if_pos hempty'] at h
      cases h
  · by_cases hempty' : keyNames entity' = []
    · rw [if_pos hempty, if_neg (not_not.mpr hempty')] at h
      cases h
    · rw [if_pos hempty, if_pos hempty'] at h
      have hchars := congrArg (fun text => text.toList ++ []) (Option.some.inj h)
      simp only [String.toList_intercalate] at hchars
      have hwords := @showsEnd_run isIdentifierChar rfl rfl
      exact (hwords.intercalate hempty hempty' (isIdentifierChar_of_mem_keyNames hnames)
        (isIdentifierChar_of_mem_keyNames hnames') rfl rfl (by simp) (by simp) hchars).1

end

/-! ### Statements -/

section

variable {settings settings' : Settings} {kind kind' : ObjectKind} {name name' topic topic' : String}
  {entity entity' : Entity}

theorem isWritten_of_mem_options (htopic : isTopic topic)
    (hnames : ∀ property ∈ entity.columns, isIdentifier property.name) :
    ∀ text ∈ options settings kind topic entity, IsWritten text := by
  have hvalue : ∀ (option : OptionName) (value : String),
      optionValue settings kind topic entity option = some value → IsValue value.toList := by
    intro option value hset
    cases option with
    | topic =>
        obtain rfl := Option.some.inj hset
        exact isValue_topic htopic
    | valueFormat =>
        obtain rfl := Option.some.inj hset
        exact isValue_format settings.valueFormat
    | key =>
        obtain ⟨text, htext, rfl⟩ := Option.map_eq_some_iff.mp hset
        exact isValue_keyText? hnames htext
    | keyFormat =>
        obtain ⟨format, -, rfl⟩ := Option.map_eq_some_iff.mp hset
        exact isValue_format format
    | partitions =>
        obtain ⟨n, -, rfl⟩ := Option.map_eq_some_iff.mp hset
        exact isValue_toString n
    | replicas =>
        obtain ⟨n, -, rfl⟩ := Option.map_eq_some_iff.mp hset
        exact isValue_toString n
  intro text htext
  rw [options_eq_flatMap] at htext
  obtain ⟨option, -, hmem⟩ := List.mem_flatMap.mp htext
  obtain ⟨value, hset, rfl⟩ := List.mem_map.mp hmem
  exact ⟨option, value, rfl, hvalue option value (Option.mem_toList.mp hset)⟩

theorem options_ne_nil : options settings kind topic entity ≠ [] := by
  rw [options_eq_flatMap]
  exact List.cons_ne_nil _ _

theorem values_eq_of_options_eq
    (h : options settings kind topic entity = options settings' kind' topic' entity') :
    optionValue settings kind topic entity = optionValue settings' kind' topic' entity' := by
  rw [options_eq_flatMap, options_eq_flatMap] at h
  funext option
  exact value_eq_of_flatMap_eq (by decide) h option option.mem_all

end

theorem keyword_injective : Function.Injective ObjectKind.keyword := by
  intro kind kind'
  cases kind <;> cases kind' <;> decide

theorem format_injective : Function.Injective fun format : Format => quote format.name := by
  have hname : Function.Injective Format.name := by
    intro format format'
    cases format <;> cases format' <;> decide
  exact quote_injective.comp hname

/-- The characters of a statement, given those of its columns and options. -/
def layout (kind : ObjectKind) (name : String) (columns options : List (List Char)) : List Char :=
  "CREATE ".toList ++ (kind.keyword.toList ++ ' ' :: (name.toList ++ ' ' :: '(' ::
    (", ".toList.intercalate columns ++ (") WITH (".toList ++
      (", ".toList.intercalate options ++ [')'])))))

theorem toList_statement (kind : ObjectKind) (name : String) (columns options : List String) :
    ("CREATE " ++ kind.keyword ++ " " ++ name ++ " (" ++ String.intercalate ", " columns ++
        ") WITH (" ++ String.intercalate ", " options ++ ")").toList =
      layout kind name (columns.map String.toList) (options.map String.toList) := by
  simp only [String.toList_append, String.toList_intercalate, List.append_assoc]
  rfl

/-- The parts of a statement, with what is known of them. -/
structure Outline where
  kind : ObjectKind
  name : String
  columns : List (String × ColumnType)
  options : List String
  isIdentifier_name : isIdentifier name
  columns_ne_nil : columns ≠ []
  isIdentifierChar_column : ∀ column ∈ columns, ∀ c ∈ column.1.toList, isIdentifierChar c
  options_ne_nil : options ≠ []
  isWritten_option : ∀ text ∈ options, IsWritten text

namespace Outline

def chars (o : Outline) : List Char :=
  layout o.kind o.name (o.columns.map columnChars) (o.options.map String.toList)

theorem isIdentifierChar_of_mem_keyword (kind : ObjectKind) :
    ∀ c ∈ kind.keyword.toList, isIdentifierChar c := by
  apply List.all_eq_true.mp
  cases kind <;> rfl

theorem chars_injective : Function.Injective chars := by
  intro o o' h
  -- The two texts are compared from the front, each part showing where it ends.
  obtain ⟨hkind, hafterKind⟩ := run_inj (isIdentifierChar_of_mem_keyword o.kind)
    (isIdentifierChar_of_mem_keyword o'.kind) rfl rfl (List.append_cancel_left h)
  obtain ⟨hname, hafterName⟩ := run_inj (isIdentifierChar_of_mem o.isIdentifier_name)
    (isIdentifierChar_of_mem o'.isIdentifier_name) rfl rfl (List.cons.inj hafterKind).2
  have hlists := (List.cons.inj (List.cons.inj hafterName).2).2
  obtain ⟨hcolumns, hafterColumns⟩ := showsEnd_columnChars.intercalate o.columns_ne_nil
    o'.columns_ne_nil o.isIdentifierChar_column o'.isIdentifierChar_column rfl rfl (by simp)
    (by simp) hlists
  obtain ⟨hoptions, -⟩ := showsEnd_option.intercalate o.options_ne_nil o'.options_ne_nil
    o.isWritten_option o'.isWritten_option rfl rfl (by simp) (by simp)
    (List.append_cancel_left hafterColumns)
  cases o
  cases o'
  obtain rfl := keyword_injective (String.toList_inj.mp hkind)
  obtain rfl := String.toList_inj.mp hname
  cases hcolumns
  cases hoptions
  rfl

end Outline

theorem exists_outline {settings : Settings} {kind : ObjectKind} {name topic text : String}
    {entity : Entity} (hnames : ∀ property ∈ entity.columns, isIdentifier property.name)
    (h : create settings kind name topic entity = .ok text) :
    ∃ o : Outline, o.chars = text.toList ∧ o.kind = kind ∧ o.name = name ∧
      entity.columns.mapM (column settings) = .ok o.columns ∧
      o.options = options settings kind topic entity := by
  obtain ⟨hname, htopic, texts, hne, htexts, htext⟩ := create_eq_ok_checked h
  obtain ⟨columns, hcolumns, hchars, hvalid⟩ := exists_columns hnames htexts
  have hsome : columns ≠ [] := by
    rintro rfl
    exact hne (List.map_eq_nil_iff.mp hchars)
  have hoptions : options settings kind topic entity ≠ [] := options_ne_nil
  have hwritten : ∀ text ∈ options settings kind topic entity, IsWritten text :=
    isWritten_of_mem_options htopic hnames
  refine ⟨⟨kind, name, columns, _, hname, hsome, hvalid, hoptions, hwritten⟩, ?_, rfl, rfl,
    hcolumns, rfl⟩
  rw [htext, toList_statement, hchars]
  rfl

/-- Two entities and settings that give the same statement agree in all that it says: the kind, the
name and the topic of the object, its columns with their types, the formats, the numbers of
partitions and replicas, and the key if it is a table. -/
theorem eq_of_create_eq (settings settings' : Settings) (kind kind' : ObjectKind)
    (name name' topic topic' : String) (entity entity' : Entity)
    (hnames : ∀ property ∈ entity.columns, isIdentifier property.name)
    (hnames' : ∀ property ∈ entity'.columns, isIdentifier property.name) (text : String)
    (h : create settings kind name topic entity = .ok text)
    (h' : create settings' kind' name' topic' entity' = .ok text) :
    kind = kind' ∧ name = name' ∧ topic = topic' ∧
    (∃ columns, entity.columns.mapM (column settings) = .ok columns ∧
      entity'.columns.mapM (column settings') = .ok columns) ∧
    settings.valueFormat = settings'.valueFormat ∧ settings.keyFormat = settings'.keyFormat ∧
    settings.partitions = settings'.partitions ∧ settings.replicas = settings'.replicas ∧
    (kind = .table → keyNames entity = keyNames entity') := by
  obtain ⟨o, hchars, rfl, rfl, hcolumns, hoptions⟩ := exists_outline hnames h
  obtain ⟨o', hchars', rfl, rfl, hcolumns', hoptions'⟩ := exists_outline hnames' h'
  obtain rfl : o = o' := Outline.chars_injective (hchars.trans hchars'.symm)
  have hvalues := values_eq_of_options_eq (hoptions.symm.trans hoptions')
  have htopic := quote_injective (Option.some.inj (congrFun hvalues .topic))
  have hformat := format_injective (Option.some.inj (congrFun hvalues .valueFormat))
  have hkey := Option.map_injective quote_injective (congrFun hvalues .key)
  have hkeyFormat := Option.map_injective format_injective (congrFun hvalues .keyFormat)
  have hpartitions := Option.map_injective toString_nat_injective (congrFun hvalues .partitions)
  have hreplicas := Option.map_injective toString_nat_injective (congrFun hvalues .replicas)
  refine ⟨rfl, rfl, htopic, ⟨o.columns, hcolumns, hcolumns'⟩, hformat, hkeyFormat, hpartitions,
    hreplicas, fun htable => ?_⟩
  rw [htable] at hkey
  exact keyNames_eq_of_keyText?_eq hnames hnames' hkey

def prices : Entity :=
  { typeName := "Price"
    properties := [
      { name := "Id", type := .int },
      { name := "Amount", type := .decimal, precision := some ⟨18, 4⟩ }]
    keyProperties := ["Id", "Amount"] }

/-- Other properties that make the same table as `prices`, where the default precision is that of
its amounts. -/
def ticks : Entity :=
  { typeName := "Tick"
    properties := [
      { name := "ID", type := .nullable .short },
      { name := "Source", type := .string, ignore := true },
      { name := "amount", type := .decimal }]
    keyProperties := ["ID", "Source", "amount"] }

theorem eq_of_create_eq_prices :
    create { partitions := some 3 } .table "prices" "prices" prices =
      create { partitions := some 3, defaultPrecision := ⟨18, 4⟩ } .table "prices" "prices" ticks ∧
    prices ≠ ticks ∧
    prices.columns.mapM (column {}) = .ok [("ID", .integer), ("AMOUNT", .decimal ⟨18, 4⟩)] ∧
    keyNames prices = keyNames ticks := by
  have hprices : create { partitions := some 3 } .table "prices" "prices" prices =
      .ok ("CREATE TABLE prices (ID INTEGER, AMOUNT DECIMAL(18,4)) WITH (KAFKA_TOPIC='prices', " ++
        "VALUE_FORMAT='AVRO', KEY='ID, AMOUNT', PARTITIONS=3)") := rfl
  have hticks : create { partitions := some 3, defaultPrecision := ⟨18, 4⟩ } .table "prices"
      "prices" ticks = _ := rfl
  obtain ⟨-, -, -, -, -, -, -, -, hkeys⟩ := eq_of_create_eq _ _ _ _ _ _ _ _ prices ticks
    (by decide) (by decide) _ hprices hticks
  exact ⟨hprices.trans hticks.symm, by decide, rfl, hkeys rfl⟩

end Schema

end StreamQuery
