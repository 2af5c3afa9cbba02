import StreamQuery.Proofs.Lowering.Leaves
import StreamQuery.Proofs.Sql.Shape

/-!
# String constants and the shape of the text

An expression with other string constants lowers to text with the same tokens, except for the
contents of strings, as long as no call fills the slots of an argument.
-/

namespace StreamQuery

open Token (isPlain)

def Constant.eraseString : Constant → Constant
  | .string _ => .string ""
  | other => other

namespace LoweringRules

/-- The columns that a member may be named by instead of its own name. -/
def keyColumns (rules : LoweringRules) : List String :=
  match rules.groupKeys with
  | none => []
  | some keys => keys.single.getD "Key" :: keys.members.map (·.2)

/-- Aliases are identifiers, and the strings of key columns are closed. -/
structure WellNamed (rules : LoweringRules) : Prop where
  aliases : ∀ entry ∈ rules.aliases, isIdentifier entry.2
  columns : ∀ column ∈ rules.keyColumns, ∀ s, .unclosed s ∉ Token.read column.toList

end LoweringRules

theorem Dictionary.exists_mem_of_get? {α : Type} {key : String} {value : α}
    {entries : Dictionary α} (h : Dictionary.get? key entries = some value) :
    ∃ entry ∈ entries, entry.2 = value := by
  induction entries with
  | nil => cases h
  | cons entry rest ih =>
      rw [Dictionary.get?] at h
      split at h
      · exact ⟨entry, by simp, Option.some.inj h⟩
      · obtain ⟨other, hother, hvalue⟩ := ih h
        exact ⟨other, List.mem_cons_of_mem _ hother, hvalue⟩

namespace LoweringRules

theorem mem_keyColumns {rules : LoweringRules} {target : Expr} {name column : String}
    (h : rules.groupKeyColumn? target name = some column) : column ∈ rules.keyColumns := by
  unfold groupKeyColumn? at h
  unfold keyColumns
  cases hkeys : rules.groupKeys with
  | none => simp [hkeys] at h
  | some keys =>
      rw [hkeys] at h
      simp only at h ⊢
      split at h
      · split at h
        · exact Option.some.inj h ▸ List.mem_cons_self
        · cases h
      · split at h
        · obtain ⟨entry, hentry, rfl⟩ := Dictionary.exists_mem_of_get? h
          exact List.mem_cons_of_mem _ (List.mem_map.mpr ⟨entry, hentry, rfl⟩)
        · cases h
      · cases h

theorem columnOfPath_mapLeaves (rules : LoweringRules) (constant : Constant → Constant)
    (leaf : String) (path : List String) (e : Expr) :
    rules.columnOfPath leaf path (e.mapLeaves constant id) = rules.columnOfPath leaf path e := by
  induction e generalizing path with
  | member target name type ih => exact ih _
  | unary op operand type ih =>
      cases op with
      | convert => exact ih path
      | convertChecked => exact ih path
      | typeAs => exact ih path
      | _ => rfl
  | _ => rfl

theorem memberColumn_mapLeaves (rules : LoweringRules) (constant : Constant → Constant)
    (target : Expr) (name : String) :
    rules.memberColumn (target.mapLeaves constant id) name = rules.memberColumn target name := by
  have hkey : rules.groupKeyColumn? (target.mapLeaves constant id) name =
      rules.groupKeyColumn? target name := by
    unfold groupKeyColumn?
    cases rules.groupKeys with
    | none => rfl
    | some keys =>
        cases target with
        | member inner key type => cases inner <;> rfl
        | _ => rfl
  rw [memberColumn, memberColumn, hkey, columnOfPath_mapLeaves]

/-- The characters of a path of names. -/
def isPathChar (c : Char) : Bool :=
  isIdentifierChar c || c = '.'

structure IsPath (text : List Char) : Prop where
  ne_nil : text ≠ []
  isPathChar : ∀ c ∈ text, isPathChar c

namespace IsPath

theorem of_isIdentifier {name : String} (h : isIdentifier name) : IsPath name.toList := by
  constructor
  · intro hnil
    rw [isIdentifier, hnil] at h
    cases h
  · intro c hc
    rw [LoweringRules.isPathChar, isIdentifierChar_of_mem h c hc, Bool.true_or]

theorem pointed {names rest : List Char} (hnames : IsPath names) (hrest : IsPath rest) :
    IsPath (names ++ '.' :: rest) := by
  refine ⟨by simp, fun c hc => ?_⟩
  rcases List.mem_append.mp hc with hc | hc
  · exact hnames.isPathChar c hc
  · rcases List.mem_cons.mp hc with rfl | hc
    · rfl
    · exact hrest.isPathChar c hc

theorem isPlain {text : List Char} (h : IsPath text) : isPlain text := by
  simp only [Token.isPlain, List.all_eq_true, decide_eq_true_eq]
  rintro c hc rfl
  exact absurd (h.isPathChar _ hc) (by decide)

end IsPath

theorem isPath_qualify {rules : LoweringRules}
    (haliases : ∀ entry ∈ rules.aliases, isIdentifier entry.2) (parameter : String)
    {column : String} (hcolumn : IsPath column.toList) :
    IsPath (rules.qualify parameter column).toList := by
  unfold qualify
  split
  · next qualifier hget =>
      obtain ⟨entry, hentry, rfl⟩ := Dictionary.exists_mem_of_get? hget
      rw [String.toList_append, String.toList_append, List.append_assoc]
      exact .pointed (.of_isIdentifier (haliases entry hentry)) hcolumn
  · exact hcolumn

theorem isPath_intercalate {names : List String} (hne : names ≠ [])
    (h : ∀ name ∈ names, isIdentifier name) : IsPath (String.intercalate "." names).toList := by
  rw [String.toList_intercalate]
  induction names with
  | nil => exact absurd rfl hne
  | cons name rest ih =>
      obtain ⟨hname, hrest⟩ := List.forall_mem_cons.mp h
      have hfirst := IsPath.of_isIdentifier hname
      cases rest with
      | nil => simpa using hfirst
      | cons next rest =>
          rw [List.map_cons, List.map_cons, List.intercalate_cons_cons, List.append_assoc]
          exact .pointed hfirst (ih (List.cons_ne_nil next rest) hrest)

/-- A column that is not that of a key is a path of names. -/
theorem isPath_columnOfPath {rules : LoweringRules}
    (haliases : ∀ entry ∈ rules.aliases, isIdentifier entry.2) {leaf : String}
    (hleaf : isIdentifier leaf) {e : Expr}
    (hnames : ∀ node ∈ e.nodes, ∀ name ∈ node.memberName?, isIdentifier name)
    {path : List String} (hne : path ≠ []) (hpath : ∀ name ∈ path, isIdentifier name)
    {column : String} (h : rules.columnOfPath leaf path e = .ok (.column column)) :
    IsPath column.toList := by
  induction e generalizing path with
  | parameter parameter type =>
      have hcolumn := Sql.column.inj (Except.ok.inj h)
      rw [← hcolumn]
      refine isPath_qualify haliases parameter ?_
      split
      · exact .of_isIdentifier hleaf
      · exact isPath_intercalate hne hpath
  | member target name type ih =>
      have hname := hnames _ (Expr.self_mem_nodes _) name rfl
      exact ih (Expr.nodes_of_child hnames (by simp [Expr.children])) (List.cons_ne_nil name path)
        (List.forall_mem_cons.mpr ⟨hname, hpath⟩) h
  | unary op operand type ih =>
      have hoperand := Expr.nodes_of_child hnames (List.mem_singleton_self operand)
      cases op with
      | convert => exact ih hoperand hne hpath h
      | convertChecked => exact ih hoperand hne hpath h
      | typeAs => exact ih hoperand hne hpath h
      | _ => cases h
  | _ => cases h

end LoweringRules

namespace Expr

def eraseStrings (e : Expr) : Expr :=
  e.mapLeaves Constant.eraseString id

/-- Whether the members and methods have identifiers as names. -/
def isWellNamed (e : Expr) : Bool :=
  e.nodes.all fun node => node.memberName?.all isIdentifier && node.methodName?.all isIdentifier

/-- The strings that may stand in the text of an expression. -/
def HasString (rules : LoweringRules) (e : Expr) (s : String) : Prop :=
  .constant (.string s) ∈ e.nodes ∨
    ∃ column ∈ rules.keyColumns, .string s ∈ Token.read column.toList

theorem isIdentifier_of_mem_nodes {e node : Expr} (h : e.isWellNamed) (hnode : node ∈ e.nodes) :
    (∀ name ∈ node.memberName?, isIdentifier name) ∧
      ∀ name ∈ node.methodName?, isIdentifier name := by
  have hnames := List.all_eq_true.mp h node hnode
  simpa [Option.all_eq_true] using hnames

section StringConstants

variable {rules : LoweringRules} {e : Expr}

/-- A constant with another string has a literal with another string. -/
theorem agree_literal {S : String → Prop} (clause : String) {value value' : Constant}
    (hS : ∀ s, value = .string s → S s) (hsame : value.eraseString = value'.eraseString) :
    Agree (Sql.Alike S) (do return .literal (← value.literal clause))
      (do return .literal (← value'.literal clause)) := by
  by_cases hstring : ∃ s, value = .string s
  · obtain ⟨s, rfl⟩ := hstring
    obtain ⟨s', rfl⟩ : ∃ s', value' = .string s' := by
      cases value' <;> simp_all [Constant.eraseString]
    exact .ok fun _ _ => .of_quoted (hS s rfl) s'
  · have hne : ∀ s, value ≠ .string s := fun s hs => hstring ⟨s, hs⟩
    obtain rfl : value = value' := by
      cases value <;> cases value' <;> simp_all [Constant.eraseString]
    cases hliteral : value.literal clause with
    | error failure => exact .error failure
    | ok text => exact .ok fun _ _ => .of_plain (Token.isPlain_literal hne hliteral)

/-- A member has the column of a key, or a path of names. -/
theorem mem_keyColumns_or_isPath (haliases : ∀ entry ∈ rules.aliases, isIdentifier entry.2)
    (hnames : e.isWellNamed) {target : Expr} {name : String} {type : DataType}
    (hnode : .member target name type ∈ e.nodes) {column : String} (h : rules.memberColumn target name = .ok (.column column)) :
    column ∈ rules.keyColumns ∨ LoweringRules.IsPath column.toList := by
  rw [LoweringRules.memberColumn] at h
  cases hkey : rules.groupKeyColumn? target name with
  | some keyColumn =>
      rw [hkey] at h
      obtain rfl := Sql.column.inj (Except.ok.inj h)
      exact Or.inl (LoweringRules.mem_keyColumns hkey)
  | none =>
      rw [hkey] at h
      have hname := (isIdentifier_of_mem_nodes hnames hnode).1 name rfl
      have htarget : ∀ node ∈ target.nodes, ∀ name ∈ node.memberName?, isIdentifier name := by
        intro node htarget
        exact (isIdentifier_of_mem_nodes hnames
          (nodes_trans hnode (List.mem_cons_of_mem _ htarget))).1
      exact Or.inr (LoweringRules.isPath_columnOfPath haliases hname htarget
        (List.cons_ne_nil name []) (List.forall_mem_singleton.mpr hname) h)

theorem agree_memberColumn (hrules : rules.WellNamed) (hnames : e.isWellNamed)
    {access : Expr × String} (haccess : access ∈ e.namedMembers) :
    Agree (Sql.Alike (HasString rules e)) (rules.memberColumn access.1 access.2)
      (rules.memberColumn access.1 access.2) := by
  obtain ⟨type, hnode⟩ := member_mem_nodes haccess
  rcases rules.memberColumn_eq_error_or_column access.1 access.2 with
    ⟨failure, herror⟩ | ⟨column, hok⟩
  · rw [herror]
    exact .error failure
  · rw [hok]
    rcases mem_keyColumns_or_isPath hrules.aliases hnames hnode hok with hmem | hpath
    · exact .ok fun _ _ =>
        ⟨hrules.columns column hmem, fun s hs => Or.inr ⟨column, hmem, hs⟩, rfl⟩
    · exact .ok fun _ _ => .of_plain hpath.isPlain

theorem leavesAlike_eraseString (hrules : rules.WellNamed) (hnames : e.isWellNamed) :
    LeavesAlike (fun name => isIdentifier name) (Sql.Alike (HasString rules e)) rules rules
      Constant.eraseString Constant.eraseString id id e where
  nodes node hnode := by
    obtain ⟨hmember, hmethod⟩ := isIdentifier_of_mem_nodes hnames hnode
    cases node with
    | parameter name type =>
        rintro _ rfl _ _
        refine .of_plain ?_
        cases hget : Dictionary.get? name rules.aliases with
        | none => rfl
        | some qualifier =>
            obtain ⟨entry, hentry, rfl⟩ := Dictionary.exists_mem_of_get? hget
            change isPlain (entry.2 ++ ".*").toList
            rw [String.toList_append]
            exact Token.isPlain_append (isPlain_of_isIdentifier (hrules.aliases entry hentry)) rfl
    | member target name type => exact hmember name rfl
    | bareMember name type =>
        exact fun _ _ => .of_plain (isPlain_of_isIdentifier (hmember name rfl))
    | call target name args type => exact hmethod name rfl
    | staticCall name args type => exact hmethod name rfl
    | constant value =>
        intro value' hsame
        refine agree_literal rules.clause (fun s hs => Or.inl ?_) hsame
        exact hs ▸ hnode
    | _ => trivial
  members access haccess target' hsame := by
    have htarget : rules.memberColumn target' access.2 = rules.memberColumn access.1 access.2 := by
      rw [← rules.memberColumn_mapLeaves Constant.eraseString target', ← hsame,
        rules.memberColumn_mapLeaves]
    rw [htarget]
    exact agree_memberColumn hrules hnames haccess

theorem leafSimulation_eraseString {S : String → Prop} :
    LeafSimulation (fun name => isIdentifier name) (Sql.Alike S) rules rules
      Constant.eraseString Constant.eraseString where
  congruence := Sql.congruence_alike
  named_coalesce := by decide
  named_arrayLength := by decide
  truth value := by
    cases value <;> exact fun _ _ => .of_plain rfl
  clause_eq := rfl
  inequality_eq := rfl
  idioms_eq := rfl
  null_iff value value' hsame := by
    cases value <;> cases value' <;> simp_all [Constant.eraseString]

/-- Expressions that differ in the contents of strings only lower to texts that do so too. -/
theorem agree_lower_of_eraseStrings_eq (hrules : rules.WellNamed) (hnames : e.isWellNamed)
    {e' : Expr} (hsame : e.eraseStrings = e'.eraseStrings) (position : Position) :
    Agree (Sql.Alike (HasString rules e)) (e.lower rules position) (e'.lower rules position) :=
  (lowersAlike_of_mapLeaves_eq leafSimulation_eraseString hsame
    (leavesAlike_eraseString hrules hnames)).lower position

end StringConstants

open SqlFunction in
/-- The contents of string constants decide neither whether an expression is lowered nor the tokens
of its text, unless a call fills the slots of an argument; this is what happens exactly if a
template is not filled with its arguments as they stand. -/
theorem shape_eq_of_eraseStrings_eq (rules : LoweringRules) (hrules : rules.WellNamed)
    (e e' : Expr) (hnames : e.isWellNamed) (hsame : e.eraseStrings = e'.eraseStrings)
    (position : Position) :
    ((∃ t, e.lower rules position = .ok t) ↔ ∃ t', e'.lower rules position = .ok t') ∧
    (∀ t t', e.lower rules position = .ok t → e'.lower rules position = .ok t' →
      t.keepsSlots → t'.keepsSlots →
        (Token.read t.text.toList).map Token.blank =
          (Token.read t'.text.toList).map Token.blank) ∧
    (∀ t, e.lower rules position = .ok t → t.keepsSlots →
      ∀ s, .string s ∈ Token.read t.text.toList →
        .constant (.string s) ∈ e.nodes ∨
          ∃ column ∈ rules.keyColumns, .string s ∈ Token.read column.toList) ∧
    ∀ method args onInstance template,
      callTemplate? method args.length onInstance = some template →
        (renderCall method args onInstance = String.ofList (fillOnce args template.toList) ↔
          callKeepsSlots method args onInstance) := by
  have hagree := agree_lower_of_eraseStrings_eq hrules hnames hsame position
  have hself := agree_lower_of_eraseStrings_eq hrules hnames rfl position
  refine ⟨?_, fun t t' ht ht' hkept hkept' => ?_, fun t ht hkept => ?_, ?_⟩
  · generalize e.lower rules position = x, e'.lower rules position = y at hagree
    cases hagree <;> simp
  · rw [ht, ht'] at hagree
    exact (hagree.related hkept hkept').blank_eq
  · rw [ht] at hself
    exact (hself.related hkept hkept).strings
  · exact fun method args onInstance template => renderCall_eq_fillOnce_iff

/-- The title contains a text, and the city and the group have a name. -/
def titledIn (title city : String) : Expr :=
  .lambda ["o"] (.binary .andAlso
    (.call (.member (.parameter "o" .unknown) "Title" .string) "Contains"
      [.constant (.string title)] .bool)
    (.binary .andAlso
      (.binary .equal (.member (.parameter "o" .unknown) "City" .string)
        (.constant (.string city)))
      (.binary .notEqual (.member (.parameter "o" .unknown) "Key" .string)
        (.constant (.string title)))))

/-- Conditions on the groups of a key with a string of its own. -/
def regionRules : LoweringRules :=
  { LoweringRules.filter with
    aliases := [("o", "orders")]
    groupKeys := some { single := some "CONCAT(Region, 'EU')" } }

theorem wellNamed_regionRules : regionRules.WellNamed := by
  have hread : Token.read "CONCAT(Region, 'EU')".toList =
      "CONCAT(Region, ".toList.map .char ++ [.string "EU", .char ')'] := by
    decide
  refine ⟨by decide, fun column hcolumn s => ?_⟩
  have hcolumn : column = "CONCAT(Region, 'EU')" := List.mem_singleton.mp hcolumn
  rw [hcolumn, hread]
  simp

theorem shape_eq_of_eraseStrings_eq_titledIn :
    regionRules.WellNamed ∧ (titledIn "it's" "\x7b1\x7d").isWellNamed ∧
    (titledIn "it's" "\x7b1\x7d").eraseStrings = (titledIn "" "'").eraseStrings ∧
    ∃ t t', (titledIn "it's" "\x7b1\x7d").lower regionRules .condition = .ok t ∧
      (titledIn "" "'").lower regionRules .condition = .ok t' ∧
      t.text = "(INSTR(orders.Title, 'it''s') > 0 AND ((orders.City = '\x7b1\x7d') AND " ++
        "(CONCAT(Region, 'EU') != 'it''s')))" ∧
      t'.text = "(INSTR(orders.Title, '') > 0 AND ((orders.City = '''') AND " ++
        "(CONCAT(Region, 'EU') != '')))" ∧
      (Token.read t.text.toList).map Token.blank = (Token.read t'.text.toList).map Token.blank := by
  have hrules := wellNamed_regionRules
  have hnames : (titledIn "it's" "\x7b1\x7d").isWellNamed := by decide +kernel
  have hsame : (titledIn "it's" "\x7b1\x7d").eraseStrings = (titledIn "" "'").eraseStrings := rfl
  refine ⟨hrules, hnames, hsame, _, _, rfl, rfl, by decide +kernel, by decide +kernel, ?_⟩
  exact (shape_eq_of_eraseStrings_eq regionRules hrules _ _ hnames hsame .condition).2.1 _ _
    rfl rfl (by decide +kernel) (by decide +kernel)

/-- The letter x is contained in a text. -/
def holdsX (text : String) : Expr :=
  .call (.constant (.string text)) "Contains" [.constant (.string "x")] .bool

/-- A slot in a string is filled with the next argument, whose quotes close the string. -/
theorem slot_in_string_changes_shape :
    (holdsX "\x7b1\x7d").isWellNamed ∧
    (holdsX "\x7b1\x7d").eraseStrings = (holdsX "").eraseStrings ∧
    ∃ t t', (holdsX "\x7b1\x7d").lower .filter .condition = .ok t ∧
      (holdsX "").lower .filter .condition = .ok t' ∧
      t.text = "INSTR(''x'', 'x') > 0" ∧ t'.text = "INSTR('', 'x') > 0" ∧
      (Token.read t.text.toList).map Token.blank ≠ (Token.read t'.text.toList).map Token.blank := by
  obtain ⟨t, ht, htext⟩ : ∃ t, (holdsX "\x7b1\x7d").lower .filter .condition = .ok t ∧
      t.text = "INSTR(''x'', 'x') > 0" :=
    ⟨_, rfl, by decide +kernel⟩
  obtain ⟨t', ht', htext'⟩ : ∃ t', (holdsX "").lower .filter .condition = .ok t' ∧
      t'.text = "INSTR('', 'x') > 0" :=
    ⟨_, rfl, by decide +kernel⟩
  refine ⟨by decide +kernel, rfl, t, t', ht, ht', htext, htext', ?_⟩
  rw [htext, htext']
  decide

end Expr

end StreamQuery
