import StreamQuery.Proofs.Lowering.Aggregates
import StreamQuery.Proofs.Lowering.StringConstants
import StreamQuery.Text.Blank

/-!
# Blank SQL texts

Every SQL expression but a column is written with a character of its own, which is not blank. So the
text of a query expression is blank only if it is a column with a blank name, and this name comes
from a member in the expression or from the key of a group.
-/

namespace StreamQuery

namespace Text

/-- Whether the text has nothing but blanks. -/
def allBlank (text : String) : Bool :=
  text.toList.all isBlank

theorem allBlank_append (text rest : String) :
    allBlank (text ++ rest) = (allBlank text && allBlank rest) := by
  rw [allBlank, String.toList_append, List.all_append]
  rfl

theorem allBlank_eq_false_iff {text : String} :
    allBlank text = false ↔ ∃ c ∈ text.toList, isBlank c = false := by
  simp [allBlank]

theorem isBlank_of_isDigit {c : Char} (h : c.isDigit) : isBlank c = false := by
  have hbounds : 48 ≤ c.toNat ∧ c.toNat ≤ 57 := by
    simpa [Char.isDigit, UInt32.le_iff_toNat_le] using h
  have hspace : c ≠ ' ' := by
    rintro rfl
    exact absurd h (by decide)
  simp only [isBlank, hspace, decide_false, Bool.false_or, Bool.or_eq_false_iff,
    Bool.and_eq_false_iff, decide_eq_false_iff_not]
  omega

theorem all_isBlank_toDigits (n : Nat) : (Nat.toDigits 10 n).all isBlank = false := by
  obtain ⟨digit, rest, hdigits⟩ := List.exists_cons_of_ne_nil (@Nat.toDigits_ne_nil n 10)
  have hdigit : digit.isDigit :=
    Nat.isDigit_of_mem_toDigits (by decide) (by decide) (hdigits ▸ List.mem_cons_self)
  rw [hdigits, List.all_cons, isBlank_of_isDigit hdigit, Bool.false_and]

theorem allBlank_toString_nat (n : Nat) : allBlank (toString n) = false := by
  change allBlank (String.ofList (Nat.toDigits 10 n)) = false
  rw [allBlank, String.toList_ofList, all_isBlank_toDigits]

theorem allBlank_toString_int (n : Int) : allBlank (toString n) = false := by
  cases n with
  | ofNat n => exact allBlank_toString_nat n
  | negSucc n =>
      change allBlank ("-" ++ toString (n + 1)) = false
      rw [allBlank_append, allBlank_toString_nat, Bool.and_false]

theorem allBlank_decimal (x : Decimal) : allBlank x.text = false := by
  have hpointed : (Decimal.pointed x.mantissa.natAbs x.scale).all isBlank = false := by
    simp only [Decimal.pointed]
    split
    · rw [List.all_append, all_isBlank_toDigits, Bool.and_false]
    · rw [List.all_append, List.all_cons, show isBlank '.' = false by decide, Bool.false_and,
        Bool.and_false]
  simp only [Decimal.text]
  split
  · rw [allBlank_append, show allBlank "-" = false by decide, Bool.false_and]
  · rw [allBlank, String.toList_ofList, hpointed]

theorem allBlank_binary64 (x : Binary64) : allBlank x.text = false := by
  have hdigits : ∀ d : Binary64.Digits, allBlank d.text = false := by
    intro d
    simp only [Binary64.Digits.text]
    split
    · rw [allBlank, String.toList_ofList, List.all_append, all_isBlank_toDigits, Bool.false_and]
    · rw [allBlank, String.toList_ofList, List.all_append, List.all_cons,
        show isBlank '.' = false by decide, Bool.false_and, Bool.and_false]
  have hmagnitude : allBlank x.magnitudeText = false := by
    unfold Binary64.magnitudeText
    split
    · decide
    split
    · decide
    · exact hdigits _
  unfold Binary64.text
  split
  · decide
  split
  · rw [allBlank_append, hmagnitude, Bool.and_false]
  · exact hmagnitude

end Text

open Text

/-- The literal of a constant is never blank. -/
theorem Constant.allBlank_literal {clause text : String} {value : Constant}
    (h : value.literal clause = .ok text) : allBlank text = false := by
  cases value with
  | null => cases h; decide
  | bool b => cases h; cases b <;> decide
  | int n => cases h; exact allBlank_toString_int n
  | float x => cases h; exact allBlank_binary64 x
  | decimal x => cases h; exact allBlank_decimal x
  | string s =>
      cases h
      rw [quoted, allBlank, String.toList_ofList]
      rfl
  | duration d =>
      cases h
      rw [Duration.text, Duration.TimeUnit.format, allBlank_append, allBlank_append,
        allBlank_toString_int, Bool.false_and, Bool.false_and]
  | window w => cases h

namespace Piece

variable {α : Type}

/-- Whether the piece is a character that is not blank. -/
def isShown : Piece α → Bool
  | .char c => !isBlank c
  | .hole _ => false

theorem all_isBlank_write {pieces : List (Piece α)} (h : pieces.any isShown)
    (fill : α → List Char) : (write fill pieces).all isBlank = false := by
  induction pieces with
  | nil => cases h
  | cons piece rest ih =>
      rw [List.any_cons, Bool.or_eq_true] at h
      cases piece with
      | char c =>
          rw [write, List.all_cons]
          rcases h with hc | hrest
          · rw [(Bool.not_eq_true' _).mp hc, Bool.false_and]
          · rw [ih hrest, Bool.and_false]
      | hole place =>
          rcases h with hhole | hrest
          · cases hhole
          · rw [write, List.all_append, ih hrest, Bool.and_false]

end Piece

namespace SqlFunction

/-- Every template has a character outside its slots that is not blank. -/
theorem any_isShown_of_mem_catalog : ∀ f ∈ catalog, ∀ template ∈ f.template,
    (slots template.toList).any Piece.isShown := by
  decide

/-- A call is never blank, whatever its arguments. -/
theorem allBlank_renderCall (method : String) (args : List String) (onInstance : Bool) :
    allBlank (renderCall method args onInstance) = false := by
  cases htemplate : callTemplate? method args.length onInstance with
  | none =>
      rw [renderCall_of_no_template htemplate, allBlank_append]
      split
      · rw [show allBlank "(*)" = false by decide, Bool.and_false]
      · rw [allBlank_append, allBlank_append, show allBlank "(" = false by decide, Bool.false_and,
          Bool.false_and, Bool.and_false]
  | some template =>
      obtain ⟨⟨hspaced, hle, -⟩, hcount⟩ := wellSlotted_of_callTemplate htemplate
      obtain ⟨f, hfind, hsome⟩ := Option.bind_eq_some_iff.mp htemplate
      have hshown := any_isShown_of_mem_catalog f (List.mem_of_find?_eq_some hfind) template
        (Option.filter_eq_some_iff.mp hsome).1
      rw [renderCall_of_template htemplate, allBlank, String.toList_ofList,
        fillSlots_eq_write hspaced (by omega)]
      exact Piece.all_isBlank_write hshown _

end SqlFunction

namespace Sql

/-- Whether the expression is written as it is, with nothing around it. -/
def isAtom : Sql → Bool
  | .column _ => true
  | .literal _ => true
  | _ => false

theorem allBlank_conjunction (pairs : List (Sql × Sql)) :
    allBlank (Sql.keyEquality pairs).text = false := by
  have hequals : allBlank " = " = false := by decide
  have hopening : allBlank "(" = false := by decide
  rw [text_keyEquality]
  match pairs with
  | [] => decide
  | [(left, right)] =>
      change allBlank (left.text ++ " = " ++ right.text) = false
      simp [allBlank_append, hequals]
  | first :: second :: rest =>
      change allBlank ("(" ++ String.intercalate " AND " _ ++ ")") = false
      simp [allBlank_append, hopening]

/-- What is not written as it is has a character of its own. -/
theorem allBlank_text_of_not_isAtom {t : Sql} (h : t.isAtom = false) : allBlank t.text = false := by
  cases t with
  | star qualifier =>
      cases qualifier with
      | none => decide
      | some qualifier =>
          change allBlank (qualifier ++ ".*") = false
          rw [allBlank_append, show allBlank ".*" = false by decide, Bool.and_false]
  | column name => cases h
  | literal text => cases h
  | call method args onInstance => exact SqlFunction.allBlank_renderCall method _ onInstance
  | binary op left right =>
      simp [text_binary, allBlank_append, show allBlank "(" = false by decide]
  | keyEquality pairs => exact allBlank_conjunction pairs
  | not operand => simp [text_not, allBlank_append, show allBlank "NOT (" = false by decide]
  | negate operand => simp [text_negate, allBlank_append, show allBlank "-" = false by decide]
  | isNull operand negated =>
      rw [text_isNull, allBlank_append]
      cases negated
      · rw [if_neg Bool.false_ne_true, show allBlank " IS NULL" = false by decide, Bool.and_false]
      · rw [if_pos rfl, show allBlank " IS NOT NULL" = false by decide, Bool.and_false]
  | case test ifTrue ifFalse =>
      simp [text_case, allBlank_append, show allBlank "CASE WHEN " = false by decide]

end Sql

namespace Expr

open LoweringRules

variable {rules : LoweringRules}

/-- The node becomes this SQL expression, which is written as it is. -/
inductive IsAtom (rules : LoweringRules) : Expr → Sql → Prop where
  | constant {value : Constant} {text : String} (h : value.literal rules.clause = .ok text) :
    IsAtom rules (.constant value) (.literal text)
  | bareMember (name : String) (type : DataType) :
    IsAtom rules (.bareMember name type) (.column name)
  | member {target : Expr} {name : String} {t : Sql} (type : DataType)
    (h : rules.memberColumn target name = .ok t) : IsAtom rules (.member target name type) t

theorem not_isAtom_of_bind {α : Type} {x : Except Failure α} {next : α → Except Failure Sql}
    {t : Sql} (h : x >>= next = .ok t) (hnext : ∀ a, next a = .ok t → t.isAtom = false) :
    t.isAtom = false := by
  obtain ⟨a, -, ha⟩ := bind_eq_ok_iff.mp h
  exact hnext a ha

theorem not_isAtom_of_ok {s t : Sql} (hs : s.isAtom = false)
    (h : (.ok s : Except Failure Sql) = .ok t) : t.isAtom = false :=
  Except.ok.inj h ▸ hs

theorem lowerMember_eq_ok {target : Expr} {name : String} {lowered : Except Failure Sql} {t : Sql}
    (h : rules.lowerMember target name lowered = .ok t) (hatom : t.isAtom = true) :
    lowered = .ok t ∨ rules.memberColumn target name = .ok t := by
  have hreturn : ∀ build : Sql → Sql, (∀ s, (build s).isAtom = false) →
      (do return build (← lowered)) ≠ Except.ok t := by
    intro build hbuild ht
    have hnot := not_isAtom_of_bind ht fun s => not_isAtom_of_ok (hbuild s)
    rw [hatom] at hnot
    cases hnot
  unfold lowerMember at h
  split at h
  · exact absurd h (hreturn (.isNull · true) fun _ => rfl)
  split at h
  · exact Or.inl h
  split at h
  · exact absurd h (hreturn (fun s => .call name [s] false) fun _ => rfl)
  split at h
  · exact absurd h (hreturn (fun s => .call "Length" [s] false) fun _ => rfl)
  · exact Or.inr h

theorem not_isAtom_of_binary {op : BinaryOp} {left right : Expr} {position : Position} {t : Sql}
    (h : (Expr.binary op left right).lower rules position = .ok t) : t.isAtom = false := by
  simp only [lower] at h
  split at h
  · exact not_isAtom_of_bind h fun _ => not_isAtom_of_ok rfl
  split at h
  · exact not_isAtom_of_bind h fun _ => not_isAtom_of_ok rfl
  split at h
  · unfold lowerKeys at h
    split at h
    · cases h
    · refine not_isAtom_of_bind h fun pairs => not_isAtom_of_ok ?_
      split <;> rfl
  · split at h
    · exact not_isAtom_of_bind h fun _ h =>
        not_isAtom_of_bind h fun _ => not_isAtom_of_ok rfl
    · exact not_isAtom_of_bind h fun _ h =>
        not_isAtom_of_bind h fun _ => not_isAtom_of_ok rfl
    · exact not_isAtom_of_bind h fun _ h =>
        not_isAtom_of_bind h fun _ => not_isAtom_of_ok rfl
    · unfold lowerOperator at h
      split at h
      · exact not_isAtom_of_bind h fun _ h =>
          not_isAtom_of_bind h fun _ => not_isAtom_of_ok rfl
      · cases h

/-- Under lambdas, conversions and the like stands the node that becomes a column or a literal. -/
theorem exists_isAtom {e : Expr} {position : Position} {t : Sql}
    (h : e.lower rules position = .ok t) (hatom : t.isAtom = true) :
    ∃ node ∈ e.nodes, IsAtom rules node t := by
  have hnot : t.isAtom ≠ false := by
    rw [hatom]
    decide
  have hchild : ∀ {e child : Expr}, child ∈ e.children →
      (∃ node ∈ child.nodes, IsAtom rules node t) → ∃ node ∈ e.nodes, IsAtom rules node t := by
    rintro e child hchild ⟨node, hnode, hleaf⟩
    exact ⟨node, mem_nodes.mpr (Or.inr ⟨child, hchild, hnode⟩), hleaf⟩
  induction e generalizing position with
  | parameter name type => exact absurd (not_isAtom_of_ok rfl h) hnot
  | member target name type ih =>
      rw [lower] at h
      split at h
      · exact absurd (not_isAtom_of_bind h fun _ => not_isAtom_of_ok rfl) hnot
      · rcases lowerMember_eq_ok h hatom with hlowered | hcolumn
        · exact hchild List.mem_cons_self (ih hlowered)
        · exact ⟨_, self_mem_nodes _, .member type hcolumn⟩
  | bareMember name type =>
      obtain rfl := Except.ok.inj h
      exact ⟨_, self_mem_nodes _, .bareMember name type⟩
  | call target name args type ihtarget ihargs =>
      rw [lower] at h
      obtain ⟨operands, ht, -⟩ := lowerCall_eq_ok h
      exact absurd (congrArg Sql.isAtom ht) hnot
  | staticCall name args type ihargs =>
      rw [lower] at h
      obtain ⟨operands, ht, -⟩ := lowerCall_eq_ok h
      exact absurd (congrArg Sql.isAtom ht) hnot
  | binary op left right ihleft ihright => exact absurd (not_isAtom_of_binary h) hnot
  | unary op operand type ih =>
      have hoperand : operand ∈ (Expr.unary op operand type).children := List.mem_cons_self
      cases op with
      | not =>
          rw [lower_not] at h
          split at h
          · exact absurd (not_isAtom_of_bind h fun _ => not_isAtom_of_ok rfl) hnot
          · exact absurd (not_isAtom_of_bind h fun _ => not_isAtom_of_ok rfl) hnot
      | negate => exact absurd (not_isAtom_of_bind h fun _ => not_isAtom_of_ok rfl) hnot
      | arrayLength => exact absurd (not_isAtom_of_bind h fun _ => not_isAtom_of_ok rfl) hnot
      | convert => exact hchild hoperand (ih h)
      | convertChecked => exact hchild hoperand (ih h)
      | typeAs => exact hchild hoperand (ih h)
  | constant value =>
      obtain ⟨text, htext, hpure⟩ := bind_eq_ok_iff.mp h
      obtain rfl := Except.ok.inj hpure
      exact ⟨_, self_mem_nodes _, .constant htext⟩
  | conditional test ifTrue ifFalse ihtest ihtrue ihfalse =>
      rw [lower] at h
      exact absurd (not_isAtom_of_bind h fun _ h => not_isAtom_of_bind h fun _ h =>
        not_isAtom_of_bind h fun _ => not_isAtom_of_ok rfl) hnot
  | object members ih => cases h
  | lambda params body ih =>
      rw [lower] at h
      exact hchild List.mem_cons_self (ih h)
  | source name => cases h

/-- Only a column with a blank name has a blank text. -/
theorem allBlank_text_iff {e : Expr} {position : Position} {t : Sql}
    (h : e.lower rules position = .ok t) :
    allBlank t.text ↔ ∃ name, t = .column name ∧ allBlank name := by
  constructor
  · intro hblank
    have hatom : t.isAtom = true := by
      by_contra hnot
      rw [Sql.allBlank_text_of_not_isAtom (Bool.eq_false_iff.mpr hnot)] at hblank
      cases hblank
    obtain ⟨node, -, hnode⟩ := exists_isAtom h hatom
    cases t with
    | column name => exact ⟨name, rfl, hblank⟩
    | literal text =>
        cases hnode with
        | constant hliteral =>
            exact absurd hblank (Bool.eq_false_iff.mp (Constant.allBlank_literal hliteral))
        | member type hcolumn =>
            rcases rules.memberColumn_eq_error_or_column _ _ with ⟨_, herror⟩ | ⟨_, hok⟩
            · rw [herror] at hcolumn
              cases hcolumn
            · rw [hok] at hcolumn
              cases hcolumn
    | _ => cases hatom
  · rintro ⟨name, rfl, hblank⟩
    exact hblank

/-- The expression becomes a column with a blank name. -/
def IsBlank (rules : LoweringRules) (position : Position) (e : Expr) : Prop :=
  ∃ name, e.lower rules position = .ok (.column name) ∧ allBlank name

theorem allBlank_text_iff_isBlank {position : Position} {e : Expr} {t : Sql}
    (h : e.lower rules position = .ok t) : allBlank t.text ↔ e.IsBlank rules position := by
  rw [allBlank_text_iff h]
  constructor
  · rintro ⟨name, rfl, hblank⟩
    exact ⟨name, h, hblank⟩
  · rintro ⟨name, hname, hblank⟩
    exact ⟨name, Except.ok.inj (h.symm.trans hname), hblank⟩

theorem columnOfPath_of_leaf (hnaming : rules.naming = .leaf) {leaf : String} {path : List String}
    {e : Expr} {t : Sql} (h : rules.columnOfPath leaf path e = .ok t) :
    ∃ parameter, t = .column (rules.qualify parameter leaf) := by
  induction e generalizing path with
  | parameter name type =>
      rw [columnOfPath, hnaming] at h
      exact ⟨name, (Except.ok.inj h).symm⟩
  | member target name type ih => exact ih h
  | unary op operand type ih =>
      cases op with
      | convert => exact ih h
      | convertChecked => exact ih h
      | typeAs => exact ih h
      | _ => cases h
  | _ => cases h

theorem allBlank_qualify {column : String} (h : allBlank column = false) (parameter : String) :
    allBlank (rules.qualify parameter column) = false := by
  unfold qualify
  split
  · rw [allBlank_append, h, Bool.and_false]
  · exact h

/-- Whether a member of the expression has a blank name. -/
def hasBlankName (e : Expr) : Bool :=
  e.any fun node => node.memberName?.any allBlank

theorem memberName_of_hasBlankName {e node : Expr} (h : e.hasBlankName = false)
    (hnode : node ∈ e.nodes) {name : String} (hname : node.memberName? = some name) :
    allBlank name = false := by
  by_contra hblank
  have hany : e.hasBlankName = true :=
    any_eq_true_iff.mpr ⟨node, hnode, by rw [hname]; exact Bool.not_eq_false _ ▸ hblank⟩
  rw [h] at hany
  cases hany

theorem hasBlankName_of_mem_nodes {e node : Expr} (h : e.hasBlankName = false)
    (hnode : node ∈ e.nodes) : node.hasBlankName = false := by
  by_contra hblank
  obtain ⟨inner, hinner, hname⟩ := any_eq_true_iff.mp (Bool.not_eq_false _ ▸ hblank)
  have hany : e.hasBlankName = true :=
    any_eq_true_iff.mpr ⟨inner, nodes_trans hnode hinner, hname⟩
  rw [h] at hany
  cases hany

/-- With no blank names in the expression and in the keys of a group, no text is blank. -/
theorem allBlank_text_of_names {e : Expr} {position : Position} {t : Sql}
    (hnaming : rules.naming = .leaf) (hnames : e.hasBlankName = false)
    (hkeys : ∀ column ∈ rules.keyColumns, allBlank column = false)
    (h : e.lower rules position = .ok t) : allBlank t.text = false := by
  by_contra hblank
  obtain ⟨column, rfl, hcolumn⟩ := (allBlank_text_iff h).mp (Bool.not_eq_false _ ▸ hblank)
  obtain ⟨node, hnode, hatom⟩ := exists_isAtom h rfl
  cases hatom with
  | bareMember _ type =>
      rw [memberName_of_hasBlankName hnames hnode rfl] at hcolumn
      cases hcolumn
  | @member target name _ type hmember =>
      unfold memberColumn at hmember
      split at hmember
      · next other hkey =>
          obtain rfl := Sql.column.inj (Except.ok.inj hmember)
          rw [hkeys other (mem_keyColumns hkey)] at hcolumn
          cases hcolumn
      · obtain ⟨parameter, hqualified⟩ := columnOfPath_of_leaf hnaming hmember
        rw [Sql.column.inj hqualified, allBlank_qualify
          (memberName_of_hasBlankName hnames hnode rfl)] at hcolumn
        cases hcolumn

end Expr

end StreamQuery
