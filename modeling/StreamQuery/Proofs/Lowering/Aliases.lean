import StreamQuery.Proofs.Lowering.Contexts
import StreamQuery.Proofs.Lowering.Inversion
import StreamQuery.Proofs.Sql.Operands

/-!
# An alias before the finished text

An alias can be given to the columns of an expression, or it can be put before the text that the
expression has without it. Both give the same text if the expression begins with a column of its
parameter. A call, an operator or a constant at the beginning keeps the second alias away from the
columns, so the texts differ.
-/

namespace StreamQuery

/-- A character that stands in no alias, nor is the point after one. -/
def isOpening (c : Char) : Bool :=
  !c.isLower && c ≠ '.'

/-- Texts that begin alike, up to a character that stands in no alias. -/
def OpensAlike (text text' : List Char) : Prop :=
  ∃ opening c rest rest', isOpening c ∧ text = opening ++ c :: rest ∧ text' = opening ++ c :: rest'

/-- An alias before the one text does not give the other, since it would move the character. -/
theorem OpensAlike.ne_append {text text' qualifier : List Char} (h : OpensAlike text text')
    (hne : qualifier ≠ []) (hqualifier : ∀ c ∈ qualifier, isOpening c = false) :
    text' ≠ qualifier ++ text := by
  obtain ⟨opening, c, rest, rest', hc, rfl, rfl⟩ := h
  have hmem : c ∉ qualifier := by
    intro hmem
    rw [hqualifier c hmem] at hc
    cases hc
  have hfirst : ∀ rest, (opening ++ c :: rest).idxOf c = (opening ++ [c]).idxOf c := by
    intro rest
    rw [List.append_cons, List.idxOf_append_of_mem (by simp)]
  intro heq
  have hindex := congrArg (List.idxOf c) heq
  rw [List.idxOf_append_of_notMem hmem, hfirst rest, hfirst rest'] at hindex
  have hpos := List.length_pos_of_ne_nil hne
  omega

namespace SqlFunction

/-- No template begins with a slot or with a small letter. -/
theorem isOpening_of_mem_catalog : ∀ f ∈ catalog, ∀ template ∈ f.template,
    template.toList.head?.any fun c => isOpening c && c ≠ '\x7b' := by
  decide

theorem fillSlots_cons {c : Char} (hc : c ≠ '\x7b') (index : Nat) (rest : List Char)
    (args : List String) : ∃ rest', fillSlots index (c :: rest) args = c :: rest' := by
  induction args generalizing index rest with
  | nil => exact ⟨rest, rfl⟩
  | cons arg args ih =>
      rw [fillSlots, fillSlot_cons, if_neg (by simp [hc])]
      exact ih (index + 1) _

/-- Two calls of one method with as many arguments begin alike. -/
theorem opensAlike_renderCall (method : String) {args args' : List String}
    (hlength : args.length = args'.length) (onInstance : Bool) :
    OpensAlike (renderCall method args onInstance).toList
      (renderCall method args' onInstance).toList := by
  cases htemplate : callTemplate? method args.length onInstance with
  | none =>
      have hparen : ∀ args : List String, ∃ rest,
          (if args.isEmpty && (find? method).any (·.aggregate) then "(*)"
            else "(" ++ String.intercalate ", " args ++ ")").toList = '(' :: rest := by
        intro args
        split
        · exact ⟨_, rfl⟩
        · exact ⟨_, toList_parenthesized _⟩
      obtain ⟨rest, hrest⟩ := hparen args
      obtain ⟨rest', hrest'⟩ := hparen args'
      rw [renderCall_of_no_template htemplate, renderCall_of_no_template (hlength ▸ htemplate),
        String.toList_append, String.toList_append, hrest, hrest']
      exact ⟨_, '(', rest, rest', by decide, rfl, rfl⟩
  | some template =>
      rw [renderCall_of_template htemplate, renderCall_of_template (hlength ▸ htemplate),
        String.toList_ofList, String.toList_ofList]
      obtain ⟨f, hfind, hsome⟩ := Option.bind_eq_some_iff.mp htemplate
      have hhead := isOpening_of_mem_catalog f (List.mem_of_find?_eq_some hfind) template
        (Option.filter_eq_some_iff.mp hsome).1
      cases hchars : template.toList with
      | nil => simp [hchars] at hhead
      | cons c chars =>
          obtain ⟨hopening, hslot⟩ : isOpening c ∧ c ≠ '\x7b' := by simpa [hchars] using hhead
          obtain ⟨rest, hrest⟩ := fillSlots_cons hslot 0 chars args
          obtain ⟨rest', hrest'⟩ := fillSlots_cons hslot 0 chars args'
          exact ⟨[], c, rest, rest', hopening, hrest, hrest'⟩

end SqlFunction

namespace Sql

/-- The nodes whose text begins with characters of their own. -/
def opensItself : Sql → Bool
  | .call .. => true
  | .binary .. => true
  | .not _ => true
  | .negate _ => true
  | .case .. => true
  | _ => false

theorem opensAlike_append (start : String) {c : Char} {chars : List Char}
    (hstart : start.toList = c :: chars) (hc : isOpening c) (rest rest' : String) :
    OpensAlike (start ++ rest).toList (start ++ rest').toList := by
  rw [String.toList_append, String.toList_append, hstart]
  exact ⟨[], c, chars ++ rest.toList, chars ++ rest'.toList, hc, rfl, rfl⟩

theorem congruence_opensAlike : Congruence (fun _ => True)
    (fun t t' => t.opensItself → OpensAlike t.text.toList t'.text.toList) where
  call {method args args' onInstance} _ hargs _ := by
    refine SqlFunction.opensAlike_renderCall method ?_ onInstance
    rw [length_argTexts, length_argTexts, hargs.length_eq]
  binary _ _ _ := by
    simp only [text_binary, String.append_assoc]
    exact opensAlike_append "(" rfl rfl _ _
  keyEquality _ h := by cases h
  not _ _ := by
    simp only [text_not, String.append_assoc]
    exact opensAlike_append "NOT (" rfl rfl _ _
  negate _ _ := opensAlike_append "-" rfl rfl _ _
  isNull _ h := by cases h
  case _ _ _ _ := by
    simp only [text_case, String.append_assoc]
    exact opensAlike_append "CASE WHEN " rfl rfl _ _

end Sql

namespace LoweringRules

/-- Rules that bring along no columns of their own, and no idioms of conditions. -/
structure IsBare (rules : LoweringRules) : Prop where
  aliases : rules.aliases = []
  groupKeys : rules.groupKeys = none
  booleanIdioms : rules.booleanIdioms = false

theorem isBare_join : LoweringRules.join.IsBare :=
  ⟨rfl, rfl, rfl⟩

theorem memberColumn_of_no_groupKeys {rules : LoweringRules} (h : rules.groupKeys = none)
    (target : Expr) (name : String) :
    rules.memberColumn target name = rules.columnOfPath name [name] target := by
  rw [memberColumn, groupKeyColumn?, h]

end LoweringRules

namespace Expr

open LoweringRules

/-- Whether the text begins with a column of a parameter, or with all its columns. -/
def startsWithColumn : Expr → Bool
  | .parameter .. => true
  | .member target name _ =>
    if name = "HasValue" || (name = "Value" && target.dataType.isNullable) then
      target.startsWithColumn
    else !isDerived target name
  | .binary op left right =>
    if op.isEquality && right.isNullConstant then left.startsWithColumn
    else if op.isEquality && left.isNullConstant then right.startsWithColumn
    else false
  | .unary .convert operand _ => operand.startsWithColumn
  | .unary .convertChecked operand _ => operand.startsWithColumn
  | .unary .typeAs operand _ => operand.startsWithColumn
  | .lambda _ body => body.startsWithColumn
  | _ => false

/-- Whether all parameters in the expression have that name. -/
def hasOnlyParameter (parameter : String) (e : Expr) : Bool :=
  e.nodes.all fun
    | .parameter name _ => name = parameter
    | _ => true

/-- The tree `t'` with the alias in it is written like `t` with the alias before it if the
expression begins with a column. The converse leaves out objects: equal keys of a single member are
written without parentheses, and may begin with a column and have no other. -/
def TakesAlias (qualifier : String) (e : Expr) (t t' : Sql) : Prop :=
  (e.startsWithColumn → t'.text = qualifier ++ "." ++ t.text) ∧
    (e.any isObject = false → t'.text = qualifier ++ "." ++ t.text → e.startsWithColumn)

section

variable {rules : LoweringRules} {parameter qualifier : String}

theorem hasOnlyParameter_of_mem_nodes {e node : Expr} (h : e.hasOnlyParameter parameter)
    (hnode : node ∈ e.nodes) : node.hasOnlyParameter parameter := by
  rw [hasOnlyParameter, List.all_eq_true] at h ⊢
  exact fun inner hinner => h inner (nodes_trans hnode hinner)

theorem hasOnlyParameter_child {e child : Expr} (h : e.hasOnlyParameter parameter)
    (hchild : child ∈ e.children) : child.hasOnlyParameter parameter :=
  hasOnlyParameter_of_mem_nodes h (mem_nodes.mpr (Or.inr ⟨child, hchild, self_mem_nodes child⟩))

theorem eq_of_hasOnlyParameter {name : String} {type : DataType}
    (h : (Expr.parameter name type).hasOnlyParameter parameter) : name = parameter := by
  simpa [hasOnlyParameter, nodes] using h

theorem any_isObject_child {e child : Expr} (h : e.any isObject = false)
    (hchild : child ∈ e.children) : child.any isObject = false := by
  rw [any_eq, Bool.or_eq_false_iff, List.any_eq_false] at h
  simpa using h.2 child hchild

theorem ne_append_self (qualifier text : String) : text ≠ qualifier ++ "." ++ text := by
  intro heq
  have hlength := congrArg String.length heq
  simp at hlength

theorem agree_columnOfPath_withAlias (hrules : rules.IsBare) {e : Expr}
    (h : e.hasOnlyParameter parameter) (leaf : String) (path : List String) :
    Agree (fun t t' => t'.text = qualifier ++ "." ++ t.text) (rules.columnOfPath leaf path e)
      ((rules.withAlias parameter qualifier).columnOfPath leaf path e) := by
  induction e generalizing path with
  | parameter name type =>
      obtain rfl := eq_of_hasOnlyParameter h
      refine .ok ?_
      change (rules.withAlias name qualifier).qualify name _ = _ ++ rules.qualify name _
      simp [qualify, withAlias, hrules.aliases, Dictionary.get?, Dictionary.insert]
  | member target name type ih => exact ih (hasOnlyParameter_child h List.mem_cons_self) _
  | unary op operand type ih =>
      cases op with
      | convert => exact ih (hasOnlyParameter_child h List.mem_cons_self) path
      | convertChecked => exact ih (hasOnlyParameter_child h List.mem_cons_self) path
      | typeAs => exact ih (hasOnlyParameter_child h List.mem_cons_self) path
      | _ => exact .error _
  | _ => exact .error _

/-- A node that begins with characters of its own keeps the alias from its columns. -/
theorem agree_of_opensItself (hqualifier : ∀ c ∈ qualifier.toList, c.isLower) {e : Expr}
    {position : Position} (hstarts : e.startsWithColumn = false)
    (hopens : ∀ t, LowersTo rules position e t → t.opensItself) :
    Agree (TakesAlias qualifier e) (e.lower rules position)
      (e.lower (rules.withAlias parameter qualifier) position) := by
  have hchars : ∀ c ∈ (qualifier ++ ".").toList, isOpening c = false := by
    intro c hc
    rw [String.toList_append, List.mem_append] at hc
    rcases hc with hc | hc
    · simp [isOpening, hqualifier c hc]
    · obtain rfl : c = '.' := List.mem_singleton.mp hc
      rfl
  have hclause : rules.clause = (rules.withAlias parameter qualifier).clause := rfl
  have hagree := agree_lower_of_congruence Sql.congruence_opensAlike (fun _ _ h => by cases h)
    (fun _ _ h => by cases h) (fun _ h => by cases h) hclause rfl rfl e position
  refine hagree.with_values.imp fun t t' h => ?_
  obtain ⟨ht, -, halike⟩ := h
  have hne := (halike (hopens t ht)).ne_append (by simp) hchars
  rw [← String.toList_append, Ne, String.toList_inj] at hne
  exact ⟨fun h => by simp [hstarts] at h, fun _ heq => absurd heq hne⟩

theorem TakesAlias.of_text_eq {e : Expr} (hstarts : e.startsWithColumn = false) {t t' : Sql}
    (htext : t'.text = t.text) : TakesAlias qualifier e t t' := by
  refine ⟨fun h => by simp [hstarts] at h, fun _ heq => ?_⟩
  exact absurd (htext.symm.trans heq) (ne_append_self qualifier t.text)

/-- A null test begins with its operand. -/
theorem TakesAlias.isNull {e operand : Expr} {t t' : Sql} (h : TakesAlias qualifier operand t t')
    (hstarts : e.startsWithColumn = operand.startsWithColumn) (hchild : operand ∈ e.children)
    (negated : Bool) : TakesAlias qualifier e (.isNull t negated) (.isNull t' negated) := by
  have htext : (Sql.isNull t' negated).text = qualifier ++ "." ++ (Sql.isNull t negated).text ↔
      t'.text = qualifier ++ "." ++ t.text := by
    rw [Sql.text_isNull, Sql.text_isNull, ← String.append_assoc, String.append_left_inj]
  rw [TakesAlias, htext, hstarts]
  exact ⟨h.1, fun hobject => h.2 (any_isObject_child hobject hchild)⟩

theorem TakesAlias.of_child {e operand : Expr} {t t' : Sql} (h : TakesAlias qualifier operand t t')
    (hstarts : e.startsWithColumn = operand.startsWithColumn) (hchild : operand ∈ e.children) :
    TakesAlias qualifier e t t' := by
  rw [TakesAlias, hstarts]
  exact ⟨h.1, fun hobject => h.2 (any_isObject_child hobject hchild)⟩

/-- Without the idioms a boolean member is lowered like any other. -/
theorem lower_member (h : rules.booleanIdioms = false) (target : Expr)
    (name : String) (type : DataType) (position : Position) :
    (Expr.member target name type).lower rules position =
      rules.lowerMember target name (target.lower rules .value) := by
  rw [lower, h, Bool.and_false, Bool.false_and]
  rfl

theorem agree_member_withAlias (hrules : rules.IsBare)
    (hqualifier : ∀ c ∈ qualifier.toList, c.isLower) {target : Expr}
    (h : target.hasOnlyParameter parameter) (name : String) (type : DataType)
    (position : Position)
    (htarget : Agree (TakesAlias qualifier target) (target.lower rules .value)
      (target.lower (rules.withAlias parameter qualifier) .value)) :
    Agree (TakesAlias qualifier (.member target name type))
      ((Expr.member target name type).lower rules position)
      ((Expr.member target name type).lower (rules.withAlias parameter qualifier) position) := by
  have hidioms : (rules.withAlias parameter qualifier).booleanIdioms = false :=
    hrules.booleanIdioms
  have hkeys : (rules.withAlias parameter qualifier).groupKeys = none := hrules.groupKeys
  by_cases hname : name = "HasValue"
  · subst hname
    rw [lower_member hrules.booleanIdioms, lower_member hidioms]
    refine htarget.map fun t t' ht => ht.isNull ?_ List.mem_cons_self true
    simp [startsWithColumn]
  by_cases hvalue : name = "Value" ∧ target.dataType.isNullable
  · obtain ⟨rfl, hnullable⟩ := hvalue
    rw [lower_member hrules.booleanIdioms, lower_member hidioms, lowerMember, lowerMember,
      if_neg hname, if_neg hname, if_pos (by simp [hnullable]), if_pos (by simp [hnullable])]
    refine htarget.imp fun t t' ht => ht.of_child ?_ List.mem_cons_self
    simp [startsWithColumn, hnullable]
  have hstarts : (Expr.member target name type).startsWithColumn = !isDerived target name := by
    rw [startsWithColumn, if_neg (by simpa [hname] using hvalue)]
  by_cases hderived : isDerived target name
  · refine agree_of_opensItself hqualifier (by rw [hstarts, hderived]; rfl) fun t ht => ?_
    cases ht.by_rule with
    | value _ hnullable _ => exact absurd ⟨rfl, hnullable⟩ hvalue
    | built hbuilt =>
        cases hbuilt with
        | member _ hplain _ =>
            rw [hderived] at hplain
            cases hplain
        | hasValue _ _ => exact absurd rfl hname
        | isTrue hidioms _ _ => simp [hrules.booleanIdioms] at hidioms
        | call hmethod _ _ _ => cases hmethod
        | property _ _ _ => rfl
  · rw [Bool.not_eq_true] at hderived
    rw [lower_member hrules.booleanIdioms, lower_member hidioms,
      lowerMember_of_not_isDerived hderived, lowerMember_of_not_isDerived hderived,
      memberColumn_of_no_groupKeys hrules.groupKeys, memberColumn_of_no_groupKeys hkeys]
    refine (agree_columnOfPath_withAlias hrules h name [name]).imp fun t t' ht => ⟨fun _ => ht, ?_⟩
    intro _ _
    rw [hstarts, hderived]
    rfl

theorem agree_binary_withAlias (hrules : rules.IsBare)
    (hqualifier : ∀ c ∈ qualifier.toList, c.isLower)
    (op : BinaryOp) {left right : Expr} (position : Position)
    (hleft : Agree (TakesAlias qualifier left) (left.lower rules .value)
      (left.lower (rules.withAlias parameter qualifier) .value))
    (hright : Agree (TakesAlias qualifier right) (right.lower rules .value)
      (right.lower (rules.withAlias parameter qualifier) .value)) :
    Agree (TakesAlias qualifier (.binary op left right))
      ((Expr.binary op left right).lower rules position)
      ((Expr.binary op left right).lower (rules.withAlias parameter qualifier) position) := by
  by_cases hnullRight : op.isEquality && right.isNullConstant
  · simp only [lower, if_pos hnullRight]
    refine hleft.map fun t t' ht => ht.isNull ?_ (by simp [children]) _
    rw [startsWithColumn, if_pos hnullRight]
  by_cases hnullLeft : op.isEquality && left.isNullConstant
  · simp only [lower, if_neg hnullRight, if_pos hnullLeft]
    refine hright.map fun t t' ht => ht.isNull ?_ (by simp [children]) _
    rw [startsWithColumn, if_neg hnullRight, if_pos hnullLeft]
  have hstarts : (Expr.binary op left right).startsWithColumn = false := by
    rw [startsWithColumn, if_neg hnullRight, if_neg hnullLeft]
  by_cases hobject : left.isObject
  · -- Equal keys of one member are written without a parenthesis, so nothing is said of them.
    have hclause : rules.clause = (rules.withAlias parameter qualifier).clause := rfl
    have hagree := (Expr.binary op left right).agree_lower_of_clause_eq hclause rfl rfl position
    refine hagree.imp fun t t' _ => ⟨fun h => by simp [hstarts] at h, fun hnone => ?_⟩
    have hleftNone : left.any isObject = false := any_isObject_child hnone (by simp [children])
    rw [any_eq, hobject] at hleftNone
    cases hleftNone
  · refine agree_of_opensItself hqualifier hstarts fun t ht => ?_
    cases ht.by_rule with
    | built hbuilt =>
        cases hbuilt with
        | isTrue hidioms _ _ => simp [hrules.booleanIdioms] at hidioms
        | call hmethod _ _ _ => cases hmethod
        | coalesce _ _ => rfl
        | nullTest hop hnull _ =>
            rcases hnull with ⟨hnull, -⟩ | ⟨hnull, -⟩
            · exact absurd (by rw [hop, hnull]; rfl) hnullRight
            · exact absurd (by rw [hop, hnull]; rfl) hnullLeft
        | keys _ _ _ _ => exact absurd rfl hobject
        | logical _ _ _ => rfl
        | operator _ _ _ _ => rfl

theorem opensItself_of_return {x : Except Failure Sql} {build : Sql → Sql} {t : Sql}
    (hbuild : ∀ s, (build s).opensItself) (h : (do return build (← x)) = Except.ok t) :
    t.opensItself := by
  obtain ⟨s, -, hpure⟩ := bind_eq_ok_iff.mp h
  rw [← Except.ok.inj hpure]
  exact hbuild s

/-- The alias before the finished text is the alias before its columns exactly if the text begins
with a column. -/
theorem agree_lower_withAlias (hrules : rules.IsBare)
    (hqualifier : ∀ c ∈ qualifier.toList, c.isLower) {e : Expr}
    (h : e.hasOnlyParameter parameter) (position : Position) :
    Agree (TakesAlias qualifier e) (e.lower rules position)
      (e.lower (rules.withAlias parameter qualifier) position) := by
  induction e generalizing position with
  | parameter name type =>
      obtain rfl := eq_of_hasOnlyParameter h
      refine .ok ⟨fun _ => ?_, fun _ _ => rfl⟩
      rw [withAlias, hrules.aliases]
      simp only [Dictionary.insert, Dictionary.get?, if_true]
      change qualifier ++ ".*" = qualifier ++ "." ++ "*"
      rw [String.append_assoc]
      rfl
  | member target name type ih =>
      have htarget := hasOnlyParameter_child h List.mem_cons_self
      exact agree_member_withAlias hrules hqualifier htarget name type position (ih htarget .value)
  | bareMember name type => exact .ok (.of_text_eq rfl rfl)
  | call target name args type =>
      refine agree_of_opensItself hqualifier rfl fun t ht => ?_
      obtain ⟨operands, rfl, -⟩ := lowerCall_eq_ok ht
      rfl
  | staticCall name args type =>
      refine agree_of_opensItself hqualifier rfl fun t ht => ?_
      obtain ⟨operands, rfl, -⟩ := lowerCall_eq_ok ht
      rfl
  | binary op left right ihleft ihright =>
      have hleft := hasOnlyParameter_child h List.mem_cons_self
      have hright := hasOnlyParameter_child h (List.mem_cons_of_mem left List.mem_cons_self)
      exact agree_binary_withAlias hrules hqualifier op position (ihleft hleft .value)
        (ihright hright .value)
  | unary op operand type ih =>
      have hoperand := ih (hasOnlyParameter_child h List.mem_cons_self)
      cases op with
      | convert => exact (hoperand .value).imp fun _ _ ht => ht.of_child rfl List.mem_cons_self
      | convertChecked =>
          exact (hoperand .value).imp fun _ _ ht => ht.of_child rfl List.mem_cons_self
      | typeAs => exact (hoperand .value).imp fun _ _ ht => ht.of_child rfl List.mem_cons_self
      | not =>
          refine agree_of_opensItself hqualifier rfl fun t ht => ?_
          rw [LowersTo, lower_not, if_neg (by simp [hrules.booleanIdioms])] at ht
          exact opensItself_of_return (fun _ => rfl) ht
      | negate =>
          refine agree_of_opensItself hqualifier rfl fun t ht => ?_
          exact opensItself_of_return (fun s => (rfl : (Sql.negate s).opensItself = true)) ht
      | arrayLength =>
          refine agree_of_opensItself hqualifier rfl fun t ht => ?_
          exact opensItself_of_return
            (fun s => (rfl : (Sql.call "ArrayLength" [s] false).opensItself = true)) ht
  | constant value =>
      refine (Agree.refl (value.literal rules.clause)).map fun text text' htext => ?_
      rw [htext]
      exact .of_text_eq rfl rfl
  | conditional test ifTrue ifFalse =>
      refine agree_of_opensItself hqualifier rfl fun t ht => ?_
      cases ht.by_rule with
      | built hbuilt =>
          cases hbuilt with
          | isTrue hidioms _ _ => simp [hrules.booleanIdioms] at hidioms
          | call hmethod _ _ _ => cases hmethod
          | conditional _ _ _ => rfl
  | object members => exact .error _
  | lambda params body ih =>
      exact (ih (hasOnlyParameter_child h List.mem_cons_self) position).imp fun _ _ ht =>
        ht.of_child rfl List.mem_cons_self
  | source name => exact .error _

end

end Expr

end StreamQuery
