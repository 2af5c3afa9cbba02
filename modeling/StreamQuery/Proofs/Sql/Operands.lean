import StreamQuery.Proofs.Sql.Delimited

/-!
# Operands of SQL expressions

The text of an operand is a unit, so that nothing outside it binds to a part of it, except for five
kinds of nodes that are written without parentheses of their own: negations, null tests, the
equality of a single pair, the search for a text, and literals of several words.
-/

namespace StreamQuery

open Lexeme

theorem toList_parenthesized (inner : String) :
    ("(" ++ inner ++ ")").toList = '(' :: (inner.toList ++ [')']) := by
  rw [String.toList_append, String.toList_append]
  rfl

namespace SqlFunction

/-- The template that is a comparison itself. -/
def comparingTemplate : String :=
  "INSTR(\x7b0\x7d, \x7b1\x7d) > 0"

/-- Whether a filled template is a unit, whatever it is filled with. -/
def isUnitTemplate (template : String) : Bool :=
  let frame := Piece.frame (slots template.toList)
  isUnit frame && (frame.head? = some .opening || .string ∉ frame.take 2)

/-- Templates are frames, have no slot without argument, and are units but for one. -/
theorem templates_of_mem_catalog : ∀ f ∈ catalog, ∀ template ∈ f.template,
    Piece.isFrame (slots template.toList) ∧
      (∀ index < 10, .hole index ∈ slots template.toList → index < slotCount template.toList) ∧
      (template = comparingTemplate ∨ isUnitTemplate template) := by
  decide +kernel

theorem frame_comparingTemplate :
    Piece.frame (slots comparingTemplate.toList) =
      [.word "INSTR".toList, .opening, .string, .sign ',', .sign ' ', .string, .closing] ++
        .sign ' ' :: [.sign '>', .sign ' ', .word "0".toList] := by
  decide +kernel

theorem isWord_sqlName {method : String} (h : isIdentifier method) :
    IsWord (sqlName method).toList := by
  have hcatalog : ∀ f ∈ catalog, f.sql.toList ≠ [] ∧ f.sql.toList.all isWordPart := by
    decide +kernel
  unfold sqlName
  cases hfind : find? method with
  | none => exact isWord_upper h
  | some f =>
      obtain ⟨hne, hparts⟩ := hcatalog f (List.mem_of_find?_eq_some hfind)
      exact ⟨hne, List.all_eq_true.mp hparts⟩

section

variable {args : List String} (hargs : ∀ arg ∈ args, IsOperand (lex arg.toList))

include hargs

theorem isOperand_argText {index : Nat} (hindex : index < args.length) :
    IsOperand (lex (argText args index)) := by
  rw [argText, List.getElem?_eq_getElem hindex]
  exact hargs _ (List.getElem_mem hindex)

theorem isUnit_renderCall_of_no_template {method : String} (hmethod : isIdentifier method)
    {onInstance : Bool} (h : callTemplate? method args.length onInstance = none) :
    isUnit (read (renderCall method args onInstance).toList) := by
  have hname := isWord_sqlName hmethod
  rw [renderCall_of_no_template h, String.toList_append]
  split
  · exact @isUnit_applied _ "*".toList hname (by decide)
  · have hinner : isBalanced (read (", ".toList.intercalate (args.map String.toList))) := by
      refine isBalanced_read_intercalate isSeparator_comma fun text htext => ?_
      obtain ⟨arg, harg, rfl⟩ := List.mem_map.mp htext
      exact hargs arg harg
    rw [toList_parenthesized, String.toList_intercalate]
    exact isUnit_applied hname hinner

/-- A call is a unit exactly if its template is not a comparison. -/
theorem isUnit_renderCall {method : String} (hmethod : isIdentifier method) {onInstance : Bool}
    (hkept : callKeepsSlots method args onInstance) :
    IsOperand (lex (renderCall method args onInstance).toList) ∧
      isUnit (read (renderCall method args onInstance).toList) =
        decide (callTemplate? method args.length onInstance ≠ some comparingTemplate) := by
  cases htemplate : callTemplate? method args.length onInstance with
  | none =>
      have hunit := isUnit_renderCall_of_no_template hargs hmethod htemplate
      exact ⟨.of_isUnit hunit, hunit⟩
  | some template =>
      obtain ⟨f, hfind, hsome⟩ := Option.bind_eq_some_iff.mp htemplate
      obtain ⟨hframe, hslots, hkind⟩ := templates_of_mem_catalog f
        (List.mem_of_find?_eq_some hfind) template (Option.filter_eq_some_iff.mp hsome).1
      rw [(wellSlotted_of_callTemplate htemplate).2] at hslots
      obtain ⟨hfills, hoperand⟩ := Piece.fills_read_write hframe fun index hindex =>
        isOperand_argText hargs (hslots index (lt_ten_of_mem_slots hindex) hindex)
      rw [(renderCall_eq_fillOnce_iff htemplate).mpr hkept, String.toList_ofList, fillOnce]
      refine ⟨hoperand, ?_⟩
      by_cases hcomparing : template = comparingTemplate
      · subst hcomparing
        rw [frame_comparingTemplate] at hfills
        rw [hfills.not_isUnit (by decide)]
        rfl
      · obtain ⟨hunit, hfixed⟩ := Bool.and_eq_true_iff.mp (hkind.resolve_left hcomparing)
        rw [hfills.isUnit (by simpa using hfixed) hunit]
        simpa using hcomparing

end

end SqlFunction

namespace Sql

/-- The operands of comparisons, arithmetic and null tests. -/
def operands : Sql → List Sql
  | .binary op left right => if op = .and ∨ op = .or then [] else [left, right]
  | .keyEquality pairs => (Sql.keyEquality pairs).children
  | .negate operand => [operand]
  | .isNull operand _ => [operand]
  | _ => []

/-- Whether the node is written without parentheses of its own. -/
def isOpen : Sql → Bool
  | .literal text => text.toList.head? ≠ some '\x27' && ' ' ∈ text.toList
  | .call method args onInstance =>
    SqlFunction.callTemplate? method args.length onInstance = some SqlFunction.comparingTemplate
  | .keyEquality pairs => pairs.length = 1
  | .not _ => true
  | .negate operand => !isNumber (read operand.text.toList)
  | .isNull _ _ => true
  | _ => false

/-- A node brings nothing into the text but identifiers, literals, and columns and names of methods
of the given kinds. -/
def Brings (column method : String → Prop) : Sql → Prop
  | .star qualifier => ∀ name ∈ qualifier, isIdentifier name
  | .column name => column name
  | .literal text => ∃ value : Constant, value.Written text.toList
  | .call name _ _ => method name
  | _ => True

/-- The columns of a node are units, and the names of its methods are identifiers. -/
def IsSound (t : Sql) : Prop :=
  t.Brings (fun name => isUnit (read name.toList)) fun method => isIdentifier method

/-- The text is read as an operand, and it is a unit unless it is open. -/
structure IsDelimited (t : Sql) : Prop where
  operand : IsOperand (lex t.text.toList)
  isUnit_eq : isUnit (read t.text.toList) = !t.isOpen

theorem argsKeepSlots_eq_all (args : List Sql) : argsKeepSlots args = args.all keepsSlots := by
  induction args with
  | nil => rfl
  | cons head tail ih => rw [argsKeepSlots, List.all_cons, ih]

theorem pairsKeepSlots_eq_all (pairs : List (Sql × Sql)) :
    pairsKeepSlots pairs = (Sql.keyEquality pairs).children.all keepsSlots := by
  rw [children_keyEquality]
  induction pairs with
  | nil => rfl
  | cons head tail ih =>
      obtain ⟨left, right⟩ := head
      rw [pairsKeepSlots, List.flatMap_cons, List.all_append, ih]
      simp [Bool.and_assoc]

theorem keepsSlots_of_child {t child : Sql} (h : t.keepsSlots) (hchild : child ∈ t.children) :
    child.keepsSlots := by
  have hall : t.children.all keepsSlots := by
    cases t with
    | call method args onInstance =>
        rw [keepsSlots, Bool.and_eq_true, argsKeepSlots_eq_all] at h
        exact h.2
    | keyEquality pairs => rwa [keepsSlots, pairsKeepSlots_eq_all] at h
    | star qualifier => rfl
    | column name => rfl
    | literal text => rfl
    | _ => simpa [children, keepsSlots] using h
  exact List.all_eq_true.mp hall child hchild

theorem IsDelimited.of_isUnit {t : Sql} (hunit : isUnit (read t.text.toList))
    (hopen : t.isOpen = false) : t.IsDelimited where
  operand := .of_isUnit hunit
  isUnit_eq := by rw [hunit, hopen]; rfl

theorem isDelimited_star {qualifier : Option String} (h : ∀ name ∈ qualifier, isIdentifier name) :
    IsDelimited (.star qualifier) := by
  refine .of_isUnit ?_ rfl
  cases qualifier with
  | none => decide
  | some name =>
      have hword : IsWord (name.toList ++ ".*".toList) := by
        refine ⟨by simp, List.forall_mem_append.mpr ⟨?_, List.all_eq_true.mp (by decide)⟩⟩
        exact (isWord_of_isIdentifier (h name rfl)).isWordPart
      change isUnit (read (name ++ ".*").toList)
      rw [String.toList_append]
      exact hword.isUnit

section Literal

open Literal (isNumeral)

variable {word : List Char} (hword : isNumeral word ∨ word = "inf".toList)

include hword

theorem isUnit_signed (negative : Bool) : isUnit (read (Literal.sign negative ++ word)) := by
  cases negative with
  | false => exact (IsWord.of_number hword).isUnit
  | true =>
      change isUnit (mark .operand (lex ('-' :: word)))
      rw [lex_cons (by decide)]
      change (decide ('-' = '-') && isNumber (read word)) = true
      rw [(IsWord.of_number hword).read]
      change (Literal.isNumeral word || word = "inf".toList) = true
      simpa using hword

theorem blank_not_mem_signed (negative : Bool) : ' ' ∉ Literal.sign negative ++ word := by
  have hblank : ' ' ∉ word := fun hmem => by
    have hpart := (IsWord.of_number hword).isWordPart ' ' hmem
    cases hpart
  cases negative with
  | false => exact hblank
  | true => simpa [Literal.sign] using hblank

theorem not_quoted_signed (negative : Bool) (rest : List Char) :
    (Literal.sign negative ++ (word ++ rest)).head? ≠ some '\x27' := by
  cases negative with
  | true => simp [Literal.sign]
  | false =>
      obtain ⟨c, more, rfl⟩ := List.exists_cons_of_ne_nil (IsWord.of_number hword).ne_nil
      rintro heq
      have hpart := (IsWord.of_number hword).isWordPart c List.mem_cons_self
      obtain rfl := Option.some.inj heq
      cases hpart

end Literal

theorem isDelimited_literal {text : String} {value : Constant} (h : value.Written text.toList) :
    IsDelimited (.literal text) := by
  have hunit : isUnit (read text.toList) → (text.toList.head? = some '\x27' ∨ ' ' ∉ text.toList) →
      IsDelimited (.literal text) := by
    intro hunit hwhole
    refine .of_isUnit hunit ?_
    rw [isOpen, Bool.and_eq_false_iff]
    simpa using hwhole
  generalize htext : text.toList = characters at h hunit
  cases h with
  | null => exact hunit (by decide) (Or.inr (by decide))
  | bool value => cases value <;> exact hunit (by decide) (Or.inr (by decide))
  | string value =>
      refine hunit ?_ (Or.inl ?_)
      · rw [Lexeme.read_quoted]
        rfl
      · rw [quoted, String.toList_ofList]
        rfl
  | notNumber h => exact hunit (by decide) (Or.inr (by decide))
  | number negative hvalue hword =>
      exact hunit (isUnit_signed hword negative) (Or.inr (blank_not_mem_signed hword negative))
  | @duration word value negative hword unit =>
      have hkeyword : startsWhen (lex (' ' :: unit.keyword.toList)) = false ∧
          isBalanced (mark .operator (lex (' ' :: unit.keyword.toList))) ∧
          placeAfter .operator (lex (' ' :: unit.keyword.toList)) = .operator := by
        cases unit <;> decide
      obtain ⟨hwhen, hbalanced, hends⟩ := hkeyword
      have hnumber : IsOperand (lex (Literal.sign negative ++ word)) :=
        .of_isUnit (isUnit_signed (Or.inl hword) negative)
      have hread : read (Literal.sign negative ++ (word ++ ' ' :: unit.keyword.toList)) =
          read (Literal.sign negative ++ word) ++
            mark .operator (lex (' ' :: unit.keyword.toList)) := by
        rw [← List.append_assoc]
        exact read_append hnumber rfl hwhen
      constructor
      · change IsOperand (lex text.toList)
        rw [htext, ← List.append_assoc]
        exact hnumber.append rfl hwhen hbalanced hends
      · have hquoted := not_quoted_signed (Or.inl hword) negative (' ' :: unit.keyword.toList)
        have hblank : ' ' ∈ Literal.sign negative ++ (word ++ ' ' :: unit.keyword.toList) := by simp
        change isUnit (read text.toList) = !(isOpen (.literal text))
        rw [isOpen, htext, hread, lex_cons (by decide), decide_eq_true hquoted,
          decide_eq_true hblank]
        exact not_isUnit_of_blank hnumber.balanced _

section Layout

open Piece (fixed write_append write_fixed)

/-- The text of a node with holes for its children, if it has the same fixed parts whatever they
are. A negation is left out: its operand is not set apart. -/
def layout? : Sql → Option (List (Piece Sql))
  | .binary op left right => some (fixed "(" ++ (.hole left :: (fixed " " ++ (fixed op.symbol ++
      (fixed " " ++ (.hole right :: fixed ")"))))))
  | .keyEquality [(left, right)] => some (.hole left :: (fixed " = " ++ [.hole right]))
  | .not operand => some (fixed "NOT (" ++ (.hole operand :: fixed ")"))
  | .isNull operand negated =>
    some (.hole operand :: fixed (if negated then " IS NOT NULL" else " IS NULL"))
  | .case test ifTrue ifFalse => some (fixed "CASE WHEN " ++ (.hole test :: (fixed " THEN " ++
      (.hole ifTrue :: (fixed " ELSE " ++ (.hole ifFalse :: fixed " END"))))))
  | _ => none

variable {t : Sql} {pieces : List (Piece Sql)} (hlayout : t.layout? = some pieces)

include hlayout

/-- The layout gives the text of the node, and its holes are the children. -/
theorem layout?_spec : t.text.toList = Piece.write (fun s => s.text.toList) pieces ∧
    ∀ s, .hole s ∈ pieces ↔ s ∈ t.children := by
  cases t with
  | binary op left right =>
      obtain rfl := Option.some.inj hlayout
      refine ⟨?_, by simp [fixed, children]⟩
      simp only [text_binary, String.toList_append, write_append, write_fixed, Piece.write,
        List.append_assoc]
  | keyEquality pairs =>
      obtain ⟨⟨left, right⟩, rfl⟩ : ∃ pair, pairs = [pair] := by
        cases pairs with
        | nil => cases hlayout
        | cons pair rest =>
            cases rest with
            | nil => exact ⟨pair, rfl⟩
            | cons next rest => cases hlayout
      obtain rfl := Option.some.inj hlayout
      refine ⟨?_, by simp [fixed, children]⟩
      change (left.text ++ " = " ++ right.text).toList = _
      simp only [String.toList_append, write_append, write_fixed, Piece.write, List.append_assoc,
        List.append_nil]
  | not operand =>
      obtain rfl := Option.some.inj hlayout
      refine ⟨?_, by simp [fixed, children]⟩
      simp only [text_not, String.toList_append, write_append, write_fixed, Piece.write,
        List.append_assoc]
  | isNull operand negated =>
      obtain rfl := Option.some.inj hlayout
      refine ⟨?_, by simp [fixed, children]⟩
      rw [text_isNull, String.toList_append, Piece.write, write_fixed]
  | case test ifTrue ifFalse =>
      obtain rfl := Option.some.inj hlayout
      refine ⟨?_, by simp [fixed, children]⟩
      simp only [text_case, String.toList_append, write_append, write_fixed, Piece.write,
        List.append_assoc]
  | _ => cases hlayout

variable (hframe : Piece.isFrame pieces) (hchildren : ∀ child ∈ t.children, child.IsDelimited)

include hframe hchildren

theorem fills_of_layout? : Fills (isBalanced ·) (Piece.frame pieces) (read t.text.toList) ∧
    IsOperand (lex t.text.toList) := by
  obtain ⟨htext, hholes⟩ := layout?_spec hlayout
  rw [htext]
  exact Piece.fills_read_write hframe fun s hs => (hchildren s ((hholes s).mp hs)).operand

theorem isDelimited_of_isUnit (hopen : t.isOpen = false) (hunit : isUnit (Piece.frame pieces))
    (hfixed : (Piece.frame pieces).head? = some .opening ∨
      .string ∉ (Piece.frame pieces).take 2) : t.IsDelimited :=
  .of_isUnit ((fills_of_layout? hlayout hframe hchildren).1.isUnit hfixed hunit) hopen

theorem isDelimited_of_blank (hopen : t.isOpen) (before after : List Lexeme)
    (hblank : Piece.frame pieces = before ++ .sign ' ' :: after) (hbefore : isBalanced before) :
    t.IsDelimited := by
  obtain ⟨hfills, hoperand⟩ := fills_of_layout? hlayout hframe hchildren
  rw [hblank] at hfills
  refine ⟨hoperand, ?_⟩
  rw [hfills.not_isUnit hbefore, hopen]
  rfl

end Layout

section Kinds

variable {left right operand : Sql}

theorem isDelimited_binary (op : SqlOp)
    (h : ∀ child ∈ (Sql.binary op left right).children, child.IsDelimited) :
    (Sql.binary op left right).IsDelimited := by
  refine isDelimited_of_isUnit rfl ?_ h rfl ?_ (Or.inl rfl)
  · cases op with
    | notEqual spelling => cases spelling <;> rfl
    | _ => rfl
  · cases op with
    | notEqual spelling => cases spelling <;> rfl
    | _ => rfl

theorem isDelimited_case {test ifTrue ifFalse : Sql}
    (h : ∀ child ∈ (Sql.case test ifTrue ifFalse).children, child.IsDelimited) :
    (Sql.case test ifTrue ifFalse).IsDelimited := by
  refine isDelimited_of_isUnit rfl rfl h rfl rfl (Or.inr ?_)
  change Lexeme.string ∉ [.caseWord, .sign ' ']
  decide

theorem isDelimited_not (h : ∀ child ∈ (Sql.not operand).children, child.IsDelimited) :
    (Sql.not operand).IsDelimited :=
  isDelimited_of_blank rfl rfl h rfl [.word "NOT".toList] [.opening, .string, .closing] rfl rfl

theorem isDelimited_isNull {negated : Bool}
    (h : ∀ child ∈ (Sql.isNull operand negated).children, child.IsDelimited) :
    (Sql.isNull operand negated).IsDelimited := by
  cases negated with
  | true =>
      exact isDelimited_of_blank rfl rfl h rfl [.string]
        [.word "IS".toList, .sign ' ', .word "NOT".toList, .sign ' ', .word "NULL".toList] rfl rfl
  | false =>
      exact isDelimited_of_blank rfl rfl h rfl [.string]
        [.word "IS".toList, .sign ' ', .word "NULL".toList] rfl rfl

theorem isDelimited_negate (h : operand.IsDelimited) : (Sql.negate operand).IsDelimited := by
  have hlex : lex (Sql.negate operand).text.toList = .sign '-' :: lex operand.text.toList := by
    rw [text_negate, String.toList_append]
    exact lex_cons (by decide) _
  have hread : read (Sql.negate operand).text.toList = .sign '-' :: read operand.text.toList := by
    change mark .operand (lex (Sql.negate operand).text.toList) = _
    rw [hlex]
    rfl
  refine ⟨⟨?_, ?_⟩, ?_⟩
  · change isBalanced (read (Sql.negate operand).text.toList)
    rw [hread]
    exact @isBalanced_append [.sign '-'] _ rfl h.operand.balanced
  · rw [hlex]
    exact h.operand.ends
  · rw [hread, isOpen, Bool.not_not]
    rfl

theorem isDelimited_pair
    (h : ∀ child ∈ (Sql.keyEquality [(left, right)]).children, child.IsDelimited) :
    (Sql.keyEquality [(left, right)]).IsDelimited :=
  isDelimited_of_blank rfl rfl h rfl [.string] [.sign '=', .sign ' ', .string] rfl rfl

theorem isOperand_pairTexts {pairs : List (Sql × Sql)}
    (h : ∀ child ∈ (Sql.keyEquality pairs).children, child.IsDelimited) :
    ∀ text ∈ (pairTexts pairs).map String.toList, IsOperand (lex text) := by
  rw [children_keyEquality] at h
  induction pairs with
  | nil => exact fun text htext => by cases htext
  | cons pair rest ih =>
      obtain ⟨left, right⟩ := pair
      obtain ⟨hpair, hrest⟩ := List.forall_mem_append.mp h
      rw [pairTexts, List.map_cons, List.forall_mem_cons]
      exact ⟨(isDelimited_pair hpair).operand, ih hrest⟩

theorem conjunction_of_length_ne_one {pairs : List (Sql × Sql)} (h : pairs.length ≠ 1) :
    conjunction (pairTexts pairs) =
      "(" ++ String.intercalate " AND " (pairTexts pairs) ++ ")" := by
  cases pairs with
  | nil => rfl
  | cons first rest =>
      cases rest with
      | nil => exact absurd rfl h
      | cons second rest => rfl

theorem isDelimited_keyEquality {pairs : List (Sql × Sql)}
    (h : ∀ child ∈ (Sql.keyEquality pairs).children, child.IsDelimited) :
    (Sql.keyEquality pairs).IsDelimited := by
  by_cases hlength : pairs.length = 1
  · obtain ⟨⟨left, right⟩, rfl⟩ := List.length_eq_one_iff.mp hlength
    exact isDelimited_pair h
  · refine .of_isUnit ?_ (decide_eq_false hlength)
    rw [text_keyEquality, conjunction_of_length_ne_one hlength, toList_parenthesized,
      String.toList_intercalate]
    refine isUnit_parenthesized ?_
    exact isBalanced_read_intercalate isSeparator_and (isOperand_pairTexts h)

theorem argTexts_eq_map (args : List Sql) : argTexts args = args.map text := by
  induction args with
  | nil => rfl
  | cons head tail ih => rw [argTexts, List.map_cons, ih]

theorem mem_argTexts {args : List Sql} {text : String} (h : text ∈ argTexts args) :
    ∃ arg ∈ args, text = arg.text := by
  rw [argTexts_eq_map] at h
  obtain ⟨arg, harg, rfl⟩ := List.mem_map.mp h
  exact ⟨arg, harg, rfl⟩

theorem length_argTexts (args : List Sql) : (argTexts args).length = args.length := by
  rw [argTexts_eq_map, List.length_map]

theorem isDelimited_call {method : String} (hmethod : isIdentifier method) {args : List Sql}
    (hargs : ∀ arg ∈ args, arg.IsDelimited) {onInstance : Bool}
    (hkept : SqlFunction.callKeepsSlots method (argTexts args) onInstance) :
    (Sql.call method args onInstance).IsDelimited := by
  have htexts : ∀ text ∈ argTexts args, IsOperand (lex text.toList) := by
    intro text htext
    obtain ⟨arg, harg, rfl⟩ := mem_argTexts htext
    exact (hargs arg harg).operand
  obtain ⟨hoperand, hunit⟩ := SqlFunction.isUnit_renderCall htexts hmethod hkept
  refine ⟨hoperand, hunit.trans ?_⟩
  rw [isOpen, length_argTexts, decide_not]

end Kinds

/-- A tree whose nodes bring in nothing but names, units and literals is delimited. -/
theorem isDelimited {t : Sql} (hsound : ∀ node ∈ t.nodes, node.IsSound) (hkept : t.keepsSlots) :
    t.IsDelimited := by
  induction t using children_induction with
  | step t ih =>
      have hself : t.IsSound := hsound t (self_mem_nodes t)
      have hchildren : ∀ child ∈ t.children, child.IsDelimited := fun child hchild =>
        ih child hchild (nodes_of_child hsound hchild) (keepsSlots_of_child hkept hchild)
      cases t with
      | star qualifier => exact isDelimited_star hself
      | column name => exact .of_isUnit hself rfl
      | literal text =>
          obtain ⟨value, hvalue⟩ := hself
          exact isDelimited_literal hvalue
      | call method args onInstance =>
          rw [keepsSlots, Bool.and_eq_true] at hkept
          exact isDelimited_call hself hchildren hkept.1
      | binary op left right => exact isDelimited_binary op hchildren
      | keyEquality pairs => exact isDelimited_keyEquality hchildren
      | not operand => exact isDelimited_not hchildren
      | negate operand => exact isDelimited_negate (hchildren operand (by simp [children]))
      | isNull operand negated => exact isDelimited_isNull hchildren
      | case test ifTrue ifFalse => exact isDelimited_case hchildren

end Sql

end StreamQuery
