import StreamQuery.Proofs.Sql.Operands

/-!
# Comments in SQL text

Two minus signs that stand together outside strings open a comment, and the rest of a statement is
lost. Fixed text keeps a minus sign apart from what surrounds it, in templates as well, and literals
have no minus sign after their first character. That leaves negations, which are written without
parentheses, and the texts of columns: a text opens a comment exactly if one of its columns does or
if a negation stands before a text that begins with a minus sign itself.
-/

namespace StreamQuery

namespace Token

/-- Whether two minus signs stand together. -/
def doublesMinus : List Token → Bool
  | [] => false
  | token :: rest =>
    token = .char '-' && rest.head? = some (.char '-') || doublesMinus rest

/-- Whether two minus signs stand together outside strings. -/
def opensComment (text : List Char) : Bool :=
  doublesMinus (read text)

/-- Whether a text before this one neither goes on in it as a string nor meets a minus sign. -/
def standsApart (text : List Char) : Bool :=
  text.head? ≠ some '\x27' && text.head? ≠ some '-'

/-- Whether a text has neither strings nor minus signs. -/
def isUnsigned (text : List Char) : Bool :=
  text.all fun c => c ≠ '\x27' && c ≠ '-'

theorem isUnsigned_of_forall {p : Char → Bool} (hquote : p '\x27' = false) (hminus : p '-' = false)
    {text : List Char} (h : ∀ c ∈ text, p c) : isUnsigned text := by
  rw [isUnsigned, List.all_eq_true]
  intro c hc
  rw [Bool.and_eq_true, decide_eq_true_eq, decide_eq_true_eq]
  constructor
  · rintro rfl
    exact absurd (h _ hc) (by rw [hquote]; decide)
  · rintro rfl
    exact absurd (h _ hc) (by rw [hminus]; decide)

theorem doublesMinus_append {tokens rest : List Token} (hrest : rest.head? ≠ some (.char '-')) :
    doublesMinus (tokens ++ rest) = (doublesMinus tokens || doublesMinus rest) := by
  induction tokens with
  | nil => rfl
  | cons token tokens ih =>
      have hhead : (tokens ++ rest).head? = some (.char '-') ↔
          tokens.head? = some (.char '-') := by
        cases tokens with
        | nil => simpa using hrest
        | cons next tokens => rfl
      rw [List.cons_append, doublesMinus, doublesMinus, ih, Bool.or_assoc, decide_eq_decide.mpr hhead]

theorem head?_ne_of_standsApart {text : List Char} (h : standsApart text) :
    text.head? ≠ some '-' :=
  of_decide_eq_true (Bool.and_eq_true_iff.mp h).2

theorem head?_append_eq_minus_iff {rest : List Char} (hrest : standsApart rest)
    (text : List Char) : (text ++ rest).head? = some '-' ↔ text.head? = some '-' := by
  cases text with
  | nil => simpa using head?_ne_of_standsApart hrest
  | cons c text => rfl

theorem standsApart_append {text rest : List Char} (htext : isUnsigned text)
    (hrest : standsApart rest) : standsApart (text ++ rest) := by
  cases text with
  | nil => exact hrest
  | cons c text =>
      rw [isUnsigned, List.all_cons, Bool.and_eq_true] at htext
      simpa [standsApart] using htext.1

/-- What is read of an open string begins with a string. -/
theorem head?_readFrom_ne (c : Char) {opened : Option (List Char)} (hopened : opened.isSome)
    (text : List Char) : (readFrom opened text).head? ≠ some (.char c) := by
  fun_induction readFrom opened text with
  | case1 => cases hopened
  | case2 rest ih => cases hopened
  | case3 d rest hd ih => cases hopened
  | case4 opened => simp
  | case5 opened rest ih => exact ih rfl
  | case6 opened rest hdouble ih => simp
  | case7 opened d rest hdouble hd ih => exact ih rfl

theorem head?_read_eq_minus_iff {text : List Char} :
    (read text).head? = some (.char '-') ↔ text.head? = some '-' := by
  cases text with
  | nil => simp [read, readFrom]
  | cons c text =>
      by_cases hc : c = '\x27'
      · subst hc
        simpa [read, readFrom] using @head?_readFrom_ne '-' (some []) rfl text
      · rw [read_cons_of_ne hc]
        simp

/-- The strings of the text are closed, and it opens a comment exactly if `p`. -/
structure Opens (text : List Char) (p : Prop) : Prop where
  closed : ∀ s, .unclosed s ∉ read text
  opensComment_iff : opensComment text ↔ p

namespace Opens

variable {text rest : List Char} {p q : Prop}

theorem congr (h : Opens text p) (hiff : p ↔ q) : Opens text q :=
  ⟨h.closed, h.opensComment_iff.trans hiff⟩

theorem self (h : Opens text p) : Opens text (opensComment text) :=
  ⟨h.closed, Iff.rfl⟩

theorem nil : Opens [] False :=
  ⟨by simp [read, readFrom], by simp [opensComment, read, readFrom, doublesMinus]⟩

theorem cons {c : Char} (hc : c ≠ '\x27') (h : Opens text p) :
    Opens (c :: text) (c = '-' ∧ text.head? = some '-' ∨ p) where
  closed s := by simpa [read_cons_of_ne hc] using h.closed s
  opensComment_iff := by
    have hrest : doublesMinus (read text) ↔ p := h.opensComment_iff
    rw [opensComment, read_cons_of_ne hc, doublesMinus, Bool.or_eq_true, hrest, Bool.and_eq_true,
      decide_eq_true_eq, decide_eq_true_eq, head?_read_eq_minus_iff, Token.char.injEq]

theorem append (h : Opens text p) (hapart : standsApart rest) (hrest : Opens rest q) :
    Opens (text ++ rest) (p ∨ q) := by
  have hread : read (text ++ rest) = read text ++ read rest :=
    readFrom_append (Bool.and_eq_true_iff.mp hapart).1 none text h.closed
  refine ⟨fun s hs => ?_, ?_⟩
  · rcases List.mem_append.mp (hread ▸ hs) with hs | hs
    · exact h.closed s hs
    · exact hrest.closed s hs
  · have hhead : (read rest).head? ≠ some (.char '-') := by
      rw [ne_eq, head?_read_eq_minus_iff]
      exact head?_ne_of_standsApart hapart
    rw [opensComment, hread, doublesMinus_append hhead, Bool.or_eq_true]
    exact or_congr h.opensComment_iff hrest.opensComment_iff

theorem unsigned_append {before : List Char} (hbefore : isUnsigned before) (h : Opens text p) :
    Opens (before ++ text) p := by
  induction before with
  | nil => exact h
  | cons c before ih =>
      rw [isUnsigned, List.all_cons, Bool.and_eq_true, Bool.and_eq_true, decide_eq_true_eq,
        decide_eq_true_eq] at hbefore
      obtain ⟨⟨hquote, hminus⟩, hbefore⟩ := hbefore
      exact ((ih hbefore).cons hquote).congr (by simp [hminus])

theorem of_isUnsigned (h : isUnsigned text) : Opens text False := by
  simpa using nil.unsigned_append h

theorem parenthesized {separator : List Char} (hseparator : isUnsigned separator)
    (hne : separator ≠ []) {texts : List (List Char)}
    (h : ∀ text ∈ texts, Opens text (opensComment text)) :
    Opens ('(' :: (separator.intercalate texts ++ [')'])) (∃ text ∈ texts, opensComment text) := by
  suffices hlist : Opens (separator.intercalate texts ++ [')'])
      (∃ text ∈ texts, opensComment text) from @unsigned_append _ _ ['('] rfl hlist
  induction texts with
  | nil => exact (of_isUnsigned rfl).congr (by simp)
  | cons text texts ih =>
      obtain ⟨htext, htexts⟩ := List.forall_mem_cons.mp h
      cases texts with
      | nil =>
          rw [List.intercalate_singleton]
          exact (htext.append rfl (of_isUnsigned rfl)).congr (by simp)
      | cons next texts =>
          have hapart : standsApart
              (separator ++ (separator.intercalate (next :: texts) ++ [')'])) := by
            obtain ⟨c, separator, rfl⟩ := List.exists_cons_of_ne_nil hne
            rw [isUnsigned, List.all_cons, Bool.and_eq_true] at hseparator
            simpa [standsApart] using hseparator.1
          rw [List.intercalate_cons_cons, List.append_assoc, List.append_assoc]
          refine (htext.append hapart ((ih htexts).unsigned_append hseparator)).congr ?_
          exact (List.exists_mem_cons_iff (opensComment · = true) text (next :: texts)).symm

end Opens

end Token

namespace Piece

open Token (Opens opensComment)

variable {α : Type}

/-- Whether a hole or a minus sign before these pieces is set apart from them. -/
def standsApart : List (Piece α) → Bool
  | [] => true
  | .char c :: _ => c ≠ '\x27' && c ≠ '-'
  | .hole _ :: _ => false

/-- Whether all holes and minus signs are set apart from what follows. -/
def keepsApart : List (Piece α) → Bool
  | [] => true
  | .char c :: rest => c ≠ '\x27' && (c ≠ '-' || standsApart rest) && keepsApart rest
  | .hole _ :: rest => standsApart rest && keepsApart rest

theorem standsApart_write {pieces : List (Piece α)} (h : standsApart pieces)
    (fill : α → List Char) : Token.standsApart (write fill pieces) := by
  cases pieces with
  | nil => rfl
  | cons piece rest =>
      cases piece with
      | char c =>
          rw [standsApart, Bool.and_eq_true, decide_eq_true_eq, decide_eq_true_eq] at h
          simpa [write, Token.standsApart] using h
      | hole place => cases h

/-- A filled text opens a comment exactly if something that it is filled with does. -/
theorem opens_write {fill : α → List Char} {pieces : List (Piece α)} (hapart : keepsApart pieces)
    (hholes : ∀ place, .hole place ∈ pieces → Opens (fill place) (opensComment (fill place))) :
    Opens (write fill pieces) (∃ place, .hole place ∈ pieces ∧ opensComment (fill place)) := by
  induction pieces with
  | nil => exact Opens.nil.congr (by simp)
  | cons piece rest ih =>
      have hrest : keepsApart rest →
          Opens (write fill rest) (∃ place, .hole place ∈ rest ∧ opensComment (fill place)) :=
        fun hapart => ih hapart fun place hplace => hholes place (List.mem_cons_of_mem _ hplace)
      cases piece with
      | char c =>
          rw [keepsApart, Bool.and_eq_true, Bool.and_eq_true, decide_eq_true_eq] at hapart
          obtain ⟨⟨hquote, hminus⟩, hapart⟩ := hapart
          have hsingle : ¬(c = '-' ∧ (write fill rest).head? = some '-') := by
            rintro ⟨rfl, hhead⟩
            have hstands := standsApart_write (by simpa using hminus) fill
            exact Token.head?_ne_of_standsApart hstands hhead
          exact ((hrest hapart).cons hquote).congr (by simp [hsingle])
      | hole place =>
          obtain ⟨hstands, hapart⟩ := Bool.and_eq_true_iff.mp hapart
          have hplace := hholes place List.mem_cons_self
          refine (hplace.append (standsApart_write hstands fill) (hrest hapart)).congr ?_
          simp only [List.mem_cons, Piece.hole.injEq, or_and_right, exists_or, exists_eq_left]

end Piece

namespace SqlFunction

open Token (Opens opensComment isUnsigned)

theorem isUnsigned_sqlName {method : String} (h : isIdentifier method) :
    isUnsigned (sqlName method).toList := by
  have hcatalog : ∀ f ∈ catalog, isUnsigned f.sql.toList := by
    decide +kernel
  unfold sqlName
  cases hfind : find? method with
  | none => exact Token.isUnsigned_of_forall rfl rfl (isIdentifierChar_of_mem_upper h)
  | some f => exact hcatalog f (List.mem_of_find?_eq_some hfind)

/-- Templates keep minus signs apart, begin with none, and have a slot for every argument. -/
theorem keepsApart_of_mem_catalog : ∀ f ∈ catalog, ∀ template ∈ f.template,
    Piece.keepsApart (slots template.toList) ∧ Piece.standsApart (slots template.toList) ∧
      ∀ index < slotCount template.toList, .hole index ∈ slots template.toList := by
  decide +kernel

theorem keepsApart_of_callTemplate {method template : String} {argCount : Nat} {onInstance : Bool}
    (h : callTemplate? method argCount onInstance = some template) :
    Piece.keepsApart (slots template.toList) ∧ Piece.standsApart (slots template.toList) ∧
      ∀ index < argCount, .hole index ∈ slots template.toList := by
  obtain ⟨f, hfind, htemplate⟩ := Option.bind_eq_some_iff.mp h
  rw [← (wellSlotted_of_callTemplate h).2]
  exact keepsApart_of_mem_catalog f (List.mem_of_find?_eq_some hfind) template
    (Option.filter_eq_some_iff.mp htemplate).1

section

variable {args : List String} {method : String} {onInstance : Bool}
  (hargs : ∀ arg ∈ args, Opens arg.toList (opensComment arg.toList))
  (hmethod : isIdentifier method) (hkept : callKeepsSlots method args onInstance)

include hmethod hkept in
theorem standsApart_renderCall :
    Token.standsApart (renderCall method args onInstance).toList := by
  cases htemplate : callTemplate? method args.length onInstance with
  | some template =>
      rw [(renderCall_eq_fillOnce_iff htemplate).mpr hkept, String.toList_ofList]
      exact Piece.standsApart_write (keepsApart_of_callTemplate htemplate).2.1 _
  | none =>
      rw [renderCall_of_no_template htemplate, String.toList_append]
      refine Token.standsApart_append (isUnsigned_sqlName hmethod) ?_
      split
      · rfl
      · rw [toList_parenthesized]
        rfl

include hargs

theorem opens_argText {index : Nat} (hindex : index < 10) :
    Opens (argText args index) (∃ arg ∈ args[index]?, opensComment arg.toList) := by
  have hslot : ∀ index < 10, isUnsigned (slotText index) := by decide
  unfold argText
  cases hget : args[index]? with
  | none => exact (Opens.of_isUnsigned (hslot index hindex)).congr (by simp)
  | some arg => exact (hargs arg (List.mem_of_getElem? hget)).congr (by simp)

include hmethod hkept

/-- A call opens a comment exactly if an argument does. -/
theorem opens_renderCall :
    Opens (renderCall method args onInstance).toList (∃ arg ∈ args, opensComment arg.toList) := by
  cases htemplate : callTemplate? method args.length onInstance with
  | some template =>
      obtain ⟨hapart, -, hslots⟩ := keepsApart_of_callTemplate htemplate
      have hholes : ∀ index, .hole index ∈ slots template.toList →
          Opens (argText args index) (∃ arg ∈ args[index]?, opensComment arg.toList) :=
        fun index hindex => opens_argText hargs (lt_ten_of_mem_slots hindex)
      rw [(renderCall_eq_fillOnce_iff htemplate).mpr hkept, String.toList_ofList, fillOnce]
      refine (Piece.opens_write hapart fun index hindex => (hholes index hindex).self).congr ?_
      constructor
      · rintro ⟨index, hindex, hopens⟩
        obtain ⟨arg, harg, hopens⟩ := (hholes index hindex).opensComment_iff.mp hopens
        exact ⟨arg, List.mem_of_getElem? harg, hopens⟩
      · rintro ⟨arg, harg, hopens⟩
        -- No argument is dropped, since the template has a slot for each.
        obtain ⟨index, hlt, rfl⟩ := List.mem_iff_getElem.mp harg
        have hindex := hslots index hlt
        refine ⟨index, hindex, (hholes index hindex).opensComment_iff.mpr ?_⟩
        exact ⟨args[index], List.getElem?_eq_getElem hlt, hopens⟩
  | none =>
      rw [renderCall_of_no_template htemplate, String.toList_append]
      refine Opens.unsigned_append (isUnsigned_sqlName hmethod) ?_
      split
      · next hempty =>
          obtain rfl := List.isEmpty_iff.mp (Bool.and_eq_true_iff.mp hempty).1
          exact (Opens.of_isUnsigned rfl).congr (by simp)
      · rw [toList_parenthesized, String.toList_intercalate]
        refine (Opens.parenthesized rfl (by decide) ?_).congr ?_
        · simpa using hargs
        · simp

end

end SqlFunction

namespace Sql

open Token (Opens opensComment isUnsigned)

/-- Whether the expression begins with a minus sign. -/
def leadsWithMinus : Sql → Bool
  | .column name => name.toList.head? = some '-'
  | .literal text => text.toList.head? = some '-'
  | .keyEquality [(left, _)] => left.leadsWithMinus
  | .negate _ => true
  | .isNull operand _ => operand.leadsWithMinus
  | _ => false

/-- Whether the node brings two minus signs together. -/
def doublesMinus : Sql → Bool
  | .column name => opensComment name.toList
  | .negate operand => operand.leadsWithMinus
  | _ => false

/-- A node brings in names, columns whose strings are closed, and literals. -/
def IsNamed (t : Sql) : Prop :=
  t.Brings (fun name => ∀ s, .unclosed s ∉ Token.read name.toList) fun method => isIdentifier method

/-- Whether two minus signs are brought together anywhere in the tree. -/
def hasDoubledMinus (t : Sql) : Bool :=
  t.nodes.any doublesMinus

theorem hasDoubledMinus_iff {t : Sql} :
    t.hasDoubledMinus ↔ t.doublesMinus ∨ ∃ child ∈ t.children, child.hasDoubledMinus := by
  unfold hasDoubledMinus
  simp only [List.any_eq_true]
  constructor
  · rintro ⟨node, hnode, hdoubles⟩
    rcases mem_nodes.mp hnode with rfl | ⟨child, hchild, hbelow⟩
    · exact Or.inl hdoubles
    · exact Or.inr ⟨child, hchild, node, hbelow, hdoubles⟩
  · rintro (hself | ⟨child, hchild, node, hnode, hdoubles⟩)
    · exact ⟨t, self_mem_nodes t, hself⟩
    · exact ⟨node, mem_nodes.mpr (Or.inr ⟨child, hchild, hnode⟩), hdoubles⟩

theorem hasDoubledMinus_iff_children {t : Sql} (h : t.doublesMinus = false) :
    t.hasDoubledMinus ↔ ∃ child ∈ t.children, child.hasDoubledMinus := by
  rw [hasDoubledMinus_iff, h]
  simp

/-! ### The first character -/

theorem leadsWithMinus_of_length_ne_one {pairs : List (Sql × Sql)} (h : pairs.length ≠ 1) :
    (Sql.keyEquality pairs).leadsWithMinus = false := by
  cases pairs with
  | nil => rfl
  | cons first rest =>
      cases rest with
      | nil => exact absurd rfl h
      | cons second rest => rfl

theorem head?_text_ne_of_layout? {t : Sql} {pieces : List (Piece Sql)}
    (hlayout : t.layout? = some pieces) (hapart : Piece.standsApart pieces) :
    t.text.toList.head? ≠ some '-' := by
  rw [(layout?_spec hlayout).1]
  exact Token.head?_ne_of_standsApart (Piece.standsApart_write hapart _)

/-- The text begins with a minus sign exactly if the tree does. -/
theorem head?_text_eq_minus_iff {t : Sql} (hnamed : ∀ node ∈ t.nodes, node.IsNamed)
    (hkept : t.keepsSlots) : t.text.toList.head? = some '-' ↔ t.leadsWithMinus := by
  induction t using children_induction with
  | step t ih =>
      have hself : t.IsNamed := hnamed t (self_mem_nodes t)
      have hchildren : ∀ child ∈ t.children,
          (child.text.toList.head? = some '-' ↔ child.leadsWithMinus) := fun child hchild =>
        ih child hchild (nodes_of_child hnamed hchild) (keepsSlots_of_child hkept hchild)
      cases t with
      | star qualifier =>
          cases qualifier with
          | none => decide
          | some name =>
              have hname :=
                Token.isUnsigned_of_forall rfl rfl (isIdentifierChar_of_mem (hself name rfl))
              refine iff_of_false ?_ Bool.false_ne_true
              change (name ++ ".*").toList.head? ≠ some '-'
              rw [String.toList_append]
              exact Token.head?_ne_of_standsApart (Token.standsApart_append hname rfl)
      | column name => exact decide_eq_true_iff.symm
      | literal text => exact decide_eq_true_iff.symm
      | call method args onInstance =>
          rw [keepsSlots, Bool.and_eq_true] at hkept
          refine iff_of_false ?_ Bool.false_ne_true
          exact Token.head?_ne_of_standsApart (SqlFunction.standsApart_renderCall hself hkept.1)
      | keyEquality pairs =>
          by_cases hlength : pairs.length = 1
          · obtain ⟨⟨left, right⟩, rfl⟩ := List.length_eq_one_iff.mp hlength
            change (left.text ++ " = " ++ right.text).toList.head? = some '-' ↔ left.leadsWithMinus
            rw [String.toList_append, String.toList_append, List.append_assoc,
              Token.head?_append_eq_minus_iff rfl]
            exact hchildren left List.mem_cons_self
          · rw [text_keyEquality, conjunction_of_length_ne_one hlength, toList_parenthesized,
              leadsWithMinus_of_length_ne_one hlength]
            exact iff_of_false (Token.head?_ne_of_standsApart rfl) Bool.false_ne_true
      | negate operand =>
          rw [text_negate, String.toList_append]
          exact iff_of_true rfl rfl
      | isNull operand negated =>
          rw [text_isNull, String.toList_append, Token.head?_append_eq_minus_iff ?_]
          · exact hchildren operand List.mem_cons_self
          · cases negated <;> rfl
      | binary op left right =>
          exact iff_of_false (head?_text_ne_of_layout? rfl rfl) Bool.false_ne_true
      | not operand => exact iff_of_false (head?_text_ne_of_layout? rfl rfl) Bool.false_ne_true
      | case test ifTrue ifFalse =>
          exact iff_of_false (head?_text_ne_of_layout? rfl rfl) Bool.false_ne_true

/-! ### Comments -/

theorem opens_star {qualifier : Option String} (h : ∀ name ∈ qualifier, isIdentifier name) :
    Opens (Sql.star qualifier).text.toList False := by
  cases qualifier with
  | none => exact .of_isUnsigned rfl
  | some name =>
      have hname := Token.isUnsigned_of_forall rfl rfl (isIdentifierChar_of_mem (h name rfl))
      change Opens (name ++ ".*").toList False
      rw [String.toList_append]
      exact (Opens.of_isUnsigned rfl).unsigned_append hname

theorem isUnsigned_of_number {word : List Char}
    (h : Literal.isNumeral word ∨ word = "inf".toList) : isUnsigned word := by
  rcases h with hnumeral | rfl
  · have hall := (Bool.and_eq_true_iff.mp hnumeral).2
    exact Token.isUnsigned_of_forall rfl rfl (List.all_eq_true.mp hall)
  · rfl

theorem opens_signed (negative : Bool) {word : List Char} (h : isUnsigned word) :
    Opens (Literal.sign negative ++ word) False := by
  have hword := Opens.of_isUnsigned h
  cases negative with
  | false => exact hword
  | true =>
      have hapart : Token.standsApart word := by
        simpa using Token.standsApart_append h (rfl : Token.standsApart [])
      have hhead := Token.head?_ne_of_standsApart hapart
      exact (hword.cons (by decide)).congr (by simp [hhead])

theorem opens_written {text : List Char} {value : Constant} (h : value.Written text) :
    Opens text False := by
  cases h with
  | null => exact .of_isUnsigned rfl
  | bool value => cases value <;> exact .of_isUnsigned rfl
  | string value =>
      have hread := Token.read_quoted value
      exact ⟨by simp [hread], by simp [opensComment, hread, Token.doublesMinus]⟩
  | notNumber h => exact .of_isUnsigned rfl
  | number negative hvalue hword => exact opens_signed negative (isUnsigned_of_number hword)
  | @duration word value negative hword unit =>
      have hunit : isUnsigned (' ' :: unit.keyword.toList) := by
        cases unit <;> rfl
      refine opens_signed negative ?_
      rw [isUnsigned, List.all_append, Bool.and_eq_true]
      exact ⟨isUnsigned_of_number (Or.inl hword), hunit⟩

theorem opens_negate {operand : Sql} (h : Opens operand.text.toList operand.hasDoubledMinus)
    (hhead : operand.text.toList.head? = some '-' ↔ operand.leadsWithMinus) :
    Opens (Sql.negate operand).text.toList (Sql.negate operand).hasDoubledMinus := by
  have hnode : (Sql.negate operand).hasDoubledMinus ↔
      operand.leadsWithMinus ∨ operand.hasDoubledMinus :=
    hasDoubledMinus_iff.trans (or_congr_right (by simp [children]))
  rw [text_negate, String.toList_append]
  refine (h.cons (c := '-') (by decide)).congr ?_
  rw [hnode, hhead]
  simp

section

variable {t : Sql}
  (hchildren : ∀ child ∈ t.children, Opens child.text.toList child.hasDoubledMinus)

include hchildren

theorem opens_of_layout? (hnone : t.doublesMinus = false) {pieces : List (Piece Sql)}
    (hlayout : t.layout? = some pieces) (hapart : Piece.keepsApart pieces) :
    Opens t.text.toList t.hasDoubledMinus := by
  obtain ⟨htext, hholes⟩ := layout?_spec hlayout
  rw [htext]
  refine (Piece.opens_write hapart fun s hs => (hchildren s ((hholes s).mp hs)).self).congr ?_
  rw [hasDoubledMinus_iff_children hnone]
  simp only [hholes]
  exact exists_congr fun s => and_congr_right fun hs => (hchildren s hs).opensComment_iff

end

theorem opens_pair {left right : Sql}
    (h : ∀ child ∈ (Sql.keyEquality [(left, right)]).children,
      Opens child.text.toList child.hasDoubledMinus) :
    Opens (Sql.keyEquality [(left, right)]).text.toList
      (Sql.keyEquality [(left, right)]).hasDoubledMinus :=
  opens_of_layout? h rfl rfl rfl

theorem opens_pairTexts {pairs : List (Sql × Sql)}
    (h : ∀ child ∈ (Sql.keyEquality pairs).children,
      Opens child.text.toList child.hasDoubledMinus) :
    (∀ text ∈ (pairTexts pairs).map String.toList, Opens text (opensComment text)) ∧
    ((∃ text ∈ (pairTexts pairs).map String.toList, opensComment text) ↔
      ∃ child ∈ (Sql.keyEquality pairs).children, child.hasDoubledMinus) := by
  rw [children_keyEquality] at h ⊢
  induction pairs with
  | nil => simp [pairTexts]
  | cons pair rest ih =>
      obtain ⟨left, right⟩ := pair
      obtain ⟨hpair, hrest⟩ := List.forall_mem_append.mp h
      obtain ⟨hopens, hiff⟩ := ih hrest
      have hfirst := opens_pair hpair
      have hpairIff : opensComment (Sql.keyEquality [(left, right)]).text.toList ↔
          ∃ child ∈ [left, right], child.hasDoubledMinus :=
        hfirst.opensComment_iff.trans (hasDoubledMinus_iff_children rfl)
      rw [pairTexts, List.map_cons, List.flatMap_cons]
      refine ⟨List.forall_mem_cons.mpr ⟨hfirst.self, hopens⟩, ?_⟩
      simp only [List.mem_cons, List.mem_append, or_and_right, exists_or, exists_eq_left]
        at hpairIff hiff ⊢
      exact or_congr hpairIff hiff

theorem opens_keyEquality {pairs : List (Sql × Sql)}
    (h : ∀ child ∈ (Sql.keyEquality pairs).children,
      Opens child.text.toList child.hasDoubledMinus) :
    Opens (Sql.keyEquality pairs).text.toList (Sql.keyEquality pairs).hasDoubledMinus := by
  by_cases hlength : pairs.length = 1
  · obtain ⟨⟨left, right⟩, rfl⟩ := List.length_eq_one_iff.mp hlength
    exact opens_pair h
  · obtain ⟨hopens, hiff⟩ := opens_pairTexts h
    rw [text_keyEquality, conjunction_of_length_ne_one hlength, toList_parenthesized,
      String.toList_intercalate]
    refine (Opens.parenthesized rfl (by decide) hopens).congr ?_
    rw [hiff, hasDoubledMinus_iff_children rfl]

theorem opens_call {method : String} (hmethod : isIdentifier method) {args : List Sql}
    (hargs : ∀ arg ∈ args, Opens arg.text.toList arg.hasDoubledMinus) {onInstance : Bool}
    (hkept : SqlFunction.callKeepsSlots method (argTexts args) onInstance) :
    Opens (Sql.call method args onInstance).text.toList
      (Sql.call method args onInstance).hasDoubledMinus := by
  have hopens : ∀ text ∈ argTexts args, Opens text.toList (opensComment text.toList) := by
    intro text htext
    obtain ⟨arg, harg, rfl⟩ := mem_argTexts htext
    exact (hargs arg harg).self
  refine (SqlFunction.opens_renderCall hopens hmethod hkept).congr ?_
  rw [hasDoubledMinus_iff_children rfl, argTexts_eq_map]
  simp only [List.mem_map, exists_exists_and_eq_and]
  exact exists_congr fun arg => and_congr_right fun harg => (hargs arg harg).opensComment_iff

/-- A tree whose nodes bring in nothing but names, columns and literals opens a comment exactly where
a node brings two minus signs together. -/
theorem opens_text {t : Sql} (hnamed : ∀ node ∈ t.nodes, node.IsNamed) (hkept : t.keepsSlots) :
    Opens t.text.toList t.hasDoubledMinus := by
  induction t using children_induction with
  | step t ih =>
      have hself : t.IsNamed := hnamed t (self_mem_nodes t)
      have hchildren : ∀ child ∈ t.children, Opens child.text.toList child.hasDoubledMinus :=
        fun child hchild =>
          ih child hchild (nodes_of_child hnamed hchild) (keepsSlots_of_child hkept hchild)
      cases t with
      | star qualifier =>
          exact (opens_star hself).congr (by simp [hasDoubledMinus, nodes, doublesMinus])
      | column name => exact ⟨hself, by simp [hasDoubledMinus, nodes, doublesMinus, text]⟩
      | literal text =>
          obtain ⟨value, hvalue⟩ := hself
          exact (opens_written hvalue).congr (by simp [hasDoubledMinus, nodes, doublesMinus])
      | call method args onInstance =>
          rw [keepsSlots, Bool.and_eq_true] at hkept
          exact opens_call hself hchildren hkept.1
      | binary op left right =>
          refine opens_of_layout? hchildren rfl rfl ?_
          cases op with
          | notEqual spelling => cases spelling <;> rfl
          | _ => rfl
      | keyEquality pairs => exact opens_keyEquality hchildren
      | not operand => exact opens_of_layout? hchildren rfl rfl rfl
      | negate operand =>
          -- The one node whose fixed text ends in a minus sign right before a child.
          have hoperand := List.mem_singleton_self operand
          exact opens_negate (hchildren operand hoperand) (head?_text_eq_minus_iff
            (nodes_of_child hnamed hoperand) (keepsSlots_of_child hkept hoperand))
      | isNull operand negated =>
          refine opens_of_layout? hchildren rfl rfl ?_
          cases negated <;> rfl
      | case test ifTrue ifFalse => exact opens_of_layout? hchildren rfl rfl rfl

end Sql

end StreamQuery
