import StreamQuery.Proofs.Function.Template
import StreamQuery.Proofs.Identifier
import StreamQuery.Proofs.Lowering.Agree
import StreamQuery.Proofs.Sql.Token

/-!
# The shape of SQL text

Two texts are alike if they differ in the contents of strings only. Text with holes keeps likeness:
filled with texts that are alike, it gives texts that are alike. All SQL expressions are written
as such text, except for calls whose template fills the slots of an argument too.
-/

namespace StreamQuery

namespace Token

/-- Texts that differ in the contents of strings only. The strings of the first are closed, and
all of them satisfy `S`. -/
structure Alike (S : String → Prop) (text text' : List Char) : Prop where
  closed : ∀ s, .unclosed s ∉ read text
  strings : ∀ s, .string s ∈ read text → S s
  blank_eq : (read text).map blank = (read text').map blank

variable {S : String → Prop}

theorem Alike.closed_right {text text' : List Char} (h : Alike S text text') :
    ∀ s, .unclosed s ∉ read text' := by
  intro s hs
  have hblank : .unclosed s ∈ (read text).map blank := by
    rw [h.blank_eq]
    exact List.mem_map.mpr ⟨.unclosed s, hs, rfl⟩
  obtain ⟨token, htoken, heq⟩ := List.mem_map.mp hblank
  cases token with
  | unclosed r => exact h.closed r htoken
  | _ => cases heq

theorem Alike.of_plain {text : List Char} (h : isPlain text) : Alike S text text where
  closed s := by simp [read_plain h]
  strings s hs := by simp [read_plain h] at hs
  blank_eq := rfl

theorem Alike.of_quoted {s : String} (hs : S s) (s' : String) :
    Alike S (quoted s).toList (quoted s').toList where
  closed r := by simp [read_quoted]
  strings r hr := by
    rw [read_quoted, List.mem_singleton] at hr
    exact Token.string.inj hr ▸ hs
  blank_eq := by rw [read_quoted, read_quoted]; rfl

theorem read_cons_of_ne {c : Char} (hc : c ≠ '\x27') (text : List Char) :
    read (c :: text) = .char c :: read text := by
  simp [read, readFrom, hc]

theorem Alike.cons {c : Char} (hc : c ≠ '\x27') {text text' : List Char}
    (h : Alike S text text') : Alike S (c :: text) (c :: text') where
  closed s := by simpa [read_cons_of_ne hc] using h.closed s
  strings s hs := h.strings s (by simpa [read_cons_of_ne hc] using hs)
  blank_eq := by simp [read_cons_of_ne hc, h.blank_eq]

theorem Alike.append {text text' rest rest' : List Char} (h : Alike S text text')
    (hends : endsString rest) (hends' : endsString rest') (hrest : Alike S rest rest') :
    Alike S (text ++ rest) (text' ++ rest') := by
  have hread : read (text ++ rest) = read text ++ read rest :=
    readFrom_append hends none text h.closed
  have hread' : read (text' ++ rest') = read text' ++ read rest' :=
    readFrom_append hends' none text' h.closed_right
  refine ⟨fun s hs => ?_, fun s hs => ?_, ?_⟩
  · rcases List.mem_append.mp (hread ▸ hs) with hs | hs
    · exact h.closed s hs
    · exact hrest.closed s hs
  · rcases List.mem_append.mp (hread ▸ hs) with hs | hs
    · exact h.strings s hs
    · exact hrest.strings s hs
  · rw [hread, hread', List.map_append, List.map_append, h.blank_eq, hrest.blank_eq]

theorem Alike.plain_append {before : List Char} (hbefore : isPlain before) {text text' : List Char}
    (h : Alike S text text') : Alike S (before ++ text) (before ++ text') := by
  induction before with
  | nil => exact h
  | cons c before ih =>
      obtain ⟨hc, hbefore⟩ : c ≠ '\x27' ∧ isPlain before := by simpa [isPlain] using hbefore
      exact (ih hbefore).cons hc

theorem Alike.parenthesized {separator : List Char} (hplain : isPlain separator)
    (hends : ∀ rest, endsString (separator ++ rest)) {texts texts' : List (List Char)}
    (h : List.Forall₂ (Alike S) texts texts') :
    Alike S ('(' :: (separator.intercalate texts ++ [')']))
      ('(' :: (separator.intercalate texts' ++ [')'])) := by
  refine Alike.cons (by decide) ?_
  induction h with
  | nil => exact .of_plain rfl
  | cons hhead htail ih =>
      cases htail with
      | nil => simpa using hhead.append rfl rfl (.of_plain rfl)
      | cons hnext htail =>
          simp only [List.intercalate_cons_cons, List.append_assoc] at ih ⊢
          exact hhead.append (hends _) (hends _) (ih.plain_append hplain)

end Token

namespace Piece

open Token

variable {α : Type} {S : String → Prop}

theorem endsString_write {pieces : List (Piece α)} (h : endsHole pieces) (fill : α → List Char) :
    endsString (write fill pieces) := by
  match pieces with
  | [] => rfl
  | .char c :: rest =>
      simp only [endsHole, Bool.and_eq_true, decide_eq_true_eq] at h
      simpa [write, endsString] using h.1.1

theorem alike_write (fill fill' : α → List Char) (pieces : List (Piece α))
    (hspaced : isSpaced pieces)
    (hholes : ∀ place, .hole place ∈ pieces → Alike S (fill place) (fill' place)) :
    Alike S (write fill pieces) (write fill' pieces) := by
  induction pieces with
  | nil => exact .of_plain rfl
  | cons piece rest ih =>
      have hrest : isSpaced rest → Alike S (write fill rest) (write fill' rest) :=
        fun hspaced => ih hspaced fun place hplace => hholes place (by simp [hplace])
      cases piece with
      | char c =>
          obtain ⟨⟨hc, -⟩, hspaced⟩ : (c ≠ '\x27' ∧ c ≠ '\x7b') ∧ isSpaced rest := by
            simpa [isSpaced] using hspaced
          exact (hrest hspaced).cons hc
      | hole place =>
          obtain ⟨hends, hspaced⟩ : endsHole rest ∧ isSpaced rest := by
            simpa [isSpaced] using hspaced
          exact (hholes place (by simp)).append (endsString_write hends fill)
            (endsString_write hends fill') (hrest hspaced)

end Piece

theorem isPlain_of_isIdentifier {name : String} (h : isIdentifier name) :
    Token.isPlain name.toList := by
  simp only [Token.isPlain, List.all_eq_true, decide_eq_true_eq]
  rintro c hc rfl
  exact absurd (isIdentifierChar_of_mem h _ hc) (by decide)

theorem isPlain_upper {name : String} (h : isIdentifier name) :
    Token.isPlain (Text.upper name).toList := by
  simp only [Token.isPlain, List.all_eq_true, decide_eq_true_eq]
  rintro c hc rfl
  exact absurd (isIdentifierChar_of_mem_upper h _ hc) (by decide)

namespace SqlFunction

open Token (Alike)

variable {S : String → Prop}

/-- The template of a call with that many arguments. -/
def callTemplate? (method : String) (argCount : Nat) (onInstance : Bool) : Option String :=
  (find? method).bind (·.template? argCount onInstance)

/-- Whether a call has no template, or one whose slots are kept. -/
def callKeepsSlots (method : String) (args : List String) (onInstance : Bool) : Bool :=
  (callTemplate? method args.length onInstance).isNone || keepsSlots 0 args

theorem wellSlotted_of_callTemplate {method template : String} {argCount : Nat}
    {onInstance : Bool} (h : callTemplate? method argCount onInstance = some template) :
    WellSlotted template.toList ∧ slotCount template.toList = argCount := by
  obtain ⟨f, hfind, htemplate⟩ := Option.bind_eq_some_iff.mp h
  obtain ⟨hsome, hcount⟩ := Option.filter_eq_some_iff.mp htemplate
  refine ⟨wellSlotted_of_mem_catalog f (List.mem_of_find?_eq_some hfind) template hsome, ?_⟩
  simp only [Bool.and_eq_true, decide_eq_true_eq] at hcount
  exact hcount.2

theorem renderCall_of_template {method template : String} {args : List String}
    {onInstance : Bool} (h : callTemplate? method args.length onInstance = some template) :
    renderCall method args onInstance = String.ofList (fillSlots 0 template.toList args) := by
  obtain ⟨f, hfind, htemplate⟩ := Option.bind_eq_some_iff.mp h
  simp only [renderCall, hfind, render, htemplate]

/-- A call without template: its name and its arguments, or a star for the rows of a group. -/
theorem renderCall_of_no_template {method : String} {args : List String} {onInstance : Bool}
    (h : callTemplate? method args.length onInstance = none) :
    renderCall method args onInstance = sqlName method ++
      if args.isEmpty && (find? method).any (·.aggregate) then "(*)"
      else "(" ++ String.intercalate ", " args ++ ")" := by
  unfold renderCall sqlName
  cases hfind : find? method with
  | none => simp [String.append_assoc]
  | some f =>
      have hnone : f.template? args.length onInstance = none := by
        simpa [callTemplate?, hfind] using h
      simp only [render, hnone, Option.any_some]
      split <;> simp [String.append_assoc]

/-- A call has the text of its template, filled at once, exactly if it keeps slots. -/
theorem renderCall_eq_fillOnce_iff {method template : String} {args : List String}
    {onInstance : Bool} (h : callTemplate? method args.length onInstance = some template) :
    renderCall method args onInstance = String.ofList (fillOnce args template.toList) ↔
      callKeepsSlots method args onInstance := by
  obtain ⟨⟨hspaced, hle, hfirst⟩, hcount⟩ := wellSlotted_of_callTemplate h
  rw [hcount] at hle hfirst
  rw [renderCall_of_template h, String.ofList_inj, fillSlots_eq_fillOnce_iff hspaced hle hfirst]
  simp [callKeepsSlots, h]

theorem isPlain_sqlName {method : String} (h : isIdentifier method) :
    Token.isPlain (sqlName method).toList := by
  have hcatalog : ∀ f ∈ catalog, Token.isPlain f.sql.toList := by
    decide +kernel
  unfold sqlName
  cases hfind : find? method with
  | none => exact isPlain_upper h
  | some f => exact hcatalog f (List.mem_of_find?_eq_some hfind)

theorem alike_argText {args args' : List String}
    (h : List.Forall₂ (fun arg arg' => Alike S arg.toList arg'.toList) args args')
    {index : Nat} (hindex : index < 10) : Alike S (argText args index) (argText args' index) := by
  have hslot : ∀ index < 10, Token.isPlain (slotText index) := by decide
  unfold argText
  by_cases hlt : index < args.length
  · have hlt' : index < args'.length := h.length_eq ▸ hlt
    rw [List.getElem?_eq_getElem hlt, List.getElem?_eq_getElem hlt']
    exact h.get hlt hlt'
  · rw [List.getElem?_eq_none (by omega), List.getElem?_eq_none (by have := h.length_eq; omega)]
    exact .of_plain (hslot index hindex)

theorem alike_renderCall {method : String} (hmethod : isIdentifier method)
    {args args' : List String}
    (h : List.Forall₂ (fun arg arg' => Alike S arg.toList arg'.toList) args args')
    {onInstance : Bool} (hkept : callKeepsSlots method args onInstance)
    (hkept' : callKeepsSlots method args' onInstance) :
    Alike S (renderCall method args onInstance).toList
      (renderCall method args' onInstance).toList := by
  have hlength := h.length_eq
  cases htemplate : callTemplate? method args.length onInstance with
  | some template =>
      rw [(renderCall_eq_fillOnce_iff htemplate).mpr hkept,
        (renderCall_eq_fillOnce_iff (hlength ▸ htemplate)).mpr hkept', String.toList_ofList,
        String.toList_ofList]
      have hspaced := (wellSlotted_of_callTemplate htemplate).1.1
      exact Piece.alike_write _ _ _ hspaced fun index hindex =>
        alike_argText h (lt_ten_of_mem_slots hindex)
  | none =>
      have hempty : args.isEmpty = args'.isEmpty := by
        cases h <;> rfl
      rw [renderCall_of_no_template htemplate, renderCall_of_no_template (hlength ▸ htemplate),
        ← hempty, String.toList_append, String.toList_append]
      refine Token.Alike.plain_append (isPlain_sqlName hmethod) ?_
      split
      · exact .of_plain rfl
      · have htexts : List.Forall₂ (Alike S) (args.map String.toList) (args'.map String.toList) :=
          List.forall₂_map_left_iff.mpr (List.forall₂_map_right_iff.mpr h)
        have hlist := @Token.Alike.parenthesized S ", ".toList rfl (fun _ => rfl) _ _ htexts
        simpa [String.toList_intercalate] using hlist

end SqlFunction

namespace Sql

mutual

/-- Whether no call fills the slots of an argument. -/
def keepsSlots : Sql → Bool
  | .star _ => true
  | .column _ => true
  | .literal _ => true
  | .call method args onInstance =>
    SqlFunction.callKeepsSlots method (argTexts args) onInstance && argsKeepSlots args
  | .binary _ left right => left.keepsSlots && right.keepsSlots
  | .keyEquality pairs => pairsKeepSlots pairs
  | .not operand => operand.keepsSlots
  | .negate operand => operand.keepsSlots
  | .isNull operand _ => operand.keepsSlots
  | .case test ifTrue ifFalse => test.keepsSlots && (ifTrue.keepsSlots && ifFalse.keepsSlots)

def argsKeepSlots : List Sql → Bool
  | [] => true
  | e :: rest => e.keepsSlots && argsKeepSlots rest

def pairsKeepSlots : List (Sql × Sql) → Bool
  | [] => true
  | (left, right) :: rest => left.keepsSlots && (right.keepsSlots && pairsKeepSlots rest)

end

/-- Expressions whose texts are alike, provided that both keep slots. -/
def Alike (S : String → Prop) (t t' : Sql) : Prop :=
  t.keepsSlots → t'.keepsSlots → Token.Alike S t.text.toList t'.text.toList

variable {S : String → Prop}

theorem alike_argTexts {args args' : List Sql} (h : List.Forall₂ (Alike S) args args')
    (hkept : argsKeepSlots args) (hkept' : argsKeepSlots args') :
    List.Forall₂ (fun arg arg' => Token.Alike S arg.toList arg'.toList)
      (argTexts args) (argTexts args') := by
  induction h with
  | nil => exact .nil
  | cons hhead _ ih =>
      simp only [argsKeepSlots, Bool.and_eq_true] at hkept hkept'
      exact .cons (hhead hkept.1 hkept'.1) (ih hkept.2 hkept'.2)

theorem alike_pairTexts {pairs pairs' : List (Sql × Sql)}
    (h : List.Forall₂ (fun p q => Alike S p.1 q.1 ∧ Alike S p.2 q.2) pairs pairs')
    (hkept : pairsKeepSlots pairs) (hkept' : pairsKeepSlots pairs') :
    List.Forall₂ (fun text text' => Token.Alike S text.toList text'.toList)
      (pairTexts pairs) (pairTexts pairs') := by
  induction h with
  | nil => exact .nil
  | @cons pair pair' _ _ hhead _ ih =>
      obtain ⟨left, right⟩ := pair
      obtain ⟨left', right'⟩ := pair'
      simp only [pairsKeepSlots, Bool.and_eq_true] at hkept hkept'
      obtain ⟨hleft, hright, hrest⟩ := hkept
      obtain ⟨hleft', hright', hrest'⟩ := hkept'
      refine .cons ?_ (ih hrest hrest')
      simp only [String.toList_append, List.append_assoc]
      exact (hhead.1 hleft hleft').append rfl rfl ((hhead.2 hright hright').plain_append rfl)

/-- The text of a key equality, given the texts of its parts. -/
def conjunction : List String → String
  | [single] => single
  | texts => "(" ++ String.intercalate " AND " texts ++ ")"

theorem alike_conjunction {texts texts' : List String}
    (h : List.Forall₂ (fun text text' => Token.Alike S text.toList text'.toList) texts texts') :
    Token.Alike S (conjunction texts).toList (conjunction texts').toList := by
  have hlist : List.Forall₂ (Token.Alike S) (texts.map String.toList) (texts'.map String.toList) :=
    List.forall₂_map_left_iff.mpr (List.forall₂_map_right_iff.mpr h)
  have hparens := @Token.Alike.parenthesized S " AND ".toList rfl (fun _ => rfl) _ _ hlist
  match h with
  | .nil => exact .of_plain rfl
  | .cons hhead .nil => exact hhead
  | .cons _ (.cons _ _) => simpa [conjunction, String.toList_intercalate] using hparens

theorem isPlain_symbol (op : SqlOp) : Token.isPlain op.symbol.toList := by
  cases op with
  | notEqual spelling => cases spelling <;> rfl
  | _ => rfl

/-! The texts of the constructions, as equations that `rw` can use. -/

theorem text_keyEquality (pairs : List (Sql × Sql)) :
    (Sql.keyEquality pairs).text = conjunction (pairTexts pairs) :=
  rfl

theorem text_binary (op : SqlOp) (left right : Sql) :
    (Sql.binary op left right).text =
      "(" ++ left.text ++ " " ++ op.symbol ++ " " ++ right.text ++ ")" :=
  rfl

theorem text_not (operand : Sql) : (Sql.not operand).text = "NOT (" ++ operand.text ++ ")" :=
  rfl

theorem text_negate (operand : Sql) : (Sql.negate operand).text = "-" ++ operand.text :=
  rfl

theorem text_isNull (operand : Sql) (negated : Bool) :
    (Sql.isNull operand negated).text =
      operand.text ++ if negated then " IS NOT NULL" else " IS NULL" := by
  cases negated <;> rfl

theorem text_case (test ifTrue ifFalse : Sql) :
    (Sql.case test ifTrue ifFalse).text =
      "CASE WHEN " ++ test.text ++ " THEN " ++ ifTrue.text ++ " ELSE " ++ ifFalse.text ++ " END" :=
  rfl

/-- Every construction of an expression keeps likeness, if calls are made by identifiers. -/
theorem congruence_alike : Congruence (fun method => isIdentifier method) (Alike S) where
  call hmethod hargs hkept hkept' := by
    simp only [keepsSlots, Bool.and_eq_true] at hkept hkept'
    exact SqlFunction.alike_renderCall hmethod (alike_argTexts hargs hkept.2 hkept'.2)
      hkept.1 hkept'.1
  binary {op _ _ _ _} hleft hright hkept hkept' := by
    simp only [keepsSlots, Bool.and_eq_true] at hkept hkept'
    have hright := hright hkept.2 hkept'.2
    simp only [text_binary, String.toList_append, List.append_assoc]
    refine Token.Alike.plain_append rfl ((hleft hkept.1 hkept'.1).append rfl rfl ?_)
    refine Token.Alike.plain_append rfl (Token.Alike.plain_append (isPlain_symbol op) ?_)
    exact Token.Alike.plain_append rfl (hright.append rfl rfl (.of_plain rfl))
  keyEquality hpairs hkept hkept' := by
    rw [text_keyEquality, text_keyEquality]
    exact alike_conjunction (alike_pairTexts hpairs hkept hkept')
  not hoperand hkept hkept' := by
    simp only [text_not, String.toList_append, List.append_assoc]
    refine Token.Alike.plain_append rfl ?_
    exact (hoperand hkept hkept').append rfl rfl (.of_plain rfl)
  negate hoperand hkept hkept' := by
    simp only [text_negate, String.toList_append]
    exact (hoperand hkept hkept').plain_append rfl
  isNull {_ _ negated} hoperand hkept hkept' := by
    simp only [text_isNull, String.toList_append]
    cases negated <;> exact (hoperand hkept hkept').append rfl rfl (.of_plain rfl)
  case htest htrue hfalse hkept hkept' := by
    simp only [keepsSlots, Bool.and_eq_true] at hkept hkept'
    obtain ⟨hkeptTest, hkeptTrue, hkeptFalse⟩ := hkept
    obtain ⟨hkeptTest', hkeptTrue', hkeptFalse'⟩ := hkept'
    simp only [text_case, String.toList_append, List.append_assoc]
    refine Token.Alike.plain_append rfl ((htest hkeptTest hkeptTest').append rfl rfl ?_)
    refine Token.Alike.plain_append rfl ((htrue hkeptTrue hkeptTrue').append rfl rfl ?_)
    refine Token.Alike.plain_append rfl ((hfalse hkeptFalse hkeptFalse').append rfl rfl ?_)
    exact .of_plain rfl

end Sql

end StreamQuery
