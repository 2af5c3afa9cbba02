import StreamQuery.Proofs.Sql.Lexeme
import StreamQuery.Proofs.Sql.Nodes
import StreamQuery.Proofs.Sql.Shape

/-!
# Delimited texts

Where the holes of a text stand apart from its words, in the places of operands, its keywords and its
brackets do not depend on the operands that the holes are filled with. So it is seen from the
templates and from the kinds of nodes which SQL expressions are written as units.
-/

namespace StreamQuery

namespace Lexeme

/-- The lexemes of a text with a string in the place of each hole, and those of the text with
lexemes of a given kind there. -/
inductive Fills (kind : List Lexeme → Prop) : List Lexeme → List Lexeme → Prop
  | nil : Fills kind [] []
  | same (l : Lexeme) {lexemes filled : List Lexeme} (h : Fills kind lexemes filled) :
    Fills kind (l :: lexemes) (l :: filled)
  | hole {inner : List Lexeme} (hinner : kind inner) {lexemes filled : List Lexeme}
    (h : Fills kind lexemes filled) : Fills kind (.string :: lexemes) (inner ++ filled)

namespace Fills

variable {kind : List Lexeme → Prop} {lexemes filled : List Lexeme}

theorem push {c : Char} (h : Fills kind lexemes filled)
    (hword : isWordPart c → lexemes.head? ≠ some .string) :
    Fills kind (push c lexemes) (Lexeme.push c filled) := by
  unfold Lexeme.push
  split
  · next hpart =>
      cases h with
      | nil => exact .same _ .nil
      | hole hinner h => exact absurd rfl (hword hpart)
      | same l h =>
          cases l with
          | word text => exact .same _ h
          | _ => exact .same _ (.same _ h)
  split
  · exact .same _ h
  split <;> exact .same _ h

theorem exists_of_append {before after : List Lexeme} (h : Fills kind (before ++ after) filled) :
    ∃ before' after', filled = before' ++ after' ∧ Fills kind before before' ∧
      Fills kind after after' := by
  induction before generalizing filled with
  | nil => exact ⟨[], filled, rfl, .nil, h⟩
  | cons l before ih =>
      rw [List.cons_append] at h
      cases h with
      | same _ h =>
          obtain ⟨before', after', rfl, hbefore, hafter⟩ := ih h
          exact ⟨l :: before', after', rfl, .same l hbefore, hafter⟩
      | @hole inner hinner _ _ h =>
          obtain ⟨before', after', rfl, hbefore, hafter⟩ := ih h
          refine ⟨inner ++ before', after', ?_, .hole hinner hbefore, hafter⟩
          rw [List.append_assoc]

section Balanced

variable (h : Fills (isBalanced ·) lexemes filled)

include h

theorem scan_eq (opened : List Bracket) : scan opened filled = scan opened lexemes := by
  induction h generalizing opened with
  | nil => rfl
  | same l _ ih =>
      rw [scan, scan, List.foldlM_cons, List.foldlM_cons]
      exact congrArg (step opened l).bind (funext ih)
  | hole hinner _ ih =>
      rw [scan_append, scan_of_isBalanced hinner, scan_cons_of_not_isBracket rfl (by simp)]
      exact ih opened

theorem isBalanced_eq : isBalanced filled = isBalanced lexemes := by
  rw [isBalanced, isBalanced, h.scan_eq]

theorem isEnclosed {bracket : Bracket} (henclosed : isEnclosed bracket lexemes) :
    Lexeme.isEnclosed bracket filled := by
  obtain ⟨inner, l, rfl, hcloses, hbalanced⟩ := exists_of_isEnclosed henclosed
  obtain ⟨inner', after, rfl, hinner, hafter⟩ := h.exists_of_append
  cases hafter with
  | same _ hnil =>
      cases hnil
      exact isEnclosed_concat hcloses (hinner.isBalanced_eq.trans hbalanced)
  | hole _ hnil => cases hcloses

/-- A unit stays one, if no hole is where the kind of unit is read off. -/
theorem isUnit (hfixed : lexemes.head? = some .opening ∨ .string ∉ lexemes.take 2)
    (hunit : isUnit lexemes) : Lexeme.isUnit filled := by
  rcases hfixed with hopening | hfixed
  · obtain ⟨rest, rfl⟩ := List.head?_eq_some_iff.mp hopening
    cases h with
    | same _ h => exact h.isEnclosed hunit
  cases h with
  | nil => cases hunit
  | hole hinner h => exact absurd List.mem_cons_self hfixed
  | @same first _ _ h =>
      cases h with
      | nil => exact hunit
      | hole hinner h => exact absurd (by simp) hfixed
      | @same second lexemes filled h =>
          cases first with
          | opening => exact (h.same second).isEnclosed hunit
          | caseWord => exact (h.same second).isEnclosed hunit
          | word text =>
              cases second with
              | opening => exact h.isEnclosed hunit
              | _ => cases hunit
          | sign c =>
              obtain ⟨hsign, hnumber⟩ := Bool.and_eq_true_iff.mp hunit
              obtain ⟨text, heq⟩ := isNumber_eq_true hnumber
              obtain ⟨rfl, rfl⟩ := List.cons.inj heq
              cases h
              exact hunit
          | _ => cases hunit

end Balanced

/-- A blank outside all brackets stays there. -/
theorem not_isUnit {before after : List Lexeme}
    (h : Fills (isBalanced ·) (before ++ .sign ' ' :: after) filled) (hbefore : isBalanced before) :
    Lexeme.isUnit filled = false := by
  obtain ⟨before', after', rfl, hfills, hafter⟩ := h.exists_of_append
  cases hafter with
  | same _ _ => exact not_isUnit_of_blank (hfills.isBalanced_eq.trans hbefore) _

end Fills

/-- Whether an operand before these lexemes, holes included, ends there. -/
def endsOperand (lexemes : List Lexeme) : Bool :=
  !startsWord lexemes && !startsWhen lexemes && lexemes.head? ≠ some .string &&
    lexemes.take 2 ≠ [.sign ' ', .string]

/-- Whether a lexeme is a hole for an operand, or one that is read alike whatever the holes after it
are filled with. -/
def fits (place : Place) (rest : List Lexeme) : Lexeme → Bool
  | .string => place = .operand && endsOperand rest
  | .word text => place = .operator || !isKeyword "CASE" text || startsWhen rest
  | _ => true

/-- Whether all holes are in the places of operands. -/
def holdsOperands (place : Place) : List Lexeme → Bool
  | [] => true
  | l :: rest => l.fits place rest && holdsOperands (next place l) rest

namespace Fills

variable {kind : List Lexeme → Prop} {lexemes filled : List Lexeme}

theorem startsWhen (h : Fills kind lexemes filled) (hwhen : startsWhen lexemes) :
    Lexeme.startsWhen filled := by
  unfold Lexeme.startsWhen at hwhen
  split at hwhen
  · cases h with
    | same _ h =>
        cases h with
        | same _ h => exact hwhen
  · cases hwhen

theorem not_starts_of_endsOperand (h : Fills kind lexemes filled) (hends : endsOperand lexemes) :
    startsWord filled = false ∧ Lexeme.startsWhen filled = false := by
  obtain ⟨⟨⟨hword, hwhen⟩, hhole⟩, hblank⟩ : ((startsWord lexemes = false ∧
      Lexeme.startsWhen lexemes = false) ∧ lexemes.head? ≠ some .string) ∧
      lexemes.take 2 ≠ [.sign ' ', .string] := by
    simpa [endsOperand] using hends
  cases h with
  | nil => exact ⟨rfl, rfl⟩
  | hole hinner h => exact absurd rfl hhole
  | same first h =>
      cases first with
      | word text => cases hword
      | sign c =>
          refine ⟨rfl, ?_⟩
          cases h with
          | nil => rfl
          | same second h => cases second <;> exact hwhen
          | hole hinner h =>
              have hc : c ≠ ' ' := by simpa using hblank
              unfold Lexeme.startsWhen
              split
              · next heq =>
                  obtain ⟨rfl, -⟩ := List.cons.inj heq |>.imp_left Lexeme.sign.inj
                  simp [hc]
              · rfl
      | _ => exact ⟨rfl, rfl⟩

theorem resolve_eq {l : Lexeme} {place : Place} (h : Fills kind lexemes filled)
    (hfits : l.fits place lexemes) : l.resolve place filled = l.resolve place lexemes := by
  cases l with
  | word text =>
      by_cases hcase : place = .operand ∧ isKeyword "CASE" text
      · have hwhen : Lexeme.startsWhen lexemes := by
          simpa [fits, hcase.1, hcase.2] using hfits
        rw [resolve, resolve, if_pos ⟨hcase.1, hcase.2, h.startsWhen hwhen⟩,
          if_pos ⟨hcase.1, hcase.2, hwhen⟩]
      · have hplain : ∀ rest, ¬ (place = .operand ∧ isKeyword "CASE" text ∧
            Lexeme.startsWhen rest) :=
          fun rest hstarts => hcase ⟨hstarts.1, hstarts.2.1⟩
        rw [resolve, resolve, if_neg (hplain filled), if_neg (hplain lexemes)]
  | _ => rfl

/-- With operands in their places, the same keywords are marked, and the text ends in the same
place. -/
theorem mark (h : Fills IsOperand lexemes filled) {place : Place}
    (hholds : holdsOperands place lexemes) :
    Fills (isBalanced ·) (mark place lexemes) (Lexeme.mark place filled) ∧
      placeAfter place filled = placeAfter place lexemes := by
  induction h generalizing place with
  | nil => exact ⟨.nil, rfl⟩
  | same l h ih =>
      obtain ⟨hfits, hrest⟩ := Bool.and_eq_true_iff.mp hholds
      obtain ⟨hfills, hplace⟩ := ih hrest
      rw [Lexeme.mark, Lexeme.mark, h.resolve_eq hfits]
      exact ⟨.same _ hfills, hplace⟩
  | @hole inner hinner lexemes filled h ih =>
      obtain ⟨hfits, hrest⟩ := Bool.and_eq_true_iff.mp hholds
      obtain ⟨rfl, hends⟩ : place = .operand ∧ endsOperand lexemes := by
        simpa [fits] using hfits
      obtain ⟨hfills, hplace⟩ := ih hrest
      obtain ⟨hword, hwhen⟩ := h.not_starts_of_endsOperand hends
      rw [mark_append _ _ hword hwhen, placeAfter_append, hinner.ends]
      exact ⟨.hole hinner.balanced hfills, hplace⟩

end Fills

end Lexeme

namespace Piece

open Lexeme

variable {α : Type}

/-- The lexemes of a text with holes, given those of the holes. -/
def lexemes (fill : α → List Lexeme) : List (Piece α) → List Lexeme
  | [] => []
  | .char c :: rest => push c (lexemes fill rest)
  | .hole place :: rest => fill place ++ lexemes fill rest

def startsHole : List (Piece α) → Bool
  | .hole _ :: _ => true
  | _ => false

/-- Whether a hole before these pieces ends there. -/
def startsApart : List (Piece α) → Bool
  | [] => true
  | .char c :: _ => c ≠ '\x27' && !isWordPart c
  | .hole _ :: _ => false

/-- Whether no hole touches a word or another hole, and there are no strings. -/
def isApart : List (Piece α) → Bool
  | [] => true
  | .char c :: rest => c ≠ '\x27' && !(isWordPart c && startsHole rest) && isApart rest
  | .hole _ :: rest => startsApart rest && isApart rest

/-- The lexemes with a string in the place of each hole. -/
def skeleton (pieces : List (Piece α)) : List Lexeme :=
  lexemes (fun _ => [.string]) pieces

theorem startsApart_write {pieces : List (Piece α)} (h : startsApart pieces)
    (fill : α → List Char) : Lexeme.startsApart (write fill pieces) := by
  cases pieces with
  | nil => rfl
  | cons piece rest =>
      cases piece with
      | char c => simpa [write, Lexeme.startsApart, startsApart] using h
      | hole place => cases h

theorem head_skeleton {pieces : List (Piece α)} (h : startsHole pieces = false) :
    (skeleton pieces).head? ≠ some .string := by
  cases pieces with
  | nil => simp [skeleton, lexemes]
  | cons piece rest =>
      cases piece with
      | hole place => cases h
      | char c =>
          rw [skeleton, lexemes]
          unfold push
          split
          · split <;> simp
          split
          · simp
          split <;> simp

theorem fills_lex_write {fill : α → List Char} {pieces : List (Piece α)} (hapart : isApart pieces)
    (hholes : ∀ place, .hole place ∈ pieces → IsOperand (lex (fill place))) :
    Fills IsOperand (skeleton pieces) (lex (write fill pieces)) := by
  induction pieces with
  | nil => exact .nil
  | cons piece rest ih =>
      have hrest : isApart rest → Fills IsOperand (skeleton rest) (lex (write fill rest)) :=
        fun hapart => ih hapart fun place hplace => hholes place (List.mem_cons_of_mem _ hplace)
      cases piece with
      | char c =>
          obtain ⟨⟨hquote, hword⟩, hapart⟩ :
              (c ≠ '\x27' ∧ (isWordPart c = false ∨ startsHole rest = false)) ∧ isApart rest := by
            simpa [isApart] using hapart
          rw [write, lex_cons hquote]
          refine (hrest hapart).push fun hpart => head_skeleton (hword.resolve_left ?_)
          rw [hpart]
          decide
      | hole place =>
          obtain ⟨hstarts, hapart⟩ := Bool.and_eq_true_iff.mp hapart
          have hplace := hholes place List.mem_cons_self
          rw [write, lex_append hplace.balanced (startsApart_write hstarts fill)]
          exact .hole hplace (hrest hapart)

/-- The skeleton with its keywords. -/
def frame (pieces : List (Piece α)) : List Lexeme :=
  mark .operand (skeleton pieces)

/-- Whether the text is read alike whatever operands are in its holes, and is an operand then. -/
def isFrame (pieces : List (Piece α)) : Bool :=
  isApart pieces && holdsOperands .operand (skeleton pieces) && isBalanced (frame pieces) &&
    placeAfter .operand (skeleton pieces) = .operator

/-- Operands in the holes of a frame make an operand. -/
theorem fills_read_write {fill : α → List Char} {pieces : List (Piece α)} (h : isFrame pieces)
    (hholes : ∀ place, .hole place ∈ pieces → IsOperand (lex (fill place))) :
    Fills (isBalanced ·) (frame pieces) (read (write fill pieces)) ∧
      IsOperand (lex (write fill pieces)) := by
  obtain ⟨⟨⟨hapart, hholds⟩, hbalanced⟩, hends⟩ : ((isApart pieces ∧
      holdsOperands .operand (skeleton pieces)) ∧ isBalanced (frame pieces)) ∧
      placeAfter .operand (skeleton pieces) = .operator := by
    simpa [isFrame] using h
  obtain ⟨hfills, hplace⟩ := (fills_lex_write hapart hholes).mark hholds
  exact ⟨hfills, hfills.isBalanced_eq.trans hbalanced, hplace.trans hends⟩

/-- A text without holes. -/
def fixed (text : String) : List (Piece α) :=
  text.toList.map .char

theorem write_append (fill : α → List Char) (pieces rest : List (Piece α)) :
    write fill (pieces ++ rest) = write fill pieces ++ write fill rest := by
  induction pieces with
  | nil => rfl
  | cons piece pieces ih =>
      cases piece with
      | char c => rw [List.cons_append, write, write, ih, List.cons_append]
      | hole place => rw [List.cons_append, write, write, ih, List.append_assoc]

theorem write_fixed (fill : α → List Char) (text : String) :
    write fill (fixed text) = text.toList := by
  unfold fixed
  induction text.toList with
  | nil => rfl
  | cons c rest ih => rw [List.map_cons, write, ih]

end Piece

namespace Lexeme

/-- A text between operands that is followed by one again. -/
structure IsSeparator (text : List Char) : Prop where
  startsApart : ∀ rest, startsApart (text ++ rest)
  not_when : ∀ rest, startsWhen (lex text ++ rest) = false
  endsApart : endsApart text
  mark : ∀ rest, mark .operator (lex text ++ rest) = lex text ++ mark .operand rest
  balanced : isBalanced (lex text)

theorem isBalanced_read_intercalate {separator : List Char} (h : IsSeparator separator)
    {texts : List (List Char)} (htexts : ∀ text ∈ texts, IsOperand (lex text)) :
    isBalanced (read (separator.intercalate texts)) := by
  induction texts with
  | nil => rfl
  | cons text rest ih =>
      obtain ⟨htext, hrest⟩ := List.forall_mem_cons.mp htexts
      cases rest with
      | nil =>
          rw [List.intercalate_singleton]
          exact htext.balanced
      | cons next rest =>
          have hlex := lex_endsApart_append h.endsApart (separator.intercalate (next :: rest))
          rw [List.intercalate_cons_cons, List.append_assoc,
            read_append htext (h.startsApart _) (hlex ▸ h.not_when _), hlex, h.mark]
          exact isBalanced_append htext.balanced (isBalanced_append h.balanced (ih hrest))

theorem isSeparator_comma : IsSeparator ", ".toList :=
  ⟨fun _ => rfl, fun _ => rfl, by decide, fun _ => rfl, by decide⟩

theorem isSeparator_and : IsSeparator " AND ".toList :=
  ⟨fun _ => rfl, fun _ => rfl, by decide, fun _ => rfl, by decide⟩

theorem read_enclosed {inner : List Char} (h : isBalanced (read inner)) :
    lex ('(' :: (inner ++ [')'])) = .opening :: (lex inner ++ [.closing]) ∧
      mark .operand (lex inner ++ [.closing]) = read inner ++ [.closing] := by
  constructor
  · rw [lex_cons (by decide), lex_append h rfl]
    rfl
  · rw [mark_append _ _ rfl rfl]
    rfl

theorem isUnit_parenthesized {inner : List Char} (h : isBalanced (read inner)) :
    isUnit (read ('(' :: (inner ++ [')']))) := by
  obtain ⟨hlex, hmark⟩ := read_enclosed h
  rw [read, hlex, mark]
  change isEnclosed .parenthesis (mark .operand (lex inner ++ [.closing]))
  rw [hmark]
  exact isEnclosed_concat rfl h

theorem isUnit_applied {name inner : List Char} (hname : IsWord name)
    (h : isBalanced (read inner)) : isUnit (read (name ++ '(' :: (inner ++ [')']))) := by
  obtain ⟨hlex, hmark⟩ := read_enclosed h
  have hoperand : IsOperand (lex name) := .of_isUnit hname.isUnit
  have hwhen : startsWhen (lex ('(' :: (inner ++ [')']))) = false := by
    rw [hlex]
    rfl
  rw [read_append hoperand rfl hwhen, hname.read, hlex]
  change isEnclosed .parenthesis (mark .operand (lex inner ++ [.closing]))
  rw [hmark]
  exact isEnclosed_concat rfl h

end Lexeme

theorem isWordPart_of_isIdentifierChar {c : Char} (h : isIdentifierChar c) :
    Lexeme.isWordPart c := by
  rw [Lexeme.isWordPart, h]
  rfl

theorem isWord_of_isIdentifier {name : String} (h : isIdentifier name) :
    Lexeme.IsWord name.toList := by
  refine ⟨?_, fun c hc => isWordPart_of_isIdentifierChar (isIdentifierChar_of_mem h c hc)⟩
  intro hnil
  rw [isIdentifier, hnil] at h
  cases h

theorem isWord_upper {name : String} (h : isIdentifier name) :
    Lexeme.IsWord (Text.upper name).toList := by
  constructor
  · rw [toList_upper h]
    simpa using (isWord_of_isIdentifier h).ne_nil
  · exact fun c hc => isWordPart_of_isIdentifierChar (isIdentifierChar_of_mem_upper h c hc)

end StreamQuery
