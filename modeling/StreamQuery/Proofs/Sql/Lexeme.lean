import StreamQuery.Proofs.Sql.Literal
import StreamQuery.Proofs.Sql.Token
import StreamQuery.Identifier

/-!
# Words and brackets of SQL text

The words, strings, parentheses and signs of a text. Parentheses are brackets, and so are `CASE` and
`END` where they are keywords: a column may have these names too, so it is seen from the place of a
word which of them it is. A text is balanced if its brackets match, and a unit if it stands for one
operand wherever it is written: a single word, number or string, or a text that is enclosed by one
pair of brackets, with the name of a function before it or without.
-/

namespace StreamQuery

inductive Bracket where
  | parenthesis
  | case
deriving DecidableEq

inductive Lexeme where
  | word (text : List Char)
  | string
  | opening
  | closing
  /-- The keyword `CASE`. -/
  | caseWord
  /-- The keyword `END`. -/
  | endWord
  /-- Any other character, blanks included. -/
  | sign (c : Char)
  /-- A string without its closing quote. -/
  | unclosed
deriving DecidableEq

namespace Lexeme

def isWordPart (c : Char) : Bool :=
  isIdentifierChar c || c = '.' || c = '*'

/-- Puts a character before lexemes. -/
def push (c : Char) (lexemes : List Lexeme) : List Lexeme :=
  if isWordPart c then
    match lexemes with
    | .word text :: rest => .word (c :: text) :: rest
    | _ => .word [c] :: lexemes
  else if c = '(' then .opening :: lexemes
  else if c = ')' then .closing :: lexemes
  else .sign c :: lexemes

def ofTokens : List Token → List Lexeme
  | [] => []
  | .char c :: rest => push c (ofTokens rest)
  | .string _ :: rest => .string :: ofTokens rest
  | .unclosed _ :: rest => .unclosed :: ofTokens rest

/-- The lexemes of a text, with every word as a plain one. -/
def lex (text : List Char) : List Lexeme :=
  ofTokens (Token.read text)

/-- Keywords are read in either case. -/
def isKeyword (keyword : String) (text : List Char) : Bool :=
  text.map Char.toUpper = keyword.toList

/-- What comes next in a text: an operand, or an operator that goes on after one. -/
inductive Place where
  | operand
  | operator
deriving DecidableEq

/-- The words that an operand follows, where they stand after another one. -/
def isConnective (text : List Char) : Bool :=
  ["WHEN", "THEN", "ELSE", "AND", "OR", "*"].any (isKeyword · text)

def next (place : Place) : Lexeme → Place
  | .word text => if place = .operator ∧ isConnective text then .operand else .operator
  | .opening => .operand
  | .sign c => if c = ' ' then place else .operand
  | _ => .operator

def placeAfter (place : Place) (lexemes : List Lexeme) : Place :=
  lexemes.foldl next place

def startsWhen : List Lexeme → Bool
  | .sign c :: .word text :: _ => c = ' ' && isKeyword "WHEN" text
  | _ => false

/-- A word as the keyword that it is in its place: `CASE` is one where an operand can be, if it is
followed by `WHEN`, and `END` is one where there cannot be an operand. -/
def resolve (place : Place) (rest : List Lexeme) : Lexeme → Lexeme
  | .word text =>
    if place = .operand ∧ isKeyword "CASE" text ∧ startsWhen rest then .caseWord
    else if place = .operator ∧ isKeyword "END" text then .endWord
    else .word text
  | l => l

def mark (place : Place) : List Lexeme → List Lexeme
  | [] => []
  | l :: rest => l.resolve place rest :: mark (next place l) rest

def read (text : List Char) : List Lexeme :=
  mark .operand (lex text)

def opens? : Lexeme → Option Bracket
  | .opening => some .parenthesis
  | .caseWord => some .case
  | _ => none

def closes? : Lexeme → Option Bracket
  | .closing => some .parenthesis
  | .endWord => some .case
  | _ => none

def isBracket (l : Lexeme) : Bool :=
  l.opens?.isSome || l.closes?.isSome

/-- The open brackets after a lexeme, the innermost first. -/
def step (opened : List Bracket) (l : Lexeme) : Option (List Bracket) :=
  if l = .unclosed then none
  else
    match l.opens?, l.closes? with
    | some bracket, _ => some (bracket :: opened)
    | none, some bracket => if opened.head? = some bracket then some opened.tail else none
    | none, none => some opened

def scan (opened : List Bracket) (lexemes : List Lexeme) : Option (List Bracket) :=
  lexemes.foldlM step opened

def isBalanced (lexemes : List Lexeme) : Bool :=
  scan [] lexemes = some []

/-- Whether the last lexeme closes a bracket and what comes before it is balanced. -/
def isEnclosed (bracket : Bracket) (lexemes : List Lexeme) : Bool :=
  lexemes.getLast?.any (·.closes? = some bracket) && isBalanced lexemes.dropLast

/-- Whether the lexemes are a number without sign. -/
def isNumber : List Lexeme → Bool
  | [.word text] => Literal.isNumeral text || text = "inf".toList
  | _ => false

def isUnit : List Lexeme → Bool
  | [.string] => true
  | [.word _] => true
  | .sign c :: rest => c = '-' && isNumber rest
  | .opening :: rest => isEnclosed .parenthesis rest
  | .word _ :: .opening :: rest => isEnclosed .parenthesis rest
  | .caseWord :: rest => isEnclosed .case rest
  | _ => false

/-! ### Balance -/

theorem step_append {opened opened' : List Bracket} {l : Lexeme} (h : step opened l = some opened')
    (below : List Bracket) : step (opened ++ below) l = some (opened' ++ below) := by
  unfold step at h ⊢
  split at h
  · cases h
  · next hclosed =>
      rw [if_neg hclosed]
      split at h
      · next bracket _ hopens =>
          obtain rfl := Option.some.inj h
          rfl
      · next bracket hopens hcloses =>
          split at h
          · next hhead =>
              obtain rfl := Option.some.inj h
              cases opened with
              | nil => cases hhead
              | cons top opened => simpa using hhead
          · cases h
      · obtain rfl := Option.some.inj h
        rfl

/-- Brackets that were opened before stay open. -/
theorem scan_append_right {opened opened' : List Bracket} {lexemes : List Lexeme}
    (h : scan opened lexemes = some opened') (below : List Bracket) :
    scan (opened ++ below) lexemes = some (opened' ++ below) := by
  induction lexemes generalizing opened with
  | nil =>
      obtain rfl := Option.some.inj h
      rfl
  | cons l rest ih =>
      rw [scan, List.foldlM_cons] at h ⊢
      obtain ⟨next, hstep, hrest⟩ := Option.bind_eq_some_iff.mp h
      exact Option.bind_eq_some_iff.mpr ⟨next ++ below, step_append hstep below, ih hrest⟩

theorem scan_append (opened : List Bracket) (lexemes rest : List Lexeme) :
    scan opened (lexemes ++ rest) = (scan opened lexemes).bind (scan · rest) :=
  List.foldlM_append

theorem scan_of_isBalanced {lexemes : List Lexeme} (h : isBalanced lexemes)
    (opened : List Bracket) : scan opened lexemes = some opened :=
  scan_append_right (of_decide_eq_true h) opened

theorem isBalanced_append {lexemes rest : List Lexeme} (h : isBalanced lexemes)
    (hrest : isBalanced rest) : isBalanced (lexemes ++ rest) := by
  refine decide_eq_true ?_
  rw [scan_append, scan_of_isBalanced h]
  exact of_decide_eq_true hrest

theorem isEnclosed_concat {bracket : Bracket} {lexemes : List Lexeme} {l : Lexeme}
    (hcloses : l.closes? = some bracket) (h : isBalanced lexemes) :
    isEnclosed bracket (lexemes ++ [l]) := by
  rw [isEnclosed, List.getLast?_concat, List.dropLast_concat, h]
  simpa using hcloses

/-- A bracket that is closed before the end does not enclose the whole. -/
theorem not_isEnclosed_of_scan {bracket : Bracket} {lexemes rest : List Lexeme}
    (h : scan [bracket] lexemes = some []) (hrest : rest ≠ []) :
    isEnclosed bracket (lexemes ++ rest) = false := by
  rw [isEnclosed, Bool.and_eq_false_iff, List.dropLast_append_of_ne_nil hrest]
  refine Or.inr (decide_eq_false fun hbalanced => ?_)
  rw [scan_append] at hbalanced
  obtain ⟨opened, hscan, -⟩ := Option.bind_eq_some_iff.mp hbalanced
  have hbelow := scan_append_right hscan [bracket]
  rw [List.nil_append, h] at hbelow
  have hnil : opened ++ [bracket] = [] := (Option.some.inj hbelow).symm
  simp at hnil

theorem scan_cons_of_opens {l : Lexeme} {bracket : Bracket} (h : l.opens? = some bracket)
    (opened : List Bracket) (lexemes : List Lexeme) :
    scan opened (l :: lexemes) = scan (bracket :: opened) lexemes := by
  have hstep : step opened l = some (bracket :: opened) := by
    cases l with
    | unclosed => cases h
    | _ => simp [step, h]
  rw [scan, List.foldlM_cons, hstep]
  rfl

theorem scan_cons_of_not_isBracket {l : Lexeme} (hbracket : l.isBracket = false)
    (hunclosed : l ≠ .unclosed) (opened : List Bracket) (lexemes : List Lexeme) :
    scan opened (l :: lexemes) = scan opened lexemes := by
  have hnone : l.opens? = none ∧ l.closes? = none := by
    simpa [isBracket, Bool.or_eq_false_iff] using hbracket
  have hstep : step opened l = some opened := by
    rw [step, if_neg hunclosed, hnone.1, hnone.2]
  rw [scan, List.foldlM_cons, hstep]
  rfl

/-- What has a blank outside all brackets is no unit. -/
theorem not_isUnit_of_blank {lexemes : List Lexeme} (h : isBalanced lexemes)
    (rest : List Lexeme) : isUnit (lexemes ++ .sign ' ' :: rest) = false := by
  have hscan : scan [] lexemes = some [] := of_decide_eq_true h
  cases lexemes with
  | nil => rfl
  | cons first lexemes =>
      cases first with
      | string => cases lexemes <;> rfl
      | opening =>
          rw [scan_cons_of_opens rfl] at hscan
          exact not_isEnclosed_of_scan hscan (List.cons_ne_nil _ _)
      | caseWord =>
          rw [scan_cons_of_opens rfl] at hscan
          exact not_isEnclosed_of_scan hscan (List.cons_ne_nil _ _)
      | sign c =>
          have hnumber : isNumber (lexemes ++ .sign ' ' :: rest) = false := by
            cases lexemes with
            | nil => rfl
            | cons l lexemes => cases l <;> cases lexemes <;> rfl
          change (decide (c = '-') && isNumber (lexemes ++ .sign ' ' :: rest)) = false
          rw [hnumber, Bool.and_false]
      | word text =>
          rw [scan_cons_of_not_isBracket rfl (by simp)] at hscan
          cases lexemes with
          | nil => rfl
          | cons second lexemes =>
              cases second with
              | opening =>
                  rw [scan_cons_of_opens rfl] at hscan
                  exact not_isEnclosed_of_scan hscan (List.cons_ne_nil _ _)
              | _ => rfl
      | _ => rfl

theorem scan_of_mem_unclosed {lexemes : List Lexeme} (h : .unclosed ∈ lexemes)
    (opened : List Bracket) : scan opened lexemes = none := by
  induction lexemes generalizing opened with
  | nil => cases h
  | cons l rest ih =>
      rw [scan, List.foldlM_cons]
      rcases List.mem_cons.mp h with rfl | hrest
      · rfl
      · exact Option.bind_eq_none_iff.mpr fun opened' _ => ih hrest opened'

/-! ### Reading -/

def startsWord : List Lexeme → Bool
  | .word _ :: _ => true
  | _ => false

/-- Whether a word, number or string that ends before this text ends there. -/
def startsApart (text : List Char) : Bool :=
  text.head?.all fun c => c ≠ '\x27' && !isWordPart c

/-- Whether a word, number or string that starts after this text starts there. -/
def endsApart (text : List Char) : Bool :=
  Token.isPlain text && text.getLast?.all fun c => !isWordPart c

theorem startsWord_push {c : Char} (h : isWordPart c = false) (lexemes : List Lexeme) :
    startsWord (push c lexemes) = false := by
  unfold push
  rw [h, if_neg Bool.false_ne_true]
  split
  · rfl
  split <;> rfl

theorem push_cons_append (c : Char) (l : Lexeme) (lexemes rest : List Lexeme) :
    push c (l :: lexemes ++ rest) = push c (l :: lexemes) ++ rest := by
  unfold push
  split
  · cases l <;> rfl
  split
  · rfl
  split <;> rfl

theorem push_of_apart {c : Char} {lexemes : List Lexeme}
    (h : startsWord lexemes → isWordPart c = false) : push c lexemes = push c [] ++ lexemes := by
  unfold push
  split
  · next hword =>
      cases lexemes with
      | nil => rfl
      | cons l rest =>
          cases l with
          | word text =>
              rw [h rfl] at hword
              cases hword
          | _ => rfl
  split
  · rfl
  split <;> rfl

theorem push_ne_nil (c : Char) (lexemes : List Lexeme) : push c lexemes ≠ [] := by
  unfold push
  split
  · split <;> simp
  split
  · simp
  split <;> simp

theorem ofTokens_ne_nil {tokens : List Token} (h : tokens ≠ []) : ofTokens tokens ≠ [] := by
  cases tokens with
  | nil => exact absurd rfl h
  | cons token rest =>
      cases token with
      | char c => exact push_ne_nil c _
      | _ => exact List.cons_ne_nil _ _

/-- Lexemes are read apart where no word runs on. -/
theorem ofTokens_append {tokens rest : List Token}
    (h : startsWord (ofTokens rest) → ∀ c, tokens.getLast? = some (.char c) →
      isWordPart c = false) :
    ofTokens (tokens ++ rest) = ofTokens tokens ++ ofTokens rest := by
  induction tokens with
  | nil => rfl
  | cons token tokens ih =>
      have htail : ofTokens (tokens ++ rest) = ofTokens tokens ++ ofTokens rest := by
        refine ih fun hword c hlast => h hword c ?_
        cases tokens with
        | nil => cases hlast
        | cons next tokens => exact hlast
      cases token with
      | char c =>
          rw [List.cons_append, ofTokens, ofTokens, htail]
          cases tokens with
          | nil => exact push_of_apart fun hword => h hword c rfl
          | cons next tokens =>
              obtain ⟨l, lexemes, heq⟩ :=
                List.exists_cons_of_ne_nil (ofTokens_ne_nil (List.cons_ne_nil next tokens))
              rw [heq]
              exact push_cons_append c l lexemes _
      | string s => rw [List.cons_append, ofTokens, ofTokens, htail, List.cons_append]
      | unclosed s => rw [List.cons_append, ofTokens, ofTokens, htail, List.cons_append]

theorem mem_push_of_unclosed {lexemes : List Lexeme} (h : .unclosed ∈ lexemes) (c : Char) :
    .unclosed ∈ push c lexemes := by
  unfold push
  split
  · split
    · simpa using h
    · exact List.mem_cons_of_mem _ h
  split
  · exact List.mem_cons_of_mem _ h
  split <;> exact List.mem_cons_of_mem _ h

theorem mem_ofTokens_of_unclosed {tokens : List Token} {s : List Char} (h : .unclosed s ∈ tokens) :
    .unclosed ∈ ofTokens tokens := by
  induction tokens with
  | nil => cases h
  | cons token rest ih =>
      rcases List.mem_cons.mp h with rfl | hrest
      · exact List.mem_cons_self
      · cases token with
        | char c => exact mem_push_of_unclosed (ih hrest) c
        | string s => exact List.mem_cons_of_mem _ (ih hrest)
        | unclosed s => exact List.mem_cons_self

theorem mem_mark_of_unclosed {lexemes : List Lexeme} (h : .unclosed ∈ lexemes) (place : Place) :
    .unclosed ∈ mark place lexemes := by
  induction lexemes generalizing place with
  | nil => cases h
  | cons l rest ih =>
      rcases List.mem_cons.mp h with rfl | hrest
      · exact List.mem_cons_self
      · exact List.mem_cons_of_mem _ (ih hrest (next place l))

theorem closed_of_isBalanced {text : List Char} (h : isBalanced (read text)) (s : List Char) :
    .unclosed s ∉ Token.read text := by
  intro hs
  have hscan : scan [] (read text) = some [] := of_decide_eq_true h
  have hmem : .unclosed ∈ read text := mem_mark_of_unclosed (mem_ofTokens_of_unclosed hs) _
  rw [scan_of_mem_unclosed hmem] at hscan
  cases hscan

theorem startsWord_lex {text : List Char} (h : startsApart text) :
    startsWord (lex text) = false := by
  cases text with
  | nil => rfl
  | cons c rest =>
      obtain ⟨hquote, hword⟩ : c ≠ '\x27' ∧ isWordPart c = false := by
        simpa [startsApart] using h
      rw [lex, Token.read, Token.readFrom, if_neg hquote]
      exact startsWord_push hword _

theorem lex_append {text rest : List Char} (h : isBalanced (read text))
    (hrest : startsApart rest) : lex (text ++ rest) = lex text ++ lex rest := by
  have hends : Token.endsString rest := by
    cases rest with
    | nil => rfl
    | cons c rest =>
        have hapart : c ≠ '\x27' ∧ isWordPart c = false := by
          simpa [startsApart] using hrest
        simpa [Token.endsString] using hapart.1
  have htokens : Token.read (text ++ rest) = Token.read text ++ Token.read rest :=
    Token.readFrom_append hends none text (closed_of_isBalanced h)
  rw [lex, htokens]
  refine ofTokens_append fun hword => ?_
  rw [show startsWord (ofTokens (Token.read rest)) = false from startsWord_lex hrest] at hword
  cases hword

theorem lex_endsApart_append {text : List Char} (h : endsApart text) (rest : List Char) :
    lex (text ++ rest) = lex text ++ lex rest := by
  obtain ⟨hplain, hlast⟩ := Bool.and_eq_true_iff.mp h
  rw [lex, Token.read_plain_append hplain, lex, Token.read_plain hplain]
  refine ofTokens_append fun _ c hc => ?_
  rw [List.getLast?_map] at hc
  obtain ⟨d, hd, hcd⟩ := Option.map_eq_some_iff.mp hc
  obtain rfl := Token.char.inj hcd
  rw [hd] at hlast
  simpa using hlast

theorem lex_cons {c : Char} (hquote : c ≠ '\x27') (text : List Char) :
    lex (c :: text) = push c (lex text) := by
  rw [lex, Token.read, Token.readFrom, if_neg hquote]
  rfl

theorem lex_word {text : List Char} (hne : text ≠ []) (h : ∀ c ∈ text, isWordPart c) :
    lex text = [.word text] := by
  induction text with
  | nil => exact absurd rfl hne
  | cons c text ih =>
      obtain ⟨hc, htext⟩ := List.forall_mem_cons.mp h
      have hquote : c ≠ '\x27' := by
        rintro rfl
        cases hc
      rw [lex_cons hquote]
      unfold push
      rw [if_pos hc]
      cases text with
      | nil => rfl
      | cons d text => rw [ih (List.cons_ne_nil d text) htext]

theorem read_quoted (s : String) : read (quoted s).toList = [.string] := by
  rw [read, lex, Token.read_quoted]
  rfl

/-! ### Places -/

theorem next_operand_word (text : List Char) : next .operand (.word text) = .operator := by
  rw [next, if_neg (by simp)]

/-- A word in the place of an operand is not read as a keyword, unless a case starts there. -/
theorem resolve_operand {text : List Char} {rest : List Lexeme} (h : startsWhen rest = false) :
    (Lexeme.word text).resolve .operand rest = .word text := by
  rw [resolve, if_neg (by simp [h]), if_neg (by simp)]

theorem resolve_word_cases (place : Place) (text : List Char) (rest : List Lexeme) :
    (Lexeme.word text).resolve place rest = .caseWord ∨
      ((Lexeme.word text).resolve place rest = .endWord ∧ isKeyword "END" text) ∨
      (Lexeme.word text).resolve place rest = .word text := by
  rw [resolve]
  by_cases hcase : place = .operand ∧ isKeyword "CASE" text ∧ startsWhen rest
  · exact Or.inl (if_pos hcase)
  · rw [if_neg hcase]
    by_cases hend : place = .operator ∧ isKeyword "END" text
    · exact Or.inr (Or.inl ⟨if_pos hend, hend.2⟩)
    · exact Or.inr (Or.inr (if_neg hend))

theorem startsWhen_append (lexemes : List Lexeme) {rest : List Lexeme}
    (hword : startsWord rest = false) (hwhen : startsWhen rest = false) :
    startsWhen (lexemes ++ rest) = startsWhen lexemes := by
  cases lexemes with
  | nil => exact hwhen
  | cons first lexemes =>
      cases lexemes with
      | cons second lexemes => cases first <;> cases second <;> rfl
      | nil =>
          cases first with
          | sign c =>
              cases rest with
              | nil => rfl
              | cons l rest =>
                  cases l with
                  | word text => cases hword
                  | _ => rfl
          | _ => rfl

theorem resolve_append (place : Place) (l : Lexeme) (lexemes : List Lexeme) {rest : List Lexeme}
    (hword : startsWord rest = false) (hwhen : startsWhen rest = false) :
    l.resolve place (lexemes ++ rest) = l.resolve place lexemes := by
  cases l with
  | word text => rw [resolve, resolve, startsWhen_append lexemes hword hwhen]
  | _ => rfl

/-- What comes after lexemes is marked from the place that they end in. -/
theorem mark_append (place : Place) (lexemes : List Lexeme) {rest : List Lexeme}
    (hword : startsWord rest = false) (hwhen : startsWhen rest = false) :
    mark place (lexemes ++ rest) = mark place lexemes ++ mark (placeAfter place lexemes) rest := by
  induction lexemes generalizing place with
  | nil => rfl
  | cons l lexemes ih =>
      rw [List.cons_append, mark, mark, resolve_append place l lexemes hword hwhen,
        ih (next place l), List.cons_append]
      rfl

theorem placeAfter_append (place : Place) (lexemes rest : List Lexeme) :
    placeAfter place (lexemes ++ rest) = placeAfter (placeAfter place lexemes) rest :=
  List.foldl_append

/-- Lexemes that are read as an operand: their brackets match, and an operator can follow. -/
structure IsOperand (lexemes : List Lexeme) : Prop where
  balanced : isBalanced (mark .operand lexemes)
  ends : placeAfter .operand lexemes = .operator

theorem read_append {text rest : List Char} (h : IsOperand (lex text)) (hrest : startsApart rest)
    (hwhen : startsWhen (lex rest) = false) :
    read (text ++ rest) = read text ++ mark .operator (lex rest) := by
  rw [read, lex_append h.balanced hrest, mark_append _ _ (startsWord_lex hrest) hwhen, h.ends]
  rfl

/-- An operand may go on with what can follow it. -/
theorem IsOperand.append {text rest : List Char} (h : IsOperand (lex text))
    (hrest : startsApart rest) (hwhen : startsWhen (lex rest) = false)
    (hbalanced : isBalanced (mark .operator (lex rest)))
    (hends : placeAfter .operator (lex rest) = .operator) : IsOperand (lex (text ++ rest)) := by
  constructor
  · change isBalanced (read (text ++ rest))
    rw [read_append h hrest hwhen]
    exact isBalanced_append h.balanced hbalanced
  · rw [lex_append h.balanced hrest, placeAfter_append, h.ends, hends]

/-- The characters of a word. -/
structure IsWord (text : List Char) : Prop where
  ne_nil : text ≠ []
  isWordPart : ∀ c ∈ text, isWordPart c

namespace IsWord

variable {text : List Char}

protected theorem lex (h : IsWord text) : lex text = [.word text] :=
  lex_word h.ne_nil h.isWordPart

protected theorem read (h : IsWord text) : read text = [.word text] := by
  rw [Lexeme.read, h.lex, mark, resolve_operand rfl]
  rfl

protected theorem isUnit (h : IsWord text) : isUnit (read text) := by
  rw [h.read]
  rfl

theorem of_isNumeral (h : Literal.isNumeral text) : IsWord text := by
  have hdigit : ∀ code < 0x3a, (Char.ofNat code).isDigit →
      Lexeme.isWordPart (Char.ofNat code) := by
    decide
  have hdigit : ∀ c : Char, c.isDigit → Lexeme.isWordPart c := by
    intro c hc
    have hlt : c.toNat < 0x3a :=
      Nat.lt_of_le_of_lt (of_decide_eq_true (Bool.and_eq_true_iff.mp hc).2) (by decide)
    have hcode := hdigit c.toNat hlt
    rw [Char.ofNat_toNat] at hcode
    exact hcode hc
  obtain ⟨hhead, hall⟩ := Bool.and_eq_true_iff.mp h
  constructor
  · rintro rfl
    cases hhead
  · intro c hc
    rcases Bool.or_eq_true_iff.mp (List.all_eq_true.mp hall c hc) with hc | hc
    · exact hdigit c hc
    · rw [of_decide_eq_true hc]
      rfl

theorem of_number (h : Literal.isNumeral text ∨ text = "inf".toList) : IsWord text := by
  rcases h with hnumeral | rfl
  · exact of_isNumeral hnumeral
  · exact ⟨by decide, List.all_eq_true.mp (by decide)⟩

end IsWord

theorem isNumber_eq_true {lexemes : List Lexeme} (h : isNumber lexemes) :
    ∃ text, lexemes = [.word text] := by
  unfold isNumber at h
  split at h
  · next text => exact ⟨text, rfl⟩
  · cases h

theorem exists_of_isEnclosed {bracket : Bracket} {lexemes : List Lexeme}
    (h : isEnclosed bracket lexemes) :
    ∃ inner l, lexemes = inner ++ [l] ∧ l.closes? = some bracket ∧ isBalanced inner := by
  obtain ⟨hlast, hbalanced⟩ := Bool.and_eq_true_iff.mp h
  cases hcase : lexemes.getLast? with
  | none =>
      rw [hcase] at hlast
      cases hlast
  | some l =>
      rw [hcase, Option.any_some, decide_eq_true_eq] at hlast
      obtain ⟨inner, rfl⟩ := List.getLast?_eq_some_iff.mp hcase
      rw [List.dropLast_concat] at hbalanced
      exact ⟨inner, l, rfl, hlast, hbalanced⟩

theorem opens?_of_closes? {l : Lexeme} {bracket : Bracket} (h : l.closes? = some bracket) :
    l.opens? = none := by
  cases l with
  | opening => cases h
  | caseWord => cases h
  | _ => rfl

theorem scan_of_isEnclosed {bracket : Bracket} {lexemes : List Lexeme}
    (h : isEnclosed bracket lexemes) : scan [bracket] lexemes = some [] := by
  obtain ⟨inner, l, rfl, hcloses, hinner⟩ := exists_of_isEnclosed h
  have hstep : step [bracket] l = some [] := by
    have hclosed : l ≠ .unclosed := by
      rintro rfl
      cases hcloses
    simp [step, hclosed, opens?_of_closes? hcloses, hcloses]
  rw [scan_append, scan_of_isBalanced hinner, Option.bind_some, scan, List.foldlM_cons, hstep]
  rfl

theorem isBalanced_of_isUnit {lexemes : List Lexeme} (h : isUnit lexemes) : isBalanced lexemes := by
  refine decide_eq_true ?_
  unfold isUnit at h
  split at h
  · rfl
  · rfl
  · obtain ⟨text, rfl⟩ := isNumber_eq_true (Bool.and_eq_true_iff.mp h).2
    rfl
  · rw [scan_cons_of_opens rfl]
    exact scan_of_isEnclosed h
  · rw [scan_cons_of_not_isBracket rfl (by simp), scan_cons_of_opens rfl]
    exact scan_of_isEnclosed h
  · rw [scan_cons_of_opens rfl]
    exact scan_of_isEnclosed h
  · cases h

/-- An operator can follow a string and a bracket that is closed. -/
theorem next_of_closes {place : Place} {l : Lexeme} {rest : List Lexeme}
    (h : l.resolve place rest = .string ∨ (l.resolve place rest).closes?.isSome) :
    next place l = .operator := by
  cases l with
  | word text =>
      rcases resolve_word_cases place text rest with heq | ⟨-, hend⟩ | heq
      · simp [heq, closes?] at h
      · have hkeyword : text.map Char.toUpper = "END".toList := of_decide_eq_true hend
        have hconnective : isConnective text = false := by
          simp only [isConnective, isKeyword, hkeyword]
          decide
        rw [next, if_neg (by simp [hconnective])]
      · simp [heq, closes?] at h
  | opening => simp [resolve, closes?] at h
  | sign c => simp [resolve, closes?] at h
  | _ => rfl

theorem placeAfter_of_mark_concat {place : Place} {lexemes before : List Lexeme} {last : Lexeme}
    (hmark : mark place lexemes = before ++ [last])
    (hlast : last = .string ∨ last.closes?.isSome) : placeAfter place lexemes = .operator := by
  induction lexemes generalizing place before with
  | nil => simp [mark] at hmark
  | cons l rest ih =>
      cases before with
      | nil =>
          obtain ⟨rfl, hnil⟩ := List.cons.inj hmark
          cases rest with
          | nil => exact next_of_closes hlast
          | cons second rest => cases hnil
      | cons first before => exact ih (List.cons.inj hmark).2

theorem placeAfter_of_mark_word {lexemes : List Lexeme} {text : List Char}
    (hmark : mark .operand lexemes = [.word text]) : placeAfter .operand lexemes = .operator := by
  cases lexemes with
  | nil => cases hmark
  | cons l rest =>
      obtain ⟨hl, hnil⟩ := List.cons.inj hmark
      cases rest with
      | cons second rest => cases hnil
      | nil =>
          cases l with
          | word text => exact next_operand_word text
          | _ => cases hl

theorem eq_of_resolve_sign {place : Place} {l : Lexeme} {rest : List Lexeme} {c : Char}
    (h : l.resolve place rest = .sign c) : l = .sign c := by
  cases l with
  | word text =>
      rcases resolve_word_cases place text rest with heq | ⟨heq, -⟩ | heq <;> simp [heq] at h
  | _ => exact h

/-- An operator can follow a unit. -/
theorem IsOperand.of_isUnit {lexemes : List Lexeme} (h : isUnit (mark .operand lexemes)) :
    IsOperand lexemes := by
  refine ⟨isBalanced_of_isUnit h, ?_⟩
  have henclosed : ∀ {bracket : Bracket} {before rest : List Lexeme},
      mark .operand lexemes = before ++ rest → isEnclosed bracket rest →
      placeAfter .operand lexemes = .operator := by
    intro bracket before rest hmark hrest
    obtain ⟨inner, last, rfl, hcloses, -⟩ := exists_of_isEnclosed hrest
    rw [← List.append_assoc] at hmark
    exact placeAfter_of_mark_concat hmark (Or.inr (by rw [hcloses]; rfl))
  generalize hmark : mark .operand lexemes = marked at h henclosed
  unfold isUnit at h
  split at h
  · exact @placeAfter_of_mark_concat _ _ [] _ hmark (Or.inl rfl)
  · exact placeAfter_of_mark_word hmark
  · obtain ⟨hminus, hnumber⟩ := Bool.and_eq_true_iff.mp h
    obtain ⟨text, rfl⟩ := isNumber_eq_true hnumber
    obtain rfl := of_decide_eq_true hminus
    cases lexemes with
    | nil => cases hmark
    | cons l lexemes =>
        obtain ⟨hl, hrest⟩ := List.cons.inj hmark
        obtain rfl := eq_of_resolve_sign hl
        exact @placeAfter_of_mark_word lexemes text hrest
  · exact henclosed (List.singleton_append).symm h
  · exact @henclosed _ [_, _] _ rfl h
  · exact henclosed (List.singleton_append).symm h
  · cases h

end Lexeme

end StreamQuery
