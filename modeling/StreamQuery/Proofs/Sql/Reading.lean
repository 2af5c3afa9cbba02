import StreamQuery.Lowering
import StreamQuery.Proofs.Sql.Shape

/-!
# Reading conditions back

Conditions made of columns, numbers, strings, operators and negations have texts that can be read in
one way only. A reader knows from the first word what an operand is, and from the blank or the
parenthesis after it where the operand ends. The word `NOT` alone does not tell a negation from a
column of that name; what tells them apart is that no operator begins with a parenthesis.
-/

namespace StreamQuery

def SqlOp.all : List SqlOp :=
  [.add, .subtract, .multiply, .divide, .modulo, .equal, .notEqual .angles, .notEqual .bang,
   .greater, .greaterEqual, .less, .lessEqual, .and, .or]

namespace Sql

/-- Conditions over columns that are named by a path of identifiers, and the literals of whole
numbers and strings. -/
inductive IsCondition : Sql → Prop
  | column {path : List String} (hne : path ≠ []) (hpath : ∀ name ∈ path, isIdentifier name) :
    IsCondition (.column (String.intercalate "." path))
  | int {n : Int} {clause text : String} (h : (Constant.int n).literal clause = .ok text) :
    IsCondition (.literal text)
  | string {s clause text : String} (h : (Constant.string s).literal clause = .ok text) :
    IsCondition (.literal text)
  | binary (op : SqlOp) {left right : Sql} (hleft : IsCondition left)
    (hright : IsCondition right) : IsCondition (.binary op left right)
  | not {operand : Sql} (h : IsCondition operand) : IsCondition (.not operand)

/-- Whether a character belongs to the word that it stands in. -/
def isWordChar (c : Char) : Bool :=
  c ≠ ' ' && c ≠ '(' && c ≠ ')'

/-- A word is a column if it begins as a name does, and a number otherwise. -/
def ofWord (word : List Char) : Sql :=
  if word.head?.any isIdentifierStart then .column (String.ofList word)
  else .literal (String.ofList word)

/-- The operator between two blanks, and the text after it. -/
def readOperator : List Char → Option (SqlOp × List Char)
  | ' ' :: text => do
    let op ← SqlOp.all.find? fun op => op.symbol.toList = text.takeWhile (· ≠ ' ')
    return (op, (text.dropWhile (· ≠ ' ')).tail)
  | _ => none

/-- The operand at the start of a text, and the text after it. Operands are nested at most `depth`
deep. -/
def readOperand (depth : Nat) (text : List Char) : Option (Sql × List Char) :=
  match depth with
  | 0 => none
  | depth + 1 =>
    match text with
    | '(' :: text => do
      let (left, text) ← readOperand depth text
      let (op, text) ← readOperator text
      let (right, text) ← readOperand depth text
      return (.binary op left right, text.tail)
    | '\x27' :: _ =>
      match Token.read text with
      | .string value :: _ => some (.literal (quoted value), text.drop (quoted value).toList.length)
      | _ => none
    | _ =>
      let word := text.takeWhile isWordChar
      let rest := text.dropWhile isWordChar
      if word = "NOT".toList ∧ rest.take 2 = " (".toList then do
        let (operand, text) ← readOperand depth (rest.drop 2)
        return (.not operand, text.tail)
      else some (ofWord word, rest)

/-- What can follow an operand: nothing, a closing parenthesis, or an operator after a blank. -/
def endsOperand : List Char → Bool
  | [] => true
  | ')' :: _ => true
  | ' ' :: c :: _ => c ≠ '('
  | _ => false

section Words

variable {word rest : List Char}

theorem takeWhile_isWordChar_of_endsOperand (hrest : endsOperand rest) :
    rest.takeWhile isWordChar = [] ∧ rest.dropWhile isWordChar = rest := by
  unfold endsOperand at hrest
  split at hrest
  · exact ⟨rfl, rfl⟩
  · exact ⟨rfl, rfl⟩
  · exact ⟨rfl, rfl⟩
  · cases hrest

theorem take_two_ne_of_endsOperand (hrest : endsOperand rest) : rest.take 2 ≠ " (".toList := by
  intro htake
  unfold endsOperand at hrest
  split at hrest
  · cases htake
  · cases htake
  · next c _ =>
      have hc : c = '(' := (List.cons.inj (List.cons.inj htake).2).1
      rw [hc] at hrest
      cases hrest
  · cases hrest

theorem endsString_of_endsOperand (hrest : endsOperand rest) : Token.endsString rest := by
  unfold endsOperand at hrest
  split at hrest
  · rfl
  · rfl
  · rfl
  · cases hrest

/-- A word that opens neither a parenthesis nor a string is read up to its end. -/
theorem readOperand_word {c : Char} {more : List Char} (hword : word = c :: more)
    (hchars : ∀ d ∈ word, isWordChar d) (hquote : c ≠ '\x27') (hrest : endsOperand rest)
    (depth : Nat) : readOperand (depth + 1) (word ++ rest) = some (ofWord word, rest) := by
  obtain ⟨htake, hdrop⟩ := takeWhile_isWordChar_of_endsOperand hrest
  have hparen : c ≠ '(' := by
    rintro rfl
    have hchar := hchars '(' (by simp [hword])
    cases hchar
  have hwordTake : (word ++ rest).takeWhile isWordChar = word := by
    rw [List.takeWhile_append_of_pos hchars, htake, List.append_nil]
  have hwordDrop : (word ++ rest).dropWhile isWordChar = rest := by
    rw [List.dropWhile_append_of_pos hchars, hdrop]
  have hnot : ¬(word = "NOT".toList ∧ rest.take 2 = " (".toList) := by
    rintro ⟨-, hnot⟩
    exact take_two_ne_of_endsOperand hrest hnot
  rw [readOperand, hwordTake, hwordDrop, if_neg hnot]
  · intro text heq
    rw [hword] at heq
    exact hparen (List.cons.inj heq).1
  · intro text heq
    rw [hword] at heq
    exact hquote (List.cons.inj heq).1

end Words

theorem isWordChar_of_isIdentifierChar {c : Char} (h : isIdentifierChar c) : isWordChar c := by
  have hne : ∀ d : Char, isIdentifierChar d = false → c ≠ d := by
    rintro d hd rfl
    rw [hd] at h
    cases h
  simp [isWordChar, hne ' ' (by decide), hne '(' (by decide), hne ')' (by decide)]

theorem isWordChar_of_isDigit {c : Char} (h : c.isDigit) : isWordChar c := by
  have hne : ∀ d : Char, d.isDigit = false → c ≠ d := by
    rintro d hd rfl
    rw [hd] at h
    cases h
  simp [isWordChar, hne ' ' (by decide), hne '(' (by decide), hne ')' (by decide)]

theorem isIdentifierStart_of_isDigit {c : Char} (h : c.isDigit) : isIdentifierStart c = false := by
  have hle : c.val ≤ '9'.val := of_decide_eq_true (Bool.and_eq_true_iff.mp h).2
  have hcode : ∀ code < 0x3a, isIdentifierStart (Char.ofNat code) = false := by decide
  have hlt : c.toNat < 0x3a := Nat.lt_of_le_of_lt hle (by decide)
  simpa [Char.ofNat_toNat] using hcode c.toNat hlt

theorem isWordChar_of_mem_path {path : List String} (hpath : ∀ name ∈ path, isIdentifier name) :
    ∀ c ∈ (String.intercalate "." path).toList, isWordChar c := by
  rw [String.toList_intercalate]
  induction path with
  | nil => simp
  | cons name rest ih =>
      obtain ⟨hname, hrest⟩ := List.forall_mem_cons.mp hpath
      have hchars : ∀ c ∈ name.toList, isWordChar c := fun c hc =>
        isWordChar_of_isIdentifierChar (isIdentifierChar_of_mem hname c hc)
      cases rest with
      | nil => simpa using hchars
      | cons next rest =>
          simp only [List.map_cons, List.intercalate_cons_cons] at ih ⊢
          intro c hc
          rcases List.mem_append.mp hc with hc | hc
          · rcases List.mem_append.mp hc with hc | hc
            · exact hchars c hc
            · rw [List.mem_singleton.mp hc]
              rfl
          · exact ih hrest c hc

theorem head_of_isIdentifier {name : String} (h : isIdentifier name) :
    ∃ c more, name.toList = c :: more ∧ isIdentifierStart c := by
  unfold isIdentifier at h
  split at h
  · cases h
  · next c more heq => exact ⟨c, more, heq, (Bool.and_eq_true_iff.mp h).1⟩

theorem head_of_path {path : List String} (hne : path ≠ [])
    (hpath : ∀ name ∈ path, isIdentifier name) :
    ∃ c more, (String.intercalate "." path).toList = c :: more ∧ isIdentifierStart c := by
  obtain ⟨name, rest, rfl⟩ := List.exists_cons_of_ne_nil hne
  obtain ⟨c, more, hname, hstart⟩ := head_of_isIdentifier (hpath name List.mem_cons_self)
  rw [String.toList_intercalate, List.map_cons, hname]
  cases rest with
  | nil => exact ⟨c, more, by simp, hstart⟩
  | cons next rest =>
      rw [List.map_cons, List.intercalate_cons_cons]
      exact ⟨c, _, rfl, hstart⟩

/-- The digits of a number, after a sign if there is one. -/
theorem head_of_int (n : Int) :
    ∃ c more, (toString n).toList = c :: more ∧ (c = '-' ∨ c.isDigit) ∧ ∀ d ∈ more, d.isDigit := by
  have hdigits : ∀ (n : Nat) (c : Char), c ∈ Nat.toDigits 10 n → c.isDigit := fun n c hc =>
    Nat.isDigit_of_mem_toDigits (by decide) (by decide) hc
  cases n with
  | ofNat n =>
      obtain ⟨c, more, hcons⟩ := List.exists_cons_of_ne_nil (@Nat.toDigits_ne_nil n 10)
      have hall := hdigits n
      rw [hcons] at hall
      obtain ⟨hc, hmore⟩ := List.forall_mem_cons.mp hall
      refine ⟨c, more, ?_, Or.inr hc, hmore⟩
      change (String.ofList (Nat.toDigits 10 n)).toList = _
      rw [String.toList_ofList, hcons]
  | negSucc n =>
      refine ⟨'-', Nat.toDigits 10 (n + 1), ?_, Or.inl rfl, hdigits (n + 1)⟩
      change ("-" ++ String.ofList (Nat.toDigits 10 (n + 1))).toList = _
      rw [String.toList_append, String.toList_ofList, List.singleton_append, String.toList_ofList]

theorem mem_toString_int {n : Int} {c : Char} (h : c ∈ (toString n).toList) :
    c = '-' ∨ c.isDigit := by
  obtain ⟨first, more, hchars, hfirst, hmore⟩ := head_of_int n
  rw [hchars, List.mem_cons] at h
  rcases h with rfl | h
  · exact hfirst
  · exact Or.inr (hmore c h)

theorem readOperator_symbol (op : SqlOp) (rest : List Char) :
    readOperator (' ' :: (op.symbol.toList ++ ' ' :: rest)) = some (op, rest) := by
  cases op with
  | notEqual spelling => cases spelling <;> rfl
  | _ => rfl

theorem endsOperand_symbol (op : SqlOp) (rest : List Char) :
    endsOperand (' ' :: (op.symbol.toList ++ rest)) := by
  cases op with
  | notEqual spelling => cases spelling <;> rfl
  | _ => rfl

/-- An operand nested this deep is read back from its text, up to where the text ends. -/
def ReadBack (depth : Nat) (t : Sql) : Prop :=
  ∀ rest, endsOperand rest → readOperand depth (t.text.toList ++ rest) = some (t, rest)

theorem readBack_column {path : List String} (hne : path ≠ [])
    (hpath : ∀ name ∈ path, isIdentifier name) (depth : Nat) :
    ReadBack (depth + 1) (.column (String.intercalate "." path)) := by
  intro rest hrest
  change readOperand _ ((String.intercalate "." path).toList ++ rest) = _
  obtain ⟨c, more, hword, hstart⟩ := head_of_path hne hpath
  have hquote : c ≠ '\x27' := by
    rintro rfl
    exact absurd hstart (by decide)
  have hcolumn : ofWord (String.intercalate "." path).toList =
      .column (String.intercalate "." path) := by
    rw [ofWord, if_pos (by simpa [hword] using hstart), String.ofList_toList]
  rw [readOperand_word hword (isWordChar_of_mem_path hpath) hquote hrest, hcolumn]

theorem readBack_int (n : Int) (depth : Nat) : ReadBack (depth + 1) (.literal (toString n)) := by
  intro rest hrest
  change readOperand _ ((toString n).toList ++ rest) = _
  obtain ⟨c, more, hword, hc, -⟩ := head_of_int n
  have hchars : ∀ d ∈ (toString n).toList, isWordChar d := by
    intro d hd
    rcases mem_toString_int hd with rfl | hd
    · rfl
    · exact isWordChar_of_isDigit hd
  have hquote : c ≠ '\x27' := by
    rintro rfl
    exact absurd hc (by decide)
  have hstart : isIdentifierStart c = false := by
    rcases hc with rfl | hc
    · rfl
    · exact isIdentifierStart_of_isDigit hc
  have hhead : (toString n).toList.head?.any isIdentifierStart = false := by
    rw [hword, List.head?_cons, Option.any_some, hstart]
  have hliteral : ofWord (toString n).toList = .literal (toString n) := by
    rw [ofWord, hhead, String.ofList_toList]
    rfl
  rw [readOperand_word hword hchars hquote hrest, hliteral]

theorem readBack_quoted (s : String) (depth : Nat) :
    ReadBack (depth + 1) (.literal (quoted s)) := by
  intro rest hrest
  change readOperand _ ((quoted s).toList ++ rest) = _
  have hread : Token.read ((quoted s).toList ++ rest) = .string s :: Token.read rest := by
    have hclosed : ∀ text, .unclosed text ∉ Token.read (quoted s).toList := by
      simp [Token.read_quoted]
    have happend := Token.readFrom_append (endsString_of_endsOperand hrest) none _ hclosed
    change Token.read ((quoted s).toList ++ rest) =
      Token.read (quoted s).toList ++ Token.read rest at happend
    rw [happend, Token.read_quoted]
    rfl
  obtain ⟨more, hquote⟩ : ∃ more, (quoted s).toList ++ rest = '\x27' :: more :=
    ⟨_, by rw [quoted, String.toList_ofList]; rfl⟩
  rw [hquote, readOperand, ← hquote, hread]
  change some (Sql.literal (quoted s), ((quoted s).toList ++ rest).drop (quoted s).toList.length) = _
  rw [List.drop_left]

theorem readBack_binary (op : SqlOp) {left right : Sql} {depth : Nat}
    (hleft : ReadBack depth left) (hright : ReadBack depth right) :
    ReadBack (depth + 1) (.binary op left right) := by
  intro rest _
  have htext : (Sql.binary op left right).text.toList ++ rest =
      '(' :: (left.text.toList ++ ' ' :: (op.symbol.toList ++ ' ' ::
        (right.text.toList ++ ')' :: rest))) := by
    simp [text_binary]
  rw [htext, readOperand]
  simp only [hleft _ (endsOperand_symbol op _), readOperator_symbol, hright (')' :: rest) rfl,
    Option.bind_eq_bind, Option.bind_some, List.tail_cons, Option.pure_def]

theorem readBack_not {operand : Sql} {depth : Nat} (h : ReadBack depth operand) :
    ReadBack (depth + 1) (.not operand) := by
  intro rest _
  have htext : (Sql.not operand).text.toList ++ rest =
      'N' :: 'O' :: 'T' :: ' ' :: '(' :: (operand.text.toList ++ ')' :: rest) := by
    simp [text_not]
  have hword : ('N' :: 'O' :: 'T' :: ' ' :: '(' :: (operand.text.toList ++ ')' :: rest)).takeWhile
      isWordChar = "NOT".toList := rfl
  have hafter : ('N' :: 'O' :: 'T' :: ' ' :: '(' :: (operand.text.toList ++ ')' :: rest)).dropWhile
      isWordChar = ' ' :: '(' :: (operand.text.toList ++ ')' :: rest) := rfl
  rw [htext, readOperand, hword, hafter, if_pos ⟨rfl, rfl⟩]
  · change (do
      let (operand, text) ← readOperand depth (operand.text.toList ++ ')' :: rest)
      return (Sql.not operand, text.tail)) = _
    rw [h (')' :: rest) rfl]
    rfl
  · simp
  · simp

/-- Every condition is read back at all depths from some depth on. -/
theorem exists_depth_readBack {t : Sql} (h : IsCondition t) :
    ∃ depth, ∀ more, depth ≤ more → ReadBack more t := by
  -- A depth of at least one is a successor, and leaves its predecessor to the operands.
  have hsucc : ∀ {t : Sql} (depth : Nat), (∀ more, depth ≤ more → ReadBack (more + 1) t) →
      ∀ more, depth + 1 ≤ more → ReadBack more t := by
    intro t depth hread more hmore
    obtain ⟨inner, rfl⟩ := Nat.exists_eq_add_of_le' (Nat.le_of_add_left_le hmore)
    exact hread inner (by omega)
  induction h with
  | column hne hpath => exact ⟨1, hsucc 0 fun more _ => readBack_column hne hpath more⟩
  | int h =>
      obtain rfl := Except.ok.inj h
      exact ⟨1, hsucc 0 fun more _ => readBack_int _ more⟩
  | string h =>
      obtain rfl := Except.ok.inj h
      exact ⟨1, hsucc 0 fun more _ => readBack_quoted _ more⟩
  | binary op hleft hright ihleft ihright =>
      obtain ⟨leftDepth, hreadLeft⟩ := ihleft
      obtain ⟨rightDepth, hreadRight⟩ := ihright
      refine ⟨_, hsucc (max leftDepth rightDepth) fun more hmore => ?_⟩
      exact readBack_binary op (hreadLeft more (by omega)) (hreadRight more (by omega))
  | not h ih =>
      obtain ⟨depth, hread⟩ := ih
      exact ⟨_, hsucc depth fun more hmore => readBack_not (hread more hmore)⟩

/-- Two conditions with one text are one condition. -/
theorem eq_of_text_eq (t t' : Sql) (ht : IsCondition t) (ht' : IsCondition t')
    (htext : t.text = t'.text) : t = t' := by
  obtain ⟨depth, hread⟩ := exists_depth_readBack ht
  obtain ⟨depth', hread'⟩ := exists_depth_readBack ht'
  have hsame := hread (max depth depth') (Nat.le_max_left _ _) [] rfl
  rw [htext, hread' (max depth depth') (Nat.le_max_right _ _) [] rfl] at hsame
  exact (Prod.mk.inj (Option.some.inj hsame)).1.symm

/-- A condition on columns that are called like operators, with a string that looks like the text
around it. -/
def keywordColumns : Expr :=
  .lambda ["o"] (.binary .andAlso
    (.binary .equal (.member (.parameter "o" .unknown) "NOT" .string)
      (.constant (.string "it's) AND (")))
    (.unary .not (.binary .subtract (.member (.parameter "o" .unknown) "OR" .int)
      (.constant (.int (-5)))) .bool))

theorem eq_of_text_eq_keywordColumns :
    ∃ t t', keywordColumns.lowerCondition (LoweringRules.filter.withAlias "o" "AND") = .ok t ∧
      t' = .binary .and
        (.binary .equal (.column "AND.NOT") (.literal "'it''s) AND ('"))
        (.not (.binary .subtract (.column "AND.OR") (.literal "-5"))) ∧
      t.text = "((AND.NOT = 'it''s) AND (') AND NOT ((AND.OR - -5)))" ∧ t.text = t'.text ∧
      IsCondition t ∧ IsCondition t' ∧ t = t' := by
  have hcolumn : ∀ name, isIdentifier name →
      IsCondition (.column (String.intercalate "." ["AND", name])) := by
    intro name hname
    refine .column (by simp) ?_
    simpa using And.intro (by decide : isIdentifier "AND") hname
  have htree : IsCondition (.binary .and
      (.binary .equal (.column "AND.NOT") (.literal "'it''s) AND ('"))
      (.not (.binary .subtract (.column "AND.OR") (.literal "-5")))) := by
    have hstring : (Constant.string "it's) AND (").literal "WHERE" = .ok "'it''s) AND ('" := rfl
    have hint : (Constant.int (-5)).literal "WHERE" = .ok "-5" := rfl
    exact .binary .and (.binary .equal (hcolumn "NOT" (by decide)) (.string hstring))
      (.not (.binary .subtract (hcolumn "OR" (by decide)) (.int hint)))
  have htext : (Sql.binary .and
      (.binary .equal (.column "AND.NOT") (.literal "'it''s) AND ('"))
      (.not (.binary .subtract (.column "AND.OR") (.literal "-5")))).text =
        "((AND.NOT = 'it''s) AND (') AND NOT ((AND.OR - -5)))" := by
    decide +kernel
  exact ⟨_, _, rfl, rfl, htext, rfl, htree, htree, eq_of_text_eq _ _ htree htree rfl⟩

end Sql

end StreamQuery
