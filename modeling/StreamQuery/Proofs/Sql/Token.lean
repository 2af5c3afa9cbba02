import StreamQuery.Sql.Literal

/-!
# Tokens of SQL text

A string runs from a quote to the next quote that is not doubled, and stands for the text between
them with every doubled quote read as one. Outside strings every character is a token of its own,
so two texts with the same tokens have the same words, numbers and signs as well.
-/

namespace StreamQuery

inductive Token where
  | char (c : Char)
  | string (value : String)
  /-- A string without its closing quote. -/
  | unclosed (text : List Char)
deriving DecidableEq

namespace Token

/-- The tokens of a text, given what has been read of a string if one is open. -/
def readFrom : Option (List Char) → List Char → List Token
  | none, [] => []
  | none, c :: rest =>
    if c = '\x27' then readFrom (some []) rest else .char c :: readFrom none rest
  | some text, [] => [.unclosed text]
  | some text, '\x27' :: '\x27' :: rest => readFrom (some (text ++ ['\x27'])) rest
  | some text, c :: rest =>
    if c = '\x27' then .string (String.ofList text) :: readFrom none rest
    else readFrom (some (text ++ [c])) rest

def read (text : List Char) : List Token :=
  readFrom none text

/-- A token without the contents of its string. -/
def blank : Token → Token
  | .string _ => .string ""
  | other => other

/-- Whether all characters stand outside strings. -/
def isPlain (text : List Char) : Bool :=
  text.all (· ≠ '\x27')

/-- Whether a string that ends before this text stays closed. -/
def endsString (text : List Char) : Bool :=
  text.head? ≠ some '\x27'

theorem read_plain_append {text : List Char} (hplain : isPlain text) (rest : List Char) :
    read (text ++ rest) = text.map .char ++ read rest := by
  induction text with
  | nil => rfl
  | cons c text ih =>
      obtain ⟨hc, htext⟩ : c ≠ '\x27' ∧ isPlain text := by simpa [isPlain] using hplain
      simp only [read, List.cons_append, readFrom, if_neg hc, List.map_cons] at ih ⊢
      rw [ih htext]

theorem read_plain {text : List Char} (hplain : isPlain text) : read text = text.map .char := by
  simpa [read, readFrom] using read_plain_append hplain []

theorem readFrom_closing {rest : List Char} (hrest : endsString rest) (opened : List Char) :
    readFrom (some opened) ('\x27' :: rest) = .string (String.ofList opened) :: read rest := by
  cases rest with
  | nil => simp [readFrom, read]
  | cons c rest =>
      have hc : c ≠ '\x27' := by simpa [endsString] using hrest
      simp [readFrom, read, hc]

theorem readFrom_inside {c : Char} (hc : c ≠ '\x27') (opened rest : List Char) :
    readFrom (some opened) (c :: rest) = readFrom (some (opened ++ [c])) rest := by
  simp [readFrom, hc]

/-- Text after closed strings is read as if it stood alone, unless it doubles a closing quote. -/
theorem readFrom_append {rest : List Char} (hrest : endsString rest)
    (opened : Option (List Char)) (text : List Char)
    (hclosed : ∀ s, .unclosed s ∉ readFrom opened text) :
    readFrom opened (text ++ rest) = readFrom opened text ++ read rest := by
  fun_induction readFrom opened text with
  | case1 => rfl
  | case2 text ih => simp [readFrom, ih hclosed]
  | case3 c text hc ih => simp [readFrom, hc, ih (by simpa using hclosed)]
  | case4 text => simp at hclosed
  | case5 text opened ih => simp [readFrom, ih hclosed]
  | case6 opened text hdouble ih =>
      have hends : endsString (text ++ rest) := by
        cases text with
        | nil => exact hrest
        | cons d text =>
            have hd : d ≠ '\x27' := fun h => hdouble text rfl (by rw [h])
            simpa [endsString] using hd
      rw [List.cons_append, readFrom_closing hends, read, ih fun s hs => hclosed s (by simp [hs])]
      rfl
  | case7 opened c text hdouble hc ih =>
      rw [List.cons_append, readFrom_inside hc, ih hclosed]

theorem readFrom_escapeQuotes (opened text : List Char) :
    readFrom (some opened) (escapeQuotes text ++ ['\x27']) =
      [.string (String.ofList (opened ++ text))] := by
  induction text generalizing opened with
  | nil => simp [escapeQuotes, readFrom]
  | cons c text ih =>
      by_cases hc : c = '\x27'
      · subst hc
        simp [escapeQuotes, readFrom, ih]
      · simp [escapeQuotes, readFrom, hc, ih]

/-- A string literal is read back as the string that it was written for. -/
theorem read_quoted (s : String) : read (quoted s).toList = [.string s] := by
  simp [quoted, read, readFrom, readFrom_escapeQuotes]

theorem isPlain_append {text rest : List Char} (htext : isPlain text) (hrest : isPlain rest) :
    isPlain (text ++ rest) := by
  simp_all [isPlain]

theorem isPlain_of_isDigit {text : List Char} (h : ∀ c ∈ text, c.isDigit) : isPlain text := by
  simp only [isPlain, List.all_eq_true, decide_eq_true_eq]
  rintro c hc rfl
  exact absurd (h _ hc) (by decide)

theorem isPlain_toDigits (n : Nat) : isPlain (Nat.toDigits 10 n) :=
  isPlain_of_isDigit fun _ hc => Nat.isDigit_of_mem_toDigits (by decide) (by decide) hc

theorem isPlain_toString_int (n : Int) : isPlain (toString n).toList := by
  cases n with
  | ofNat n =>
      change isPlain (String.ofList (Nat.toDigits 10 n)).toList
      rw [String.toList_ofList]
      exact isPlain_toDigits n
  | negSucc n =>
      change isPlain ("-" ++ String.ofList (Nat.toDigits 10 (n + 1))).toList
      rw [String.toList_append]
      refine isPlain_append rfl ?_
      rw [String.toList_ofList]
      exact isPlain_toDigits (n + 1)

theorem isPlain_replicate_zero (n : Nat) : isPlain (List.replicate n '0') := by
  simp [isPlain]

theorem isPlain_pointed_at {digits : List Char} (h : isPlain digits) (n : Nat) :
    isPlain (digits.take n ++ '.' :: digits.drop n) := by
  simp only [isPlain, List.all_eq_true, decide_eq_true_eq, List.mem_append, List.mem_cons] at h ⊢
  rintro c (hc | rfl | hc)
  · exact h c (List.mem_of_mem_take hc)
  · decide
  · exact h c (List.mem_of_mem_drop hc)

theorem isPlain_decimal (x : Decimal) : isPlain x.text.toList := by
  have hpointed : isPlain (Decimal.pointed x.mantissa.natAbs x.scale) := by
    have hpadded := isPlain_append (isPlain_replicate_zero
      (x.scale + 1 - (Nat.toDigits 10 x.mantissa.natAbs).length))
      (isPlain_toDigits x.mantissa.natAbs)
    simp only [Decimal.pointed]
    split
    · exact hpadded
    · exact isPlain_pointed_at hpadded _
  simp only [Decimal.text]
  split
  · rw [String.toList_append]
    refine isPlain_append rfl ?_
    rwa [String.toList_ofList]
  · rwa [String.toList_ofList]

theorem isPlain_digits (d : Binary64.Digits) : isPlain d.text.toList := by
  simp only [Binary64.Digits.text]
  split
  · rw [String.toList_ofList]
    exact isPlain_append (isPlain_toDigits _) (isPlain_replicate_zero _)
  · rw [String.toList_ofList]
    exact isPlain_pointed_at (isPlain_append (isPlain_replicate_zero _) (isPlain_toDigits _)) _

theorem isPlain_binary64 (x : Binary64) : isPlain x.text.toList := by
  have hmagnitude : isPlain x.magnitudeText.toList := by
    unfold Binary64.magnitudeText
    split
    · rfl
    split
    · rfl
    · exact isPlain_digits _
  unfold Binary64.text
  split
  · rfl
  split
  · rw [String.toList_append]
    exact isPlain_append rfl hmagnitude
  · exact hmagnitude

theorem isPlain_duration (d : Duration) : isPlain d.text.toList := by
  have hkeyword : ∀ unit : Duration.TimeUnit, isPlain unit.keyword.toList := by
    intro unit
    cases unit <;> rfl
  unfold Duration.text Duration.TimeUnit.format
  rw [String.toList_append, String.toList_append]
  exact isPlain_append (isPlain_append (isPlain_toString_int _) rfl) (hkeyword _)

/-- Only the literals of strings have quotes. -/
theorem isPlain_literal {clause text : String} {value : Constant}
    (hstring : ∀ s, value ≠ .string s) (h : value.literal clause = .ok text) :
    isPlain text.toList := by
  cases value with
  | string s => exact absurd rfl (hstring s)
  | window w => cases h
  | null => cases h; rfl
  | bool b => cases h; cases b <;> rfl
  | int n => cases h; exact isPlain_toString_int n
  | float x => cases h; exact isPlain_binary64 x
  | decimal x => cases h; exact isPlain_decimal x
  | duration d => cases h; exact isPlain_duration d

end Token

end StreamQuery
