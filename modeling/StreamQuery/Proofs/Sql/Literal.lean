import StreamQuery.Sql.Literal

/-!
# The texts of literals

The literal of a number is one word, with a sign if it is negative, and a duration is a number with
its unit. So the kind of a constant can be read off the beginning of its text.
-/

namespace StreamQuery

namespace Literal

/-- A digit, and then digits and points. -/
def isNumeral (word : List Char) : Bool :=
  word.head?.any Char.isDigit && word.all fun c => c.isDigit || c = '.'

/-- The sign of a number. -/
def sign (negative : Bool) : List Char :=
  if negative then ['-'] else []

section

variable {digits : List Char} (hdigits : ∀ c ∈ digits, c.isDigit)

include hdigits

theorem isNumeral_of_isDigit (hne : digits ≠ []) : isNumeral digits := by
  obtain ⟨c, rest, rfl⟩ := List.exists_cons_of_ne_nil hne
  rw [isNumeral, Bool.and_eq_true]
  refine ⟨hdigits c List.mem_cons_self, List.all_eq_true.mpr fun d hd => ?_⟩
  rw [hdigits d hd, Bool.true_or]

theorem isNumeral_pointed_at {places : Nat} (hplaces : 0 < places) (hle : places ≤ digits.length) :
    isNumeral (digits.take places ++ '.' :: digits.drop places) := by
  cases digits with
  | nil =>
      rw [List.length_nil] at hle
      omega
  | cons c rest =>
      obtain ⟨places, rfl⟩ := Nat.exists_eq_add_of_lt hplaces
      rw [isNumeral, Bool.and_eq_true]
      refine ⟨?_, List.all_eq_true.mpr ?_⟩
      · rw [Nat.zero_add, List.take_succ_cons]
        exact hdigits c List.mem_cons_self
      · intro d hd
        rw [List.mem_append, List.mem_cons] at hd
        rcases hd with hd | rfl | hd
        · rw [hdigits d (List.mem_of_mem_take hd), Bool.true_or]
        · rfl
        · rw [hdigits d (List.mem_of_mem_drop hd), Bool.true_or]

end

theorem isDigit_padded (n places : Nat) :
    ∀ c ∈ List.replicate (places + 1 - (Nat.toDigits 10 n).length) '0' ++ Nat.toDigits 10 n,
      c.isDigit := by
  intro c hc
  rcases List.mem_append.mp hc with hc | hc
  · rw [(List.mem_replicate.mp hc).2]
    rfl
  · exact Nat.isDigit_of_mem_toDigits (by decide) (by decide) hc

theorem isNumeral_toDigits (n : Nat) : isNumeral (Nat.toDigits 10 n) :=
  isNumeral_of_isDigit (fun _ hc => Nat.isDigit_of_mem_toDigits (by decide) (by decide) hc)
    Nat.toDigits_ne_nil

theorem isNumeral_padded (n places : Nat) :
    let padded := List.replicate (places + 1 - (Nat.toDigits 10 n).length) '0' ++ Nat.toDigits 10 n
    isNumeral
      (padded.take (padded.length - places) ++ '.' :: padded.drop (padded.length - places)) := by
  intro padded
  have hlength : places < padded.length := by
    rw [List.length_append, List.length_replicate]
    omega
  exact isNumeral_pointed_at (isDigit_padded n places) (Nat.sub_pos_of_lt hlength) (Nat.sub_le _ _)

theorem exists_sign_of_int (n : Int) :
    ∃ negative word, (toString n).toList = sign negative ++ word ∧ isNumeral word := by
  cases n with
  | ofNat n =>
      refine ⟨false, Nat.toDigits 10 n, ?_, isNumeral_toDigits n⟩
      change (String.ofList (Nat.toDigits 10 n)).toList = _
      rw [String.toList_ofList]
      rfl
  | negSucc n =>
      refine ⟨true, Nat.toDigits 10 (n + 1), ?_, isNumeral_toDigits (n + 1)⟩
      change ("-" ++ String.ofList (Nat.toDigits 10 (n + 1))).toList = _
      rw [String.toList_append, String.toList_ofList, String.toList_ofList]
      rfl

theorem exists_sign_of_decimal (x : Decimal) :
    ∃ negative word, x.text.toList = sign negative ++ word ∧ isNumeral word := by
  have hpointed : isNumeral (Decimal.pointed x.mantissa.natAbs x.scale) := by
    simp only [Decimal.pointed]
    split
    · refine isNumeral_of_isDigit (isDigit_padded _ _) ?_
      simp [Nat.toDigits_ne_nil]
    · exact isNumeral_padded _ _
  simp only [Decimal.text]
  split
  · refine ⟨true, _, ?_, hpointed⟩
    rw [String.toList_append, String.toList_ofList, String.toList_ofList]
    rfl
  · refine ⟨false, _, ?_, hpointed⟩
    rw [String.toList_ofList]
    rfl

theorem isNumeral_digits (d : Binary64.Digits) : isNumeral d.text.toList := by
  simp only [Binary64.Digits.text]
  split
  · rw [String.toList_ofList]
    refine isNumeral_of_isDigit ?_ (by simp [Nat.toDigits_ne_nil])
    intro c hc
    rcases List.mem_append.mp hc with hc | hc
    · exact Nat.isDigit_of_mem_toDigits (by decide) (by decide) hc
    · rw [(List.mem_replicate.mp hc).2]
      rfl
  · rw [String.toList_ofList]
    exact isNumeral_padded _ _

theorem exists_sign_of_binary64 (x : Binary64) (hnan : x.isNaN = false) :
    ∃ negative word, x.text.toList = sign negative ++ word ∧
      (isNumeral word ∨ word = "inf".toList) := by
  have hmagnitude : isNumeral x.magnitudeText.toList ∨ x.magnitudeText.toList = "inf".toList := by
    unfold Binary64.magnitudeText
    split
    · exact Or.inr rfl
    split
    · exact Or.inl (by decide)
    · exact Or.inl (isNumeral_digits _)
  refine ⟨x.isNegative, x.magnitudeText.toList, ?_, hmagnitude⟩
  rw [Binary64.text, hnan]
  cases x.isNegative with
  | false => rfl
  | true => exact String.toList_append

end Literal

open Literal

/-- How the literal of a constant is written. -/
inductive Constant.Written : Constant → List Char → Prop
  | null : Written .null "NULL".toList
  | bool (value : Bool) : Written (.bool value) (if value then "true" else "false").toList
  | string (value : String) : Written (.string value) (quoted value).toList
  | notNumber {value : Binary64} (h : value.isNaN) : Written (.float value) "NaN".toList
  | number {value : Constant} {word : List Char} (negative : Bool)
    (hvalue : value ≠ .null) (hword : isNumeral word ∨ word = "inf".toList) :
    Written value (sign negative ++ word)
  | duration {word : List Char} (value : Duration) (negative : Bool) (hword : isNumeral word)
    (unit : Duration.TimeUnit) :
    Written (.duration value) (sign negative ++ (word ++ ' ' :: unit.keyword.toList))

namespace Constant

variable {value : Constant}

theorem written_of_literal {clause text : String} (h : value.literal clause = .ok text) :
    Written value text.toList := by
  cases value with
  | null =>
      obtain rfl := Except.ok.inj h
      exact .null
  | bool value =>
      obtain rfl := Except.ok.inj h
      exact .bool value
  | int n =>
      obtain rfl := Except.ok.inj h
      obtain ⟨negative, word, htext, hword⟩ := exists_sign_of_int n
      rw [htext]
      exact .number negative (by simp) (Or.inl hword)
  | float x =>
      obtain rfl := Except.ok.inj h
      cases hnan : x.isNaN with
      | true =>
          rw [Binary64.text, hnan]
          exact .notNumber hnan
      | false =>
          obtain ⟨negative, word, htext, hword⟩ := exists_sign_of_binary64 x hnan
          rw [htext]
          exact .number negative (by simp) hword
  | decimal x =>
      obtain rfl := Except.ok.inj h
      obtain ⟨negative, word, htext, hword⟩ := exists_sign_of_decimal x
      rw [htext]
      exact .number negative (by simp) (Or.inl hword)
  | string value =>
      obtain rfl := Except.ok.inj h
      exact .string value
  | duration d =>
      obtain rfl := Except.ok.inj h
      obtain ⟨negative, word, htext, hword⟩ := exists_sign_of_int
        (d.milliseconds.tdiv (Duration.TimeUnit.coarsest d.milliseconds).length)
      rw [Duration.text, Duration.TimeUnit.format, String.toList_append, String.toList_append,
        htext, List.append_assoc, List.append_assoc]
      exact .duration d negative hword _
  | window w => cases h

/-- Only the null constant is written like one. -/
theorem Written.eq_null {text : List Char} (h : Written value text) (htext : text = "NULL".toList) :
    value = .null := by
  -- A number starts with a digit, a sign or a small letter.
  have hnumber : ∀ (negative : Bool) (word rest : List Char),
      isNumeral word ∨ word = "inf".toList → sign negative ++ (word ++ rest) ≠ "NULL".toList := by
    intro negative word rest hword heq
    cases negative with
    | true => cases heq
    | false =>
        rcases hword with hword | rfl
        · cases word with
          | nil => cases hword
          | cons c word =>
              obtain rfl := (List.cons.inj heq).1
              cases hword
        · cases heq
  cases h with
  | null => rfl
  | bool value => cases value <;> cases htext
  | string value =>
      rw [quoted, String.toList_ofList] at htext
      cases htext
  | notNumber h => cases htext
  | @number value word negative hvalue hword =>
      rw [← List.append_nil word] at htext
      exact absurd htext (hnumber negative word [] hword)
  | duration value negative hword unit =>
      exact absurd htext (hnumber negative _ _ (Or.inl hword))

end Constant

end StreamQuery
