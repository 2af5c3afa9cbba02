import Mathlib.Data.List.Forall2

/-!
# Items of a text

Items of a text are told apart if each of them shows where it ends. A run of characters of one kind
ends at the first character of another kind, and a list of items ends where no comma follows.
-/

namespace StreamQuery

/-- A number is read back from its digits. -/
theorem toString_nat_injective : Function.Injective (toString : Nat → String) := by
  intro m n h
  rw [Nat.toString_eq_ofList_toDigits, Nat.toString_eq_ofList_toDigits, String.ofList_inj] at h
  calc
    m = Nat.ofDigitChars 10 (Nat.toDigits 10 m) 0 :=
      (Nat.ofDigitChars_toDigits (by decide) (by decide)).symm
    _ = Nat.ofDigitChars 10 (Nat.toDigits 10 n) 0 := by rw [h]
    _ = n := Nat.ofDigitChars_toDigits (by decide) (by decide)

theorem isDigit_of_mem_toString {n : Nat} {c : Char} (h : c ∈ (toString n).toList) :
    c.isDigit := by
  rw [Nat.toString_eq_ofList_toDigits, String.toList_ofList] at h
  exact Nat.isDigit_of_mem_toDigits (by decide) (by decide) h

theorem not_mem_intercalate {c : Char} {separator : List Char} {pieces : List (List Char)}
    (hseparator : c ∉ separator) (hpieces : ∀ piece ∈ pieces, c ∉ piece) :
    c ∉ separator.intercalate pieces := by
  induction pieces with
  | nil => exact List.not_mem_nil
  | cons first rest ih =>
      rw [List.forall_mem_cons] at hpieces
      cases rest with
      | nil => simpa using hpieces.1
      | cons second rest =>
          rw [List.intercalate_cons_cons, List.mem_append, List.mem_append]
          rintro ((hfirst | hmem) | hrest)
          · exact hpieces.1 hfirst
          · exact hseparator hmem
          · exact ih hpieces.2 hrest

/-- Whether a run of characters with `p` ends before this text. -/
def endsRun (p : Char → Bool) (text : List Char) : Bool :=
  text.head?.all fun c => !p c

theorem takeWhile_run {p : Char → Bool} {run rest : List Char} (hrun : ∀ c ∈ run, p c)
    (hrest : endsRun p rest) : (run ++ rest).takeWhile p = run := by
  rw [List.takeWhile_append_of_pos hrun]
  cases rest with
  | nil => exact List.append_nil run
  | cons c rest =>
      have hc : p c = false := by simpa [endsRun] using hrest
      rw [List.takeWhile_cons_of_neg (by simp [hc]), List.append_nil]

/-- Two runs that end in the same text are the same. -/
theorem run_inj {p : Char → Bool} {run run' rest rest' : List Char} (hrun : ∀ c ∈ run, p c)
    (hrun' : ∀ c ∈ run', p c) (hrest : endsRun p rest) (hrest' : endsRun p rest')
    (h : run ++ rest = run' ++ rest') : run = run' ∧ rest = rest' := by
  have heq : run = run' := by
    calc
      run = (run ++ rest).takeWhile p := (takeWhile_run hrun hrest).symm
      _ = (run' ++ rest').takeWhile p := by rw [h]
      _ = run' := takeWhile_run hrun' hrest'
  subst heq
  exact ⟨rfl, List.append_cancel_left h⟩

/-- Whether an item can end before this text: at its end, at a comma, or where a list is closed. -/
def endsItem (text : List Char) : Bool :=
  endsRun (fun c => c ≠ ',' && c ≠ ')') text

theorem endsRun_of_endsItem {p : Char → Bool} {text : List Char} (h : endsItem text)
    (hcomma : p ',' = false) (hclosing : p ')' = false) : endsRun p text := by
  cases text with
  | nil => rfl
  | cons c rest =>
      have hc : c = ',' ∨ c = ')' := by
        by_cases hcomma : c = ','
        · exact Or.inl hcomma
        · simpa [endsItem, endsRun, hcomma] using h
      rcases hc with rfl | rfl
      · simp [endsRun, hcomma]
      · simp [endsRun, hclosing]

section

variable {α : Type} {write : α → List Char} {valid : α → Prop}

/-- A text that begins with an item shows which item it is, and where it ends. -/
def ShowsEnd (write : α → List Char) (valid : α → Prop) : Prop :=
  ∀ {a b : α} {rest rest' : List Char}, valid a → valid b → endsItem rest → endsItem rest' →
    write a ++ rest = write b ++ rest' → a = b ∧ rest = rest'

theorem showsEnd_run {p : Char → Bool} (hcomma : p ',' = false) (hclosing : p ')' = false) :
    ShowsEnd String.toList fun word => ∀ c ∈ word.toList, p c := by
  intro word word' rest rest' hword hword' hrest hrest' h
  have hends := endsRun_of_endsItem hrest hcomma hclosing
  have hends' := endsRun_of_endsItem hrest' hcomma hclosing
  obtain ⟨hsame, hafter⟩ := run_inj hword hword' hends hends' h
  exact ⟨String.toList_inj.mp hsame, hafter⟩

/-- The text after the first item of a list. -/
def afterItem (rest : List Char) : List (List Char) → List Char
  | [] => rest
  | texts => ", ".toList ++ (", ".toList.intercalate texts ++ rest)

theorem intercalate_cons_append (first : List Char) (texts : List (List Char)) (rest : List Char) :
    ", ".toList.intercalate (first :: texts) ++ rest = first ++ afterItem rest texts := by
  cases texts with
  | nil => simp [afterItem]
  | cons second texts =>
      rw [List.intercalate_cons_cons, afterItem, List.append_assoc, List.append_assoc]
      exact List.cons_ne_nil second texts

theorem endsItem_afterItem {rest : List Char} (hrest : endsItem rest) (texts : List (List Char)) :
    endsItem (afterItem rest texts) := by
  cases texts with
  | nil => exact hrest
  | cons second texts => rfl

/-- A list of items shows which items it has, if what follows is not read as the next item. -/
theorem ShowsEnd.intercalate (hwrite : ShowsEnd write valid) {items items' : List α}
    (hne : items ≠ []) (hne' : items' ≠ []) (hitems : ∀ item ∈ items, valid item)
    (hitems' : ∀ item ∈ items', valid item) {rest rest' : List Char} (hrest : endsItem rest)
    (hrest' : endsItem rest') (hcomma : rest.head? ≠ some ',') (hcomma' : rest'.head? ≠ some ',')
    (h : ", ".toList.intercalate (items.map write) ++ rest =
      ", ".toList.intercalate (items'.map write) ++ rest') : items = items' ∧ rest = rest' := by
  induction items generalizing items' with
  | nil => exact absurd rfl hne
  | cons item items ih =>
      obtain ⟨hitem, hmore⟩ := List.forall_mem_cons.mp hitems
      obtain ⟨item', items', rfl⟩ := List.exists_cons_of_ne_nil hne'
      obtain ⟨hitem', hmore'⟩ := List.forall_mem_cons.mp hitems'
      rw [List.map_cons, List.map_cons, intercalate_cons_append, intercalate_cons_append] at h
      obtain ⟨rfl, hafter⟩ := hwrite hitem hitem' (endsItem_afterItem hrest _)
        (endsItem_afterItem hrest' _) h
      cases items with
      | nil =>
          cases items' with
          | nil => exact ⟨rfl, hafter⟩
          | cons second items' =>
              rw [show rest = _ from hafter] at hcomma
              exact absurd rfl hcomma
      | cons second items =>
          cases items' with
          | nil =>
              rw [show rest' = _ from hafter.symm] at hcomma'
              exact absurd rfl hcomma'
          | cons second' items' =>
              obtain ⟨hsame, hends⟩ := ih (List.cons_ne_nil _ _) (List.cons_ne_nil _ _) hmore
                hmore' (List.append_cancel_left hafter)
              exact ⟨congrArg (item :: ·) hsame, hends⟩

end

end StreamQuery
