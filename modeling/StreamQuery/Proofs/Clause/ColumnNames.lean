import Mathlib.Data.List.Nodup
import Mathlib.Data.List.Perm.Subperm
import Mathlib.Data.Nat.Init
import StreamQuery.Clause.Select
import StreamQuery.Proofs.Text.Items

/-!
# The names of columns

Columns of a select list ask for names. A column gets the name it asks for, unless an earlier column
has taken it, and else the name with the least number after it that is still free. One of the first
candidates is always free, since there is one more of them than names that are taken. So the search
ends, and all names are different, also where a column asks for a name that looks numbered.
-/

namespace StreamQuery.SelectClause

/-- Different numbers make different candidates. -/
theorem numbered_injective (label : String) : Function.Injective (numbered label) := by
  -- A number makes a name longer, so the bare label is no numbered one.
  have hbare : ∀ n, label ≠ numbered label (n + 1) := by
    intro n heq
    have hlength := congrArg String.length heq
    simp only [numbered, String.length_append] at hlength
    have hunderscore : "_".length = 1 := rfl
    omega
  intro m n h
  cases m with
  | zero =>
      cases n with
      | zero => rfl
      | succ n => exact absurd h (hbare n)
  | succ m =>
      cases n with
      | zero => exact absurd h.symm (hbare m)
      | succ n => exact toString_nat_injective ((String.append_right_inj _).mp h)

/-- The candidates before this one are taken, and this one is not. -/
def IsFirstFree (used : List String) (label : String) (number : Nat) : Prop :=
  numbered label number ∉ used ∧ ∀ earlier < number, numbered label earlier ∈ used

/-- One candidate more than there are names in use cannot all be in use. -/
theorem exists_not_mem (used : List String) (label : String) :
    ∃ number ∈ List.range (used.length + 1), numbered label number ∉ used := by
  by_contra hnone
  simp only [not_exists, not_and, not_not] at hnone
  have hnodup : ((List.range (used.length + 1)).map (numbered label)).Nodup :=
    List.nodup_range.map (numbered_injective label)
  have hsubset : (List.range (used.length + 1)).map (numbered label) ⊆ used := by
    intro name hname
    obtain ⟨number, hnumber, rfl⟩ := List.mem_map.mp hname
    exact hnone number hnumber
  have hlength := (List.subperm_of_subset hnodup hsubset).length_le
  rw [List.length_map, List.length_range] at hlength
  omega

theorem exists_freeName_eq (used : List String) (label : String) :
    ∃ number, freeName used label = numbered label number ∧ IsFirstFree used label number := by
  obtain ⟨free, hrange, hfree⟩ := exists_not_mem used label
  rw [freeName, List.find?_map]
  cases hfind : (List.range (used.length + 1)).find? ((· ∉ used) ∘ numbered label) with
  | none =>
      have htaken := List.find?_eq_none.mp hfind free hrange
      simp only [Function.comp_apply, decide_eq_true_eq, not_not] at htaken
      exact absurd htaken hfree
  | some number =>
      obtain ⟨hnumber, -, hearlier⟩ := List.find?_range_eq_some.mp hfind
      exact ⟨number, rfl, by simpa using hnumber, by simpa using hearlier⟩

/-- The search for a name, at a candidate and with the number of the next one: it ends at a candidate
that is not used, and goes on from one that is. -/
inductive Settles (used : List String) (label : String) : String → Nat → String → Prop where
  | free {candidate : String} {next : Nat} (hfree : candidate ∉ used) :
      Settles used label candidate next candidate
  | taken {candidate name : String} {next : Nat} (htaken : candidate ∈ used)
      (hrest : Settles used label (label ++ "_" ++ toString next) (next + 1) name) :
      Settles used label candidate next name

theorem IsFirstFree.settles {used : List String} {label : String} {number : Nat}
    (h : IsFirstFree used label number) : Settles used label label 1 (numbered label number) := by
  have hfrom : ∀ start ≤ number,
      Settles used label (numbered label start) (start + 1) (numbered label number) := by
    intro start hstart
    induction hstart using Nat.decreasingInduction with
    | self => exact .free h.1
    | of_succ start hlt ih => exact .taken (h.2 start hlt) ih
  exact hfrom 0 (Nat.zero_le number)

/-- The name is the label, or if that is used the label with the least number that makes it free. -/
def IsLeastName (used : List String) (label name : String) : Prop :=
  (label ∉ used → name = label) ∧
  (label ∈ used → ∃ k, 1 ≤ k ∧ name = label ++ "_" ++ toString k ∧ name ∉ used ∧
    ∀ j, 1 ≤ j → j < k → label ++ "_" ++ toString j ∈ used)

theorem IsFirstFree.isLeastName {used : List String} {label : String} {number : Nat}
    (h : IsFirstFree used label number) : IsLeastName used label (numbered label number) := by
  obtain ⟨hfree, hearlier⟩ := h
  cases number with
  | zero => exact ⟨fun _ => rfl, fun hused => absurd hused hfree⟩
  | succ number =>
      refine ⟨fun hunused => absurd (hearlier 0 (Nat.zero_lt_succ number)) hunused, fun _ => ?_⟩
      refine ⟨number + 1, Nat.le_add_left 1 number, rfl, hfree, ?_⟩
      intro j hj hlt
      obtain ⟨i, rfl⟩ := Nat.exists_eq_add_of_le' hj
      exact hearlier (i + 1) hlt

/-- Whether a name is free depends on which names are used, not on their order. -/
theorem IsFirstFree.congr {used used' : List String} (hused : ∀ name, name ∈ used ↔ name ∈ used')
    {label : String} {number : Nat} (h : IsFirstFree used label number) :
    IsFirstFree used' label number :=
  ⟨mt (hused _).mpr h.1, fun earlier hlt => (hused _).mp (h.2 earlier hlt)⟩

/-- The names that columns with these labels get, after those that have taken the names `used`. -/
def columnNames (used : List String) : List String → List String
  | [] => []
  | label :: rest => freeName used label :: columnNames (freeName used label :: used) rest

theorem length_columnNames (used labels : List String) :
    (columnNames used labels).length = labels.length := by
  induction labels generalizing used with
  | nil => rfl
  | cons label rest ih => rw [columnNames, List.length_cons, ih, List.length_cons]

theorem freeName_not_mem (used : List String) (label : String) : freeName used label ∉ used := by
  obtain ⟨number, hname, hfree, -⟩ := exists_freeName_eq used label
  rwa [hname]

theorem nodup_columnNames (used labels : List String) :
    (columnNames used labels).Nodup ∧ ∀ name ∈ columnNames used labels, name ∉ used := by
  induction labels generalizing used with
  | nil => simp [columnNames]
  | cons label rest ih =>
      obtain ⟨hnodup, hunused⟩ := ih (freeName used label :: used)
      rw [columnNames, List.nodup_cons, List.forall_mem_cons]
      refine ⟨⟨?_, hnodup⟩, freeName_not_mem used label, ?_⟩
      · exact fun hmem => hunused _ hmem List.mem_cons_self
      · exact fun name hmem hused => hunused name hmem (List.mem_cons_of_mem _ hused)

/-- Each name is the first free one after the names of the columns before it. -/
theorem isFirstFree_columnNames {used labels : List String} {i : Nat} {label name : String}
    (hlabel : labels[i]? = some label) (hname : (columnNames used labels)[i]? = some name) :
    ∃ number, name = numbered label number ∧
      IsFirstFree (used ++ (columnNames used labels).take i) label number := by
  induction labels generalizing used i with
  | nil => cases hlabel
  | cons first rest ih =>
      rw [columnNames] at hname ⊢
      cases i with
      | zero =>
          obtain rfl : first = label := Option.some.inj hlabel
          obtain rfl : freeName used first = name := Option.some.inj hname
          rw [List.take_zero, List.append_nil]
          exact exists_freeName_eq used first
      | succ i =>
          obtain ⟨number, heq, hfirst⟩ := ih hlabel hname
          refine ⟨number, heq, hfirst.congr fun other => ?_⟩
          simp [or_left_comm]

/-- The texts of columns, those with a label under the names in order. -/
def textsUnder : List Projection → List String → List String
  | [], _ => []
  | column :: rest, names =>
    match column.label with
    | none => column.sql.text :: textsUnder rest names
    | some _ => columnText column.sql.text (names.headD "") :: textsUnder rest names.tail

theorem columnTexts_eq (used : List String) (columns : List Projection) :
    columnTexts used columns =
      textsUnder columns (columnNames used (columns.filterMap (·.label))) := by
  induction columns generalizing used with
  | nil => rfl
  | cons column rest ih =>
      rw [columnTexts, textsUnder, List.filterMap_cons]
      cases column.label with
      | none => exact congrArg _ (ih used)
      | some label => exact congrArg _ (ih _)

/-- The columns of a select list have different names, and each name is the least one. There is one
name for each label that a column asks for, all are different, and the search for each of them ends.
A column gets the label it asks for unless an earlier column has that name, and else the label with
the least number that makes it a name of no earlier column. -/
theorem render_under_least_names (columns : List Projection) :
    ∃ names : List String,
      names.length = (columns.filterMap (·.label)).length ∧ names.Nodup ∧
      (∀ i label name, (columns.filterMap (·.label))[i]? = some label → names[i]? = some name →
        Settles (names.take i) label label 1 name ∧ IsLeastName (names.take i) label name) ∧
      render columns =
        if columns.isEmpty then "*" else String.intercalate ", " (textsUnder columns names) := by
  refine ⟨columnNames [] (columns.filterMap (·.label)), length_columnNames _ _,
    (nodup_columnNames _ _).1, ?_, ?_⟩
  · intro i label name hlabel hname
    obtain ⟨number, rfl, hfirst⟩ := isFirstFree_columnNames hlabel hname
    rw [List.nil_append] at hfirst
    exact ⟨hfirst.settles, hfirst.isLeastName⟩
  · rw [render, columnTexts_eq]

-- The second column takes the name that the third would get first.
example :
    let column (name label : String) : Projection := ⟨.column name, some label⟩
    render [column "A" "Id", column "B" "Id_1", column "C" "Id", column "Id_3" "Id"] =
      "A AS Id, B AS Id_1, C AS Id_2, Id_3" := by
  decide +kernel

end StreamQuery.SelectClause
