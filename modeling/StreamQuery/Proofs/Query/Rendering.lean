import Mathlib.Data.List.FinRange
import Mathlib.Data.List.Sort
import StreamQuery.Proofs.Query.Draft

/-!
# What a draft is written as

A draft is written if no required clause is blank and some clause is not. The text has the clauses
that are not blank, part by part and within a part as they were added. So it does not matter how
the clauses of different parts were mixed when they were added.
-/

namespace StreamQuery

namespace Part

theorem getElem?_all_rank (part : Part) : all[part.rank]? = some part := by
  cases part <;> rfl

theorem rank_injective {part other : Part} (h : part.rank = other.rank) : part = other := by
  have hget := part.getElem?_all_rank
  rw [h, other.getElem?_all_rank] at hget
  exact (Option.some.inj hget).symm

end Part

namespace Draft

theorem pairwise_rank_ordered (clauses : List Clause) :
    (ordered clauses).Pairwise (·.part.rank ≤ ·.part.rank) := by
  have hsorted : (ordered clauses).Pairwise (decide <| ·.part.rank ≤ ·.part.rank) :=
    List.pairwise_mergeSort (by simp only [decide_eq_true_eq]; omega) (by simp; omega) _
  exact hsorted.imp of_decide_eq_true

/-- Sorting leaves the clauses of each part in the order in which they were added. -/
theorem filter_part_ordered (clauses : List Clause) (part : Part) :
    (ordered clauses).filter (·.part = part) =
      (clauses.filter (!·.isBlank)).filter (·.part = part) := by
  let shown := clauses.filter (!·.isBlank)
  have hperm : ((ordered clauses).filter (·.part = part)).Perm (shown.filter (·.part = part)) :=
    (List.mergeSort_perm shown _).filter _
  have hsublist : (shown.filter (·.part = part)).Sublist (ordered clauses) := by
    refine List.sublist_mergeSort (by simp only [decide_eq_true_eq]; omega) (by simp; omega) ?_
      List.filter_sublist
    apply List.pairwise_of_forall_mem_list
    intro clause hclause other hother
    have hpart : clause.part = part := of_decide_eq_true (List.mem_filter.mp hclause).2
    have hpart' : other.part = part := of_decide_eq_true (List.mem_filter.mp hother).2
    exact decide_eq_true (Nat.le_of_eq (by rw [hpart, hpart']))
  have hfiltered := hsublist.filter (·.part = part)
  rw [List.filter_eq_self.mpr fun clause hclause => (List.mem_filter.mp hclause).2] at hfiltered
  exact (hfiltered.eq_of_length hperm.length_eq.symm).symm

theorem mem_of_filter_part_eq {clauses clauses' : List Clause}
    (h : ∀ part : Part, clauses.filter (·.part = part) = clauses'.filter (·.part = part))
    {clause : Clause} (hclause : clause ∈ clauses) : clause ∈ clauses' := by
  have hmem : clause ∈ clauses.filter (·.part = clause.part) :=
    List.mem_filter.mpr ⟨hclause, decide_eq_true rfl⟩
  rw [h clause.part] at hmem
  exact List.mem_of_mem_filter hmem

/-- Clauses that stand in order are known from the clauses of each part. -/
theorem eq_of_filter_part_eq {clauses clauses' : List Clause}
    (h : clauses.Pairwise (·.part.rank ≤ ·.part.rank))
    (h' : clauses'.Pairwise (·.part.rank ≤ ·.part.rank))
    (hparts : ∀ part : Part, clauses.filter (·.part = part) = clauses'.filter (·.part = part)) :
    clauses = clauses' := by
  have hparts' := fun part => (hparts part).symm
  induction clauses generalizing clauses' with
  | nil =>
      refine (List.eq_nil_iff_forall_not_mem.mpr fun clause hclause => ?_).symm
      exact List.not_mem_nil (mem_of_filter_part_eq hparts' hclause)
  | cons clause rest ih =>
      cases clauses' with
      | nil => exact absurd (mem_of_filter_part_eq hparts List.mem_cons_self) List.not_mem_nil
      | cons clause' rest' =>
          obtain ⟨hfirst, hrest⟩ := List.pairwise_cons.mp h
          obtain ⟨hfirst', hrest'⟩ := List.pairwise_cons.mp h'
          -- Each of the two heads stands somewhere in the other list, so they are of one part.
          have hle : clause.part.rank ≤ clause'.part.rank := by
            rcases List.mem_cons.mp (mem_of_filter_part_eq hparts' List.mem_cons_self) with
              rfl | hlater
            · exact Nat.le_refl _
            · exact hfirst clause' hlater
          have hge : clause'.part.rank ≤ clause.part.rank := by
            rcases List.mem_cons.mp (mem_of_filter_part_eq hparts List.mem_cons_self) with
              rfl | hlater
            · exact Nat.le_refl _
            · exact hfirst' clause hlater
          have hpart : clause.part = clause'.part := Part.rank_injective (Nat.le_antisymm hle hge)
          have hheads := hparts clause.part
          rw [List.filter_cons_of_pos (by simp), List.filter_cons_of_pos (by simp [hpart])]
            at hheads
          obtain rfl := (List.cons.inj hheads).1
          have htails : ∀ part : Part,
              rest.filter (·.part = part) = rest'.filter (·.part = part) := by
            intro part
            have hcons := hparts part
            by_cases heq : clause.part = part
            · simpa [heq] using hcons
            · simpa [heq] using hcons
          rw [ih hrest hrest' htails fun part => (htails part).symm]

/-- The clauses that are written, listed part by part. -/
def written (draft : Draft) : List Clause :=
  Part.all.flatMap fun part => (draft.clausesOf part).filter (!·.isBlank)

theorem ordered_eq_written (draft : Draft) : ordered draft.clauses = draft.written := by
  have hpart : ∀ part, ∀ clause ∈ (draft.clausesOf part).filter (!·.isBlank),
      clause.part = part := by
    intro part clause hclause
    exact of_decide_eq_true (List.mem_filter.mp (List.mem_of_mem_filter hclause)).2
  refine eq_of_filter_part_eq (pairwise_rank_ordered _) (Part.pairwise_rank_flatMap hpart) ?_
  intro part
  rw [filter_part_ordered, written, Part.filter_flatMap_all hpart, clausesOf, List.filter_comm]

theorem render_eq_ok_iff {draft : Draft} {text : String} :
    draft.render = .ok text ↔
      (∀ clause ∈ draft.clauses, clause.required = true → clause.isBlank = false) ∧
      (∃ clause ∈ draft.clauses, clause.isBlank = false) ∧
      text = draft.kind.opening ++ String.intercalate " " (draft.written.map (·.text)) := by
  have hrequired : (draft.clauses.find? fun clause => clause.required && clause.isBlank) = none ↔
      ∀ clause ∈ draft.clauses, clause.required = true → clause.isBlank = false := by
    simp
  have hshown : draft.written ≠ [] ↔ ∃ clause ∈ draft.clauses, clause.isBlank = false := by
    rw [← ordered_eq_written, Ne, List.eq_nil_iff_forall_not_mem]
    simp [ordered]
  unfold render
  rw [ordered_eq_written, ← hrequired, ← hshown]
  cases draft.clauses.find? fun clause => clause.required && clause.isBlank with
  | some clause => simp
  | none =>
      cases draft.written with
      | nil => simp
      | cons first rest => simp [eq_comm]

/-- The second list holds the clauses of the first in other places, but those of one part in the
same order. -/
def Rearranged (clauses clauses' : List Clause) : Prop :=
  ∃ place : Fin clauses.length ≃ Fin clauses'.length,
    (∀ i, clauses'.get (place i) = clauses.get i) ∧
    ∀ i j, i < j → (clauses.get i).part = (clauses.get j).part → place i < place j

theorem Rearranged.filter_part {clauses clauses' : List Clause} (h : Rearranged clauses clauses')
    (part : Part) : clauses'.filter (·.part = part) = clauses.filter (·.part = part) := by
  obtain ⟨place, hget, hlt⟩ := h
  -- The places of the clauses of a part, in order.
  let placesOf : (list : List Clause) → List (Fin list.length) := fun list =>
    (List.finRange list.length).filter fun i => (list.get i).part = part
  have hfilter : ∀ list : List Clause,
      list.filter (·.part = part) = (placesOf list).map list.get := by
    intro list
    conv_lhs => rw [← List.map_get_finRange list, List.filter_map]
    rfl
  have hmem : ∀ (list : List Clause) (i : Fin list.length),
      i ∈ placesOf list ↔ (list.get i).part = part := by
    simp [placesOf]
  have hordered : ∀ list : List Clause, (placesOf list).Pairwise (· < ·) :=
    fun list => (List.pairwise_lt_finRange list.length).filter _
  have hmap : ((placesOf clauses).map place).Pairwise (· < ·) := by
    rw [List.pairwise_map]
    refine (hordered clauses).imp_of_mem fun {i j} hi hj hij => ?_
    exact hlt i j hij (((hmem _ i).mp hi).trans ((hmem _ j).mp hj).symm)
  have hplaces : (placesOf clauses).map place = placesOf clauses' := by
    refine hmap.sortedLT.eq_of_mem_iff (hordered clauses').sortedLT fun i => ?_
    rw [List.mem_map, hmem]
    constructor
    · rintro ⟨k, hk, rfl⟩
      rw [hget, (hmem _ k).mp hk]
    · intro hi
      refine ⟨place.symm i, (hmem _ _).mpr ?_, place.apply_symm_apply i⟩
      rw [← hget, place.apply_symm_apply, hi]
  rw [hfilter, hfilter, ← hplaces, List.map_map]
  exact List.map_congr_left fun i _ => hget i

/-- A draft is written by its clauses that are not blank, part by part, and it does not matter how
the parts were mixed. -/
theorem render_by_parts (draft : Draft) :
    (∀ text, draft.render = .ok text ↔
      (∀ clause ∈ draft.clauses, clause.required = true → clause.isBlank = false) ∧
      (∃ clause ∈ draft.clauses, clause.isBlank = false) ∧
      text = draft.kind.opening ++ String.intercalate " " (draft.written.map (·.text))) ∧
    ∀ draft' : Draft, draft'.kind = draft.kind → Rearranged draft.clauses draft'.clauses →
      ∀ text, draft'.render = .ok text ↔ draft.render = .ok text := by
  refine ⟨fun _ => render_eq_ok_iff, fun draft' hkind hrearranged text => ?_⟩
  have hparts := hrearranged.filter_part
  have hmem : ∀ clause, clause ∈ draft'.clauses ↔ clause ∈ draft.clauses := fun clause =>
    ⟨mem_of_filter_part_eq hparts, mem_of_filter_part_eq fun part => (hparts part).symm⟩
  have hwritten : draft'.written = draft.written := by
    unfold written clausesOf
    simp only [hparts]
  simp only [render_eq_ok_iff, hkind, hmem, hwritten]

/-- Regions with paid orders. The clauses are out of order, and one of them is blank. -/
def paidRegions : Draft where
  kind := .createTableAs "regions"
  base := "orders"
  clauses := [
    { part := .groupBy, content := "Region" },
    { part := .source, content := " orders", required := true },
    { part := .filter, content := "\u2003" },
    { part := .select, content := "Region", required := true },
    { part := .filter, content := "Paid " }]

/-- The same regions, with the grouping and the select list exchanged. -/
def paidRegionsExchanged : Draft where
  kind := .createTableAs "regions"
  base := "orders"
  clauses := [
    { part := .select, content := "Region", required := true },
    { part := .source, content := " orders", required := true },
    { part := .filter, content := "\u2003" },
    { part := .groupBy, content := "Region" },
    { part := .filter, content := "Paid " }]

theorem render_by_parts_paidRegions :
    Rearranged paidRegions.clauses paidRegionsExchanged.clauses ∧
    paidRegions.render = .ok
      "CREATE TABLE regions AS SELECT Region FROM orders WHERE Paid GROUP BY Region" ∧
    paidRegionsExchanged.render = .ok
      "CREATE TABLE regions AS SELECT Region FROM orders WHERE Paid GROUP BY Region" := by
  have hrearranged : Rearranged paidRegions.clauses paidRegionsExchanged.clauses := by
    refine ⟨(Equiv.swap 0 3 : Equiv.Perm (Fin 5)), ?_, ?_⟩ <;> decide
  obtain ⟨hrender, hkept⟩ := render_by_parts paidRegions
  have hregions := (hrender _).mpr ⟨by decide +kernel, by decide +kernel, rfl⟩
  exact ⟨hrearranged, hregions, (hkept paidRegionsExchanged rfl hrearranged _).mpr hregions⟩

end Draft

end StreamQuery
