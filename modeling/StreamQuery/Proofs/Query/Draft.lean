import StreamQuery.Proofs.Assembly
import StreamQuery.Query

/-!
# Drafts of queries

The statement of a chain is its draft, written out. Clauses that are in order are written as they
stand, with no need to sort them. The clauses of each part come from one stage of the chain.
-/

namespace StreamQuery

namespace Draft

/-- The clauses that are not blank as they stand, if there are some and they are in order with no
required one missing. -/
def inOrder? (draft : Draft) : Option String :=
  let written := draft.clauses.filter (!·.isBlank)
  if written.isEmpty = false ∧
      (∀ clause ∈ draft.clauses, clause.required = true → clause.isBlank = false) ∧
      written.Pairwise (·.part.rank ≤ ·.part.rank) then
    some (draft.kind.opening ++ String.intercalate " " (written.map (·.text)))
  else none

/-- All clauses of a part. -/
def clausesOf (draft : Draft) (part : Part) : List Clause :=
  draft.clauses.filter (·.part = part)

theorem find?_eq_head? (draft : Draft) (part : Part) :
    draft.find? part = (draft.clausesOf part).head? := by
  rw [find?, clausesOf, List.head?_filter]

/-- The clauses that are written are those that are not blank. -/
theorem mem_ordered {draft : Draft} {clause : Clause} :
    clause ∈ ordered draft.clauses ↔ clause ∈ draft.clausesOf clause.part ∧ ¬clause.isBlank := by
  simp [ordered, clausesOf]

theorem render_of_inOrder? {draft : Draft} {text : String} (h : draft.inOrder? = some text) :
    draft.render = .ok text := by
  rw [inOrder?, Option.ite_none_right_eq_some] at h
  obtain ⟨⟨hne, hblank, hordered⟩, htext⟩ := h
  have hrequired :
      (draft.clauses.find? fun clause => clause.required && clause.isBlank) = none := by
    rw [List.find?_eq_none]
    intro clause hclause
    simpa using hblank clause hclause
  have hsorted : ordered draft.clauses = draft.clauses.filter (!·.isBlank) :=
    List.mergeSort_of_pairwise (hordered.imp (by simp))
  rw [render, hrequired, hsorted, ← Option.some.inj htext]
  cases hclauses : draft.clauses.filter (!·.isBlank) with
  | nil =>
      rw [hclauses] at hne
      cases hne
  | cons clause rest => rfl

end Draft

namespace Parts

/-- The clauses of an assembly stand in the order of their parts. -/
theorem Fit.pairwise_rank {registry : Registry} {chain : Chain} {context : Context} {final : Bool}
    {parts : Parts} (hfit : parts.Fit registry chain context final) :
    parts.clauses.Pairwise (·.part.rank ≤ ·.part.rank) := by
  rw [clauses_eq_flatMap]
  exact Part.pairwise_rank_flatMap fun _ _ hclause => hfit.part_of_mem hclause

end Parts

namespace Query

/-- What a draft of the given mode says about sending rows. -/
def emission (mode : ExecutionMode) (final : Bool) : List Clause :=
  if mode = .push ∨ final then [Draft.emitClause final] else []

/-- The draft that the statement of a chain over `base` is written from. -/
def draftAs (registry : Registry) (kind : StatementKind) (base : String) (chain : Chain)
    (mode : ExecutionMode) : Except Failure Draft := do
  let assembly := registry.assemble chain { base, mode }
  let final ← assembly.report.result
  return addEmit { kind, base, clauses := assembly.clauses } mode final

/-- The draft that the statement of a chain is written from. -/
def draftOf (registry : Registry) (source : String) (e : Expr) (mode : ExecutionMode) :
    Except Failure Draft := do
  let chain ← Chain.classify e
  let assembly := registry.assemble chain { base := source, mode }
  let final ← assembly.report.result
  return addEmit { kind := .select, base := source, clauses := assembly.clauses } mode final

section

variable {registry : Registry} {source : String} {e : Expr} {mode : ExecutionMode} {text : String}
  {kind : StatementKind} {base : String} {chain : Chain} {draft : Draft}

theorem clauses_addEmit (draft : Draft) (mode : ExecutionMode) (final : Bool) :
    (addEmit draft mode final).clauses = draft.clauses ++ emission mode final := by
  unfold addEmit emission
  split
  · rfl
  · exact (List.append_nil _).symm

theorem result_assembleChain_eq_ok :
    (assembleChain registry kind base chain mode).result = .ok text ↔
      ∃ draft, draftAs registry kind base chain mode = .ok draft ∧ draft.render = .ok text := by
  have hresult : (assembleChain registry kind base chain mode).result =
      (draftAs registry kind base chain mode >>= Draft.render) := by
    unfold assembleChain draftAs
    dsimp only
    rw [Report.result_bind]
    cases (registry.assemble chain { base, mode }).report.result <;> rfl
  rw [hresult, bind_eq_ok_iff]

/-- A draft has the parts of an assembly, and then tells about sending rows. -/
theorem exists_parts_of_draftAs (h : draftAs registry kind base chain mode = .ok draft) :
    ∃ (parts : Parts) (final : Bool), parts.Fit registry chain { base, mode } final ∧
      draft.clauses = parts.clauses ++ emission mode final := by
  obtain ⟨final, hfinal, hpure⟩ := bind_eq_ok_iff.mp h
  obtain rfl := Except.ok.inj hpure
  obtain ⟨parts, hfit, hclauses⟩ := exists_parts
    (⟨rfl, hfinal⟩ : (registry.assemble chain { base, mode }).Gives _ final)
  refine ⟨parts, final, hfit, ?_⟩
  rw [clauses_addEmit, ← hclauses]

/-- A draft needs no sorting. -/
theorem ordered_of_draftAs (h : draftAs registry kind base chain mode = .ok draft) :
    Draft.ordered draft.clauses = draft.clauses.filter (!·.isBlank) := by
  obtain ⟨parts, final, hfit, hclauses⟩ := exists_parts_of_draftAs h
  have hpairwise : draft.clauses.Pairwise (·.part.rank ≤ ·.part.rank) := by
    rw [hclauses, List.pairwise_append]
    refine ⟨hfit.pairwise_rank, ?_, ?_⟩
    · unfold emission
      split
      · exact List.pairwise_singleton _ _
      · exact .nil
    · intro clause _ last hlast
      have hpart : last.part = .emit := by
        unfold emission at hlast
        split at hlast
        · rw [List.mem_singleton.mp hlast]
          rfl
        · cases hlast
      rw [hpart]
      cases clause.part <;> decide
  refine List.mergeSort_of_pairwise ?_
  exact (hpairwise.filter _).imp fun hrank => decide_eq_true hrank

theorem result_ofChain :
    (ofChain registry source e mode).result =
      (do (← draftOf registry source e mode).render).mapError (Failure.inTask (.chain source)) := by
  unfold ofChain draftOf assembleChain
  simp only [Report.result_mapFailure, Report.result_bind]
  cases hchain : Chain.classify e with
  | error failure => rfl
  | ok chain =>
      change ((registry.assemble chain { base := source, mode }).report.result >>= _).mapError _ =
        ((registry.assemble chain { base := source, mode }).report.result >>= _ >>= _).mapError _
      cases (registry.assemble chain { base := source, mode }).report.result <;> rfl

theorem result_ofChain_eq_ok :
    (ofChain registry source e mode).result = .ok text ↔
      ∃ draft, draftOf registry source e mode = .ok draft ∧ draft.render = .ok text := by
  rw [result_ofChain, mapError_eq_ok_iff, bind_eq_ok_iff]

theorem result_ofChain_of_inOrder?
    (h : (draftOf registry source e mode).toOption.bind Draft.inOrder? = some text) :
    (ofChain registry source e mode).result = .ok text := by
  obtain ⟨draft, hdraft, htext⟩ := Option.bind_eq_some_iff.mp h
  refine result_ofChain_eq_ok.mpr ⟨draft, ?_, Draft.render_of_inOrder? htext⟩
  cases hresult : draftOf registry source e mode with
  | error failure =>
      rw [hresult] at hdraft
      cases hdraft
  | ok other =>
      rw [hresult] at hdraft
      exact congrArg Except.ok (Option.some.inj hdraft)

theorem draftOf_eq_ok :
    draftOf registry source e mode = .ok draft ↔
      ∃ chain, Chain.classify e = .ok chain ∧
        draftAs registry .select source chain mode = .ok draft :=
  bind_eq_ok_iff

/-- But for what tells about sending rows, the clauses of a draft are those of an assembly. -/
theorem clausesOf_of_fit {parts : Parts} {context : Context} {final : Bool}
    (hfit : parts.Fit registry chain context final)
    (hclauses : draft.clauses = parts.clauses ++ emission mode final) {part : Part}
    (hpart : part ≠ .emit) : draft.clausesOf part = parts.ofPart part := by
  have hemission : (emission mode final).filter (·.part = part) = [] := by
    unfold emission
    split <;> simp [Draft.emitClause, hpart.symm]
  rw [Draft.clausesOf, hclauses, List.filter_append, hemission, List.append_nil, hfit.filter_part]

/-- But for its last clause, a draft has the parts of an assembly. -/
theorem exists_parts_of_draftOf {draft : Draft} {chain : Chain}
    (hdraft : draftOf registry source e mode = .ok draft) (hchain : Chain.classify e = .ok chain) :
    ∃ (parts : Parts) (final : Bool), parts.Fit registry chain { base := source, mode } final ∧
      ∀ part, part ≠ .emit → draft.clausesOf part = parts.ofPart part := by
  obtain ⟨other, hother, hdraft⟩ := draftOf_eq_ok.mp hdraft
  obtain rfl : chain = other := Except.ok.inj (hchain.symm.trans hother)
  obtain ⟨parts, final, hfit, hclauses⟩ := exists_parts_of_draftAs hdraft
  exact ⟨parts, final, hfit, fun part hpart => clausesOf_of_fit hfit hclauses hpart⟩

end

end Query

end StreamQuery
