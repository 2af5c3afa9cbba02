import StreamQuery.Proofs.Clause.Window
import StreamQuery.Proofs.Query.Definition
import StreamQuery.Proofs.Stages

/-!
# When rows are sent

A statement tells at most once when rows are sent, and it does so at its end. What it says there
comes from the window of its chain and from its mode, and from nothing else.
-/

namespace StreamQuery

/-- Whether the chain has a window, other than a session, that asks for final results only. -/
def Chain.EmitsFinal (chain : Chain) : Prop :=
  ∃ argument window kind, .window argument ∈ chain.stages ∧
    WindowClause.spec argument = .ok window ∧ window.emitFinal ∧ window.kind = some kind ∧
    kind ≠ .session

namespace Draft

/-- These clauses are all that the draft says about sending rows, and they are written last. -/
def EmitsLast (draft : Draft) (clauses : List Clause) : Prop :=
  draft.clausesOf .emit = clauses ∧
    ∃ before, ordered draft.clauses = before ++ clauses ∧ ∀ clause ∈ before, clause.part ≠ .emit

/-- The draft tells when rows are sent as the window of the chain and the mode ask for. -/
structure EmitsBy (draft : Draft) (chain : Chain) (mode : ExecutionMode) : Prop where
  final : chain.EmitsFinal → draft.EmitsLast [emitClause true]
  changes : ¬chain.EmitsFinal → mode = .push → draft.EmitsLast [emitClause false]
  silent : ¬chain.EmitsFinal → mode ≠ .push → draft.EmitsLast []
  window : ∀ clause ∈ draft.clausesOf .window, ¬"EMIT FINAL".toList <:+ clause.content.toList

end Draft

namespace Parts

variable {builders : Builders} {chain : Chain} {context : Context} {final : Bool} {parts : Parts}

/-- The window clause of an assembly ends in a bracket. -/
theorem Fit.window_closed (hfit : parts.Fit builders chain context final) :
    ∀ clause ∈ parts.window, ∃ front, clause.content = front ++ ")" := by
  have hwindow := hfit.window
  cases hargument : parts.stages.window with
  | none =>
      rw [hargument] at hwindow
      obtain ⟨hnil, -⟩ := Assembly.gives_pure.mp hwindow
      simp [hnil]
  | some argument =>
      rw [hargument] at hwindow
      obtain ⟨window, kind, -, -, hclauses, -⟩ := Builders.gives_addWindow hwindow
      rw [hclauses, List.forall_mem_singleton]
      exact WindowClause.exists_render_unfinal kind window

/-- An assembly passes on the wish for final results exactly if its chain has it. -/
theorem Fit.final_iff (hfit : parts.Fit builders chain context final) :
    final = true ↔ chain.EmitsFinal := by
  have hwindow := hfit.window
  have hstage : ∀ argument, parts.stages.window = some argument ↔
      .window argument ∈ chain.stages :=
    fun _ => Stages.slot_eq_some_iff_mem hfit.stages Stage.slot?_window
  cases hargument : parts.stages.window with
  | none =>
      rw [hargument] at hwindow
      obtain ⟨-, rfl⟩ := Assembly.gives_pure.mp hwindow
      refine iff_of_false Bool.false_ne_true ?_
      rintro ⟨argument, _, _, hmem, -⟩
      rw [(hstage argument).mpr hmem] at hargument
      cases hargument
  | some argument =>
      rw [hargument] at hwindow
      obtain ⟨window, kind, hspec, hkind, -, rfl⟩ := Builders.gives_addWindow hwindow
      have hfinal : window.emitsFinal = true ↔ window.emitFinal ∧ kind ≠ .session := by
        simp [WindowSpec.emitsFinal, hkind]
      rw [hfinal]
      constructor
      · rintro ⟨hwish, hsession⟩
        have hmem := (hstage argument).mp hargument
        exact ⟨argument, window, kind, hmem, hspec, hwish, hkind, hsession⟩
      · rintro ⟨other, window', kind', hmem, hspec', hwish, hkind', hsession⟩
        -- There is no window but the one in the slot.
        obtain rfl : argument = other :=
          Option.some.inj (hargument.symm.trans ((hstage other).mpr hmem))
        obtain rfl : window = window' := Except.ok.inj (hspec.symm.trans hspec')
        obtain rfl : kind = kind' := Option.some.inj (hkind.symm.trans hkind')
        exact ⟨hwish, hsession⟩

end Parts

namespace Query

variable {builders : Builders} {kind : StatementKind} {base : String} {chain : Chain}
  {mode : ExecutionMode} {draft : Draft}

theorem emitsBy_of_draftAs (h : draftAs builders kind base chain mode = .ok draft) :
    draft.EmitsBy chain mode := by
  obtain ⟨parts, final, hfit, hclauses⟩ := exists_parts_of_draftAs h
  have hparts : ∀ clause ∈ parts.clauses, clause.part ≠ .emit := by
    have hnone := hfit.filter_part .emit
    rw [Parts.ofPart, List.filter_eq_nil_iff] at hnone
    intro clause hclause
    simpa using hnone clause hclause
  have hlast : draft.EmitsLast (emission mode final) := by
    have hemission : ∀ clause ∈ emission mode final, clause.part = .emit ∧ ¬clause.isBlank := by
      unfold emission
      split
      · cases final <;> simp [Draft.emitClause] <;> decide
      · simp
    have hwritten : (emission mode final).filter (!·.isBlank) = emission mode final := by
      rw [List.filter_eq_self]
      intro clause hclause
      simpa using (hemission clause hclause).2
    constructor
    · rw [Draft.clausesOf, hclauses, List.filter_append, hfit.filter_part, Parts.ofPart,
        List.nil_append, List.filter_eq_self]
      intro clause hclause
      simpa using (hemission clause hclause).1
    · refine ⟨parts.clauses.filter (!·.isBlank), ?_, ?_⟩
      · rw [ordered_of_draftAs h, hclauses, List.filter_append, hwritten]
      · intro clause hclause
        exact hparts clause (List.mem_of_mem_filter hclause)
  constructor
  · intro hemits
    rwa [hfit.final_iff.mpr hemits, emission, if_pos (Or.inr rfl)] at hlast
  · intro hemits hpush
    have hfinal : final = false := by simpa using hfit.final_iff.not.mpr hemits
    rwa [hfinal, emission, if_pos (Or.inl hpush)] at hlast
  · intro hemits hpull
    have hfinal : final = false := by simpa using hfit.final_iff.not.mpr hemits
    rwa [hfinal, emission, if_neg (by simpa using hpull)] at hlast
  · intro clause hclause
    rw [clausesOf_of_fit hfit hclauses (by decide)] at hclause
    obtain ⟨front, hfront⟩ := hfit.window_closed clause hclause
    rw [hfront]
    exact Builders.not_suffix_of_closed front (by decide)

/-- A definition that succeeds has a chain, whose statement it is. -/
theorem result_createAs_eq_ok {name text : String} {e : Expr}
    (h : (createAs builders kind name base e).result = .ok text) :
    ∃ chain, Chain.classify e = .ok chain ∧
      (assembleChain builders kind (baseOf base chain) chain .push).result = .ok text := by
  obtain ⟨_, -, hvalid⟩ := Report.result_bind_eq_ok.mp h
  obtain ⟨chain, hchain, hassemble⟩ := Report.result_bind_eq_ok.mp hvalid
  exact ⟨chain, hchain, hassemble⟩

/-- The text is the statement of the chain of `e`, and tells when rows are sent as the window of
that chain and the mode ask for. -/
def WrittenBy (builders : Builders) (kind : StatementKind) (baseOf : Chain → String) (e : Expr)
    (mode : ExecutionMode) (text : String) : Prop :=
  ∃ chain draft, Chain.classify e = .ok chain ∧
    draftAs builders kind (baseOf chain) chain mode = .ok draft ∧ draft.render = .ok text ∧
    draft.EmitsBy chain mode

theorem writtenBy_of_assembleChain {baseOf : Chain → String} {e : Expr} {text : String}
    (hchain : Chain.classify e = .ok chain)
    (h : (assembleChain builders kind (baseOf chain) chain mode).result = .ok text) :
    WrittenBy builders kind baseOf e mode text := by
  obtain ⟨draft, hdraft, hrender⟩ := result_assembleChain_eq_ok.mp h
  exact ⟨chain, draft, hchain, hdraft, hrender, emitsBy_of_draftAs hdraft⟩

/-- Queries tell when rows are sent as their window and their mode ask for, and definitions by a
query as push queries do. -/
theorem emission_of_statement (builders : Builders) (scope : Scope) (name base text : String)
    (e : Expr) (mode : ExecutionMode) :
    ((ofChain builders base e mode).result = .ok text →
      WrittenBy builders .select (fun _ => base) e mode text) ∧
    ((createStreamAs builders scope name base e).result = .ok text →
      WrittenBy builders (.createStreamAs name) (baseOf base) e .push text) ∧
    ((createTableAs builders scope name base e).result = .ok text →
      WrittenBy builders (.createTableAs name) (baseOf base) e .push text) := by
  refine ⟨fun h => ?_, fun h => ?_, fun h => ?_⟩
  · rw [ofChain, Report.result_mapFailure, mapError_eq_ok_iff] at h
    obtain ⟨chain, hchain, hassemble⟩ := Report.result_bind_eq_ok.mp h
    exact writtenBy_of_assembleChain hchain hassemble
  · obtain ⟨_, -, hcreate⟩ := Report.result_bind_eq_ok.mp h
    rw [Report.result_mapFailure, mapError_eq_ok_iff] at hcreate
    obtain ⟨chain, hchain, hassemble⟩ := result_createAs_eq_ok hcreate
    exact writtenBy_of_assembleChain hchain hassemble
  · obtain ⟨_, -, hcreate⟩ := Report.result_bind_eq_ok.mp h
    rw [Report.result_mapFailure, mapError_eq_ok_iff] at hcreate
    obtain ⟨chain, hchain, hassemble⟩ := result_createAs_eq_ok hcreate
    exact writtenBy_of_assembleChain hchain hassemble

/-- A session that is then made a hopping window. -/
def toHopping : Window :=
  [.kind .session, .gap (.ofSeconds 5), .emitFinal, .kind .hopping, .size (.ofSeconds 60)]

/-- A tumbling window that is then made a session. -/
def toSession : Window :=
  [.kind .tumbling, .size (.ofSeconds 60), .emitFinal, .kind .session, .gap (.ofSeconds 5)]

/-- The last kind of a window decides whether its wish for final results counts. -/
theorem emission_of_statement_toHopping_toSession :
    ((createTableAs .standard { depth := 1 } "hops" ""
          ((Expr.source "orders").window toHopping)).result =
        .ok ("CREATE TABLE hops AS " ++
          "SELECT * FROM orders WINDOW HOPPING (SIZE 1 MINUTES) EMIT FINAL") ∧
      ∃ draft, draftAs .standard (.createTableAs "hops") "orders"
          ⟨"orders", [.window (.constant (.window toHopping))]⟩ .push = .ok draft ∧
        draft.EmitsLast [Draft.emitClause true]) ∧
    ((ofChain .standard "orders" ((Expr.source "orders").window toSession) .pull).result =
        .ok "SELECT * FROM orders WINDOW SESSION (GAP 5 SECONDS)" ∧
      ∃ draft, draftAs .standard .select "orders"
          ⟨"orders", [.window (.constant (.window toSession))]⟩ .pull = .ok draft ∧
        draft.EmitsLast []) := by
  constructor
  · have hname : validateIdentifier "object name" "hops" = .ok () := rfl
    have hagrees := agrees_of_createAs .standard (.createTableAs "hops") "CREATE TABLE AS" ""
      (.createTableAs "hops" "") ((Expr.source "orders").window toHopping)
      (show Scope.isActive { depth := 1 } from rfl) hname
    have hresult := (hagrees.ok_iff
      "SELECT * FROM orders WINDOW HOPPING (SIZE 1 MINUTES) EMIT FINAL").mpr
        (result_ofChain_of_inOrder? (by decide +kernel))
    refine ⟨hresult, ?_⟩
    obtain ⟨chain, draft, hchain, hdraft, -, hemits⟩ :=
      (emission_of_statement .standard { depth := 1 } "hops" "" _ _ .push).2.2 hresult
    obtain rfl := Except.ok.inj hchain
    exact ⟨draft, hdraft, hemits.final
      ⟨_, _, .hopping, List.mem_singleton_self _, rfl, rfl, rfl, by decide⟩⟩
  · have hresult : (ofChain .standard "orders" ((Expr.source "orders").window toSession)
        .pull).result = .ok "SELECT * FROM orders WINDOW SESSION (GAP 5 SECONDS)" :=
      result_ofChain_of_inOrder? (by decide +kernel)
    refine ⟨hresult, ?_⟩
    obtain ⟨chain, draft, hchain, hdraft, -, hemits⟩ :=
      (emission_of_statement .standard { depth := 1 } "" "orders" _ _ .pull).1 hresult
    obtain rfl := Except.ok.inj hchain
    refine ⟨draft, hdraft, hemits.silent ?_ (by decide)⟩
    rintro ⟨argument, window, kind, hmem, hspec, -, hkind, hsession⟩
    obtain rfl := Stage.window.inj (List.mem_singleton.mp hmem)
    obtain rfl := Except.ok.inj hspec
    exact hsession (Option.some.inj hkind).symm

end Query

end StreamQuery
