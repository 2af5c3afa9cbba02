import StreamQuery.Expr.Fluent
import StreamQuery.Proofs.Query.Draft

/-!
# Definitions by a query

A stream or table that is defined by a query gets the very statement that selects the same rows,
after its opening. Both fail on the same chains and for the same reasons.
-/

namespace StreamQuery

namespace Draft

/-- The kind of a statement shows in its opening only. -/
theorem render_eq_map_opening (draft : Draft) :
    draft.render =
      ({ draft with kind := .select } : Draft).render.map (draft.kind.opening ++ ·) := by
  have hselect : StatementKind.select.opening = "" := rfl
  unfold render
  dsimp only
  split
  · rfl
  · split
    · rfl
    · rw [Except.map, hselect, String.empty_append]

end Draft

namespace Query

theorem addEmit_kind (draft : Draft) (mode : ExecutionMode) (final : Bool) :
    (addEmit draft mode final).kind = draft.kind := by
  unfold addEmit Draft.add
  split <;> rfl

theorem addEmit_with_kind (draft : Draft) (kind : StatementKind) (mode : ExecutionMode)
    (final : Bool) :
    ({ addEmit draft mode final with kind := kind } : Draft) =
      addEmit { draft with kind := kind } mode final := by
  unfold addEmit Draft.add
  split <;> rfl

theorem result_assembleChain (registry : Registry) (kind : StatementKind) (base : String)
    (chain : Chain) (mode : ExecutionMode) :
    (assembleChain registry kind base chain mode).result =
      (assembleChain registry .select base chain mode).result.map (kind.opening ++ ·) := by
  unfold assembleChain
  simp only [Report.result_bind]
  cases (registry.assemble chain { base, mode }).report.result with
  | error failure => rfl
  | ok final =>
      let draft : Draft :=
        { kind, base, clauses := (registry.assemble chain { base, mode }).clauses }
      have hrender := (addEmit draft mode final).render_eq_map_opening
      rw [addEmit_kind, addEmit_with_kind] at hrender
      exact hrender

/-- The stream or table that a definition by `e` reads: the one at the start of the chain, if there
is one and no other is given. -/
def definitionBase (base : String) (e : Expr) : String :=
  match Chain.classify e with
  | .ok { source := some source, .. } => if base = "" then source else base
  | _ => base

theorem definitionBase_eq_baseOf {base : String} {e : Expr} {chain : Chain}
    (hchain : Chain.classify e = .ok chain) : definitionBase base e = baseOf base chain := by
  unfold definitionBase baseOf
  rw [hchain]
  rcases chain with ⟨_ | source, stages⟩
  · simp
  · rfl

/-- Up to the tasks that wrap a failure, a definition is its opening followed by the query. -/
theorem result_createAs (registry : Registry) (kind : StatementKind) {name : String}
    (hname : validateIdentifier "object name" name = .ok ()) (base : String) (e : Expr) :
    (createAs registry kind name base e).result.mapError Failure.root =
      ((ofChain registry (definitionBase base e) e .push).result.mapError Failure.root).map
        (kind.opening ++ ·) := by
  have hvalid : (liftM (validateIdentifier "object name" name) : Report Unit).result = .ok () :=
    hname
  unfold createAs ofChain
  simp only [Report.result_bind, Report.result_mapFailure, hvalid]
  cases hchain : Chain.classify e with
  | error failure => rfl
  | ok chain =>
      rw [definitionBase_eq_baseOf hchain]
      have hassemble := result_assembleChain registry kind (baseOf base chain) chain .push
      change (assembleChain registry kind (baseOf base chain) chain .push).result.mapError _ =
        (((assembleChain registry .select (baseOf base chain) chain .push).result.mapError
          _).mapError _).map _
      rw [hassemble]
      cases (assembleChain registry .select (baseOf base chain) chain .push).result <;> rfl

/-- A definition agrees with a query when the definition succeeds with the opening and a text
exactly where the query succeeds with that text, and each fails where the other does, with one
root. -/
structure Agrees (opening : String) (definition query : Except Failure String) : Prop where
  ok_iff : ∀ text, definition = .ok (opening ++ text) ↔ query = .ok text
  query_error : ∀ failure, definition = .error failure →
    ∃ cause, query = .error cause ∧ cause.root = failure.root
  definition_error : ∀ cause, query = .error cause →
    ∃ failure, definition = .error failure ∧ failure.root = cause.root

theorem Agrees.of_mapError_root {opening : String} {definition query : Except Failure String}
    (h : definition.mapError Failure.root = (query.mapError Failure.root).map (opening ++ ·)) :
    Agrees opening definition query := by
  cases definition with
  | error failure =>
      cases query with
      | error cause =>
          have hroot : failure.root = cause.root := Except.error.inj h
          constructor <;> simp [hroot]
      | ok text => cases h
  | ok statement =>
      cases query with
      | error cause => cases h
      | ok text =>
          have htext : statement = opening ++ text := Except.ok.inj h
          subst htext
          constructor <;> simp [String.append_right_inj]

/-- Inside a model definition, only the task that wraps a failure is added to `createAs`. -/
theorem agrees_of_createAs (registry : Registry) (kind : StatementKind) (operation base : String)
    (task : Task) (e : Expr) {scope : Scope} (hactive : scope.isActive) {name : String}
    (hname : validateIdentifier "object name" name = .ok ()) :
    Agrees kind.opening
      (do scope.ensureActive operation
          (createAs registry kind name base e).mapFailure (.inTask task) : Report String).result
      (ofChain registry (definitionBase base e) e .push).result := by
  have hensure : (scope.ensureActive operation).result = .ok () := by
    rw [Scope.ensureActive, if_pos hactive]
    rfl
  apply Agrees.of_mapError_root
  rw [← result_createAs registry kind hname base e, Report.result_bind, hensure]
  change ((createAs registry kind name base e).result.mapError (Failure.inTask task)).mapError _ = _
  cases (createAs registry kind name base e).result <;> rfl

/-- Streams and tables are defined by exactly the query that selects from their base. -/
theorem createAs_agrees_with_query (registry : Registry) (scope : Scope) (name base : String)
    (e : Expr) (hactive : scope.isActive)
    (hname : validateIdentifier "object name" name = .ok ()) :
    Agrees ("CREATE STREAM " ++ name ++ " AS ")
        (createStreamAs registry scope name base e).result
        (ofChain registry (definitionBase base e) e .push).result ∧
      Agrees ("CREATE TABLE " ++ name ++ " AS ")
        (createTableAs registry scope name base e).result
        (ofChain registry (definitionBase base e) e .push).result := by
  constructor
  · exact agrees_of_createAs registry (.createStreamAs name) "CREATE STREAM AS" base
      (.createStreamAs name base) e hactive hname
  · exact agrees_of_createAs registry (.createTableAs name) "CREATE TABLE AS" base
      (.createTableAs name base) e hactive hname

def paidOrders : Expr :=
  .filter (.source "orders") (.lambda ["o"] (.member (.parameter "o" .unknown) "Paid" .bool))

/-- The standard builders, but for one that asks whether what it is given holds. -/
def askingRegistry : Registry :=
  Registry.standard.insert .filter fun e context => do
    let condition ← Registry.standard.build .filter e context
    return condition ++ " IS TRUE"

/-- An empty base is the source of the chain, and the filter of the chain is kept, whichever builder
it has. -/
theorem createAs_agrees_with_query_orders :
    (createStreamAs .standard { depth := 1 } "paid" "" paidOrders).result =
      .ok ("CREATE STREAM paid AS " ++ "SELECT * FROM orders WHERE (Paid = true) EMIT CHANGES") ∧
    (createTableAs askingRegistry { depth := 1 } "paid" "" paidOrders).result =
      .ok ("CREATE TABLE paid AS " ++
        "SELECT * FROM orders WHERE (Paid = true) IS TRUE EMIT CHANGES") := by
  constructor
  · exact ((createAs_agrees_with_query .standard { depth := 1 } "paid" "" _ rfl rfl).1.ok_iff _).mpr
      (result_ofChain_of_inOrder? (by decide +kernel))
  · exact ((createAs_agrees_with_query askingRegistry { depth := 1 } "paid" "" _ rfl
      rfl).2.ok_iff _).mpr (result_ofChain_of_inOrder? (by decide +kernel))

end Query

end StreamQuery
