import Mathlib.Data.List.Induction
import StreamQuery.Proofs.Query.Ordering

/-!
# Spines of ordering calls

Ordering calls one after the other, on a stream or table. The clause has a term for each call from
the last one on that starts a new ordering, in the order of the calls. The terms before that one are
discarded, but their keys must be good keys all the same, and the first call of all must start an
ordering. The limit on the number of terms holds for those that are left.
-/

namespace StreamQuery

theorem forall₂_concat_left_iff {α β : Type} {R : α → β → Prop} {xs : List α} {x : α}
    {ys : List β} :
    List.Forall₂ R (xs ++ [x]) ys ↔
      ∃ earlier y, List.Forall₂ R xs earlier ∧ R x y ∧ ys = earlier ++ [y] := by
  constructor
  · intro h
    rw [← List.forall₂_reverse_iff, List.reverse_append, List.reverse_singleton,
      List.singleton_append, List.forall₂_cons_left_iff] at h
    obtain ⟨y, rest, hy, hrest, hys⟩ := h
    refine ⟨rest.reverse, y, ?_, hy, ?_⟩
    · rwa [← List.forall₂_reverse_iff, List.reverse_reverse]
    · rw [← List.reverse_cons, ← hys, List.reverse_reverse]
  · rintro ⟨earlier, y, hearlier, hy, rfl⟩
    exact List.rel_append hearlier (.cons hy .nil)

namespace OrderingMethod

def name : OrderingMethod → String
  | ⟨.ascending, true⟩ => "OrderBy"
  | ⟨.descending, true⟩ => "OrderByDescending"
  | ⟨.ascending, false⟩ => "ThenBy"
  | ⟨.descending, false⟩ => "ThenByDescending"

theorem find?_name (method : OrderingMethod) : find? method.name = some method := by
  obtain ⟨direction, restart⟩ := method
  cases direction <;> cases restart <;> rfl

end OrderingMethod

/-- An ordering call: what it does, its key, and the type of what it gives. -/
structure OrderingCall where
  method : OrderingMethod
  key : Expr
  type : DataType

namespace OrderingCall

/-- The query after the call. -/
def apply (query : Expr) (call : OrderingCall) : Expr :=
  .staticCall call.method.name [query, call.key] call.type

/-- The query that makes the calls on a stream or table, the innermost call first. -/
def spine (source : String) (calls : List OrderingCall) : Expr :=
  calls.foldl apply (.source source)

/-- The calls from the last one on that starts a new ordering. -/
def lastRun : List OrderingCall → List OrderingCall
  | [] => []
  | call :: rest =>
    if call.method.restart && !rest.any (·.method.restart) then call :: rest else lastRun rest

/-- The first call starts an ordering, if there is one. -/
def StartsAnew (calls : List OrderingCall) : Prop :=
  ∀ first ∈ calls.head?, first.method.restart

def sortKey (call : OrderingCall) : Expr × SortDirection :=
  (call.key, call.method.direction)

variable {calls : List OrderingCall} {call : OrderingCall}

theorem spine_concat (source : String) (calls : List OrderingCall) (call : OrderingCall) :
    spine source (calls ++ [call]) = call.apply (spine source calls) := by
  rw [spine, List.foldl_append]
  rfl

theorem lastRun_suffix (calls : List OrderingCall) : lastRun calls <:+ calls := by
  induction calls with
  | nil => exact List.suffix_rfl
  | cons first rest ih =>
      rw [lastRun]
      split
      · exact List.suffix_rfl
      · exact ih.trans (List.suffix_cons first rest)

/-- A call that starts a new ordering leaves nothing of the calls before it. -/
theorem lastRun_concat_restart (h : call.method.restart) (calls : List OrderingCall) :
    lastRun (calls ++ [call]) = [call] := by
  induction calls with
  | nil => simp [lastRun, h]
  | cons first rest ih => rw [List.cons_append, lastRun, if_neg (by simp [h]), ih]

/-- A call that continues an ordering is one more call of the last run. -/
theorem lastRun_concat_continue (h : call.method.restart = false)
    (hcalls : calls.any (·.method.restart)) :
    lastRun (calls ++ [call]) = lastRun calls ++ [call] := by
  induction calls with
  | nil => cases hcalls
  | cons first rest ih =>
      have hany : (rest ++ [call]).any (·.method.restart) = rest.any (·.method.restart) := by
        simp [h]
      rw [List.cons_append, lastRun, lastRun, hany]
      cases hrest : rest.any (·.method.restart) with
      | true => simpa using ih hrest
      | false =>
          rw [List.any_cons, hrest, Bool.or_false] at hcalls
          simp [hcalls]

theorem lastRun_ne_nil (h : calls.any (·.method.restart)) : lastRun calls ≠ [] := by
  induction calls with
  | nil => cases h
  | cons first rest ih =>
      rw [lastRun]
      cases hrest : rest.any (·.method.restart) with
      | true => simpa using ih hrest
      | false =>
          rw [List.any_cons, hrest, Bool.or_false] at h
          simp [h]

theorem startsAnew_concat :
    StartsAnew (calls ++ [call]) ↔ StartsAnew calls ∧ (calls = [] → call.method.restart) := by
  cases calls <;> simp [StartsAnew]

theorem StartsAnew.any_restart (h : StartsAnew calls) (hne : calls ≠ []) :
    calls.any (·.method.restart) := by
  obtain ⟨first, rest, rfl⟩ := List.exists_cons_of_ne_nil hne
  rw [List.any_cons, h first rfl, Bool.true_or]

end OrderingCall

namespace OrderByClause

open OrderingCall

/-- A key without operators and conditionals that calls nothing but what may stand in a key. -/
def IsSimple (key : Expr) : Prop :=
  ∀ node ∈ key.nodes, node.kind ≠ .binary ∧ node.kind ≠ .conditional ∧
    ∀ name ∈ node.methodName?, name ∈ allowedMethods

theorem isComplex_eq_false_iff {key : Expr} : isComplex key = false ↔ IsSimple key := by
  rw [← Bool.not_eq_true, isComplex, Expr.any_eq_true_iff, not_exists]
  simp only [not_and]
  refine forall₂_congr fun node _ => ?_
  cases node <;> simp [Expr.kind, Expr.methodName?]

/-- The term that a call gives. -/
def Gives (rules : LoweringRules) (call : OrderingCall) (t : Term) : Prop :=
  term rules call.key call.method.direction = .ok t

theorem exists_gives_iff {rules : LoweringRules} {call : OrderingCall} :
    (∃ t, Gives rules call t) ↔ IsSimple call.key ∧ ∃ t, call.key.lowerValue rules = .ok t := by
  simp only [Gives, term_eq_ok_iff, isComplex_stripLambda, isComplex_eq_false_iff]
  constructor
  · rintro ⟨_, hsimple, sql, hsql, -⟩
    exact ⟨hsimple, sql, hsql⟩
  · rintro ⟨hsimple, sql, hsql⟩
    exact ⟨_, hsimple, sql, hsql, rfl⟩

theorem terms_apply (rules : LoweringRules) (query : Expr) (call : OrderingCall) :
    terms rules (call.apply query) =
      (do extend rules call.method.name call.method call.key (← terms rules query)) :=
  terms_ordering call.method.find?_name rules query call.key call.type

/-- The terms of a spine, after all its calls. -/
theorem terms_spine_eq_ok_iff {rules : LoweringRules} {source : String} {calls : List OrderingCall}
    {list : List Term} :
    terms rules (spine source calls) = .ok list ↔ StartsAnew calls ∧
      (∀ call ∈ calls, ∃ t, Gives rules call t) ∧
      List.Forall₂ (Gives rules) (lastRun calls) list := by
  induction calls using List.reverseRecOn generalizing list with
  | nil =>
      rw [lastRun, List.forall₂_nil_left_iff]
      constructor
      · intro h
        exact ⟨by simp [StartsAnew], by simp, (Except.ok.inj h).symm⟩
      · rintro ⟨-, -, rfl⟩
        rfl
  | append_singleton calls call ih =>
      rw [spine_concat, terms_apply, bind_eq_ok_iff, startsAnew_concat, List.forall_mem_append,
        List.forall_mem_singleton]
      simp only [ih, extend_eq_ok_iff]
      cases hrestart : call.method.restart with
      | true =>
          rw [lastRun_concat_restart hrestart]
          constructor
          · rintro ⟨earlier, ⟨hanew, hcalls, -⟩, t, ht, rfl⟩
            exact ⟨⟨hanew, fun _ => rfl⟩, ⟨hcalls, t, ht⟩, .cons ht .nil⟩
          · rintro ⟨⟨hanew, -⟩, ⟨hcalls, -⟩, hlist⟩
            obtain ⟨t, _, ht, hnil, rfl⟩ := List.forall₂_cons_left_iff.mp hlist
            obtain rfl := List.forall₂_nil_left_iff.mp hnil
            -- The discarded terms were terms once.
            obtain ⟨earlier, hearlier⟩ := exists_forall₂_iff.mpr fun call hcall =>
              hcalls call ((lastRun_suffix calls).subset hcall)
            exact ⟨earlier, ⟨hanew, hcalls, hearlier⟩, t, ht, rfl⟩
      | false =>
          constructor
          · rintro ⟨earlier, ⟨hanew, hcalls, hearlier⟩, t, ht, hne, rfl⟩
            have hcallsNe : calls ≠ [] := by
              rintro rfl
              exact hne (List.forall₂_nil_left_iff.mp hearlier)
            rw [lastRun_concat_continue hrestart (hanew.any_restart hcallsNe)]
            exact ⟨⟨hanew, fun hnil => absurd hnil hcallsNe⟩, ⟨hcalls, t, ht⟩,
              forall₂_concat_left_iff.mpr ⟨earlier, t, hearlier, ht, rfl⟩⟩
          · rintro ⟨⟨hanew, hfirst⟩, ⟨hcalls, -⟩, hlist⟩
            have hany : calls.any (·.method.restart) := by
              refine hanew.any_restart ?_
              intro hnil
              cases hfirst hnil
            rw [lastRun_concat_continue hrestart hany] at hlist
            obtain ⟨earlier, t, hearlier, ht, rfl⟩ := forall₂_concat_left_iff.mp hlist
            refine ⟨earlier, ⟨hanew, hcalls, hearlier⟩, t, ht, ?_, rfl⟩
            rintro rfl
            exact lastRun_ne_nil hany (List.forall₂_nil_right_iff.mp hearlier)

theorem areTerms_of_gives {rules : LoweringRules} {calls : List OrderingCall} {list : List Term}
    (h : List.Forall₂ (Gives rules) calls list) :
    AreTerms rules (calls.map (·.sortKey)) list := by
  rw [AreTerms, List.forall₂_map_left_iff]
  exact h.imp fun _ _ ht => (List.forall₂_cons.mp (areTerms_of_term ht)).1

/-- The ordering clause of a spine. It is built exactly if the first call starts an ordering, every
key is simple and has an SQL expression, those of discarded terms too, and at most five calls are
left from the last one on that starts a new ordering. It then has one term for each of these calls,
in their order: the column of the key and the direction. -/
theorem build_spine (source : String) (calls : List OrderingCall) (context : Context) :
    ((∃ text, (build (spine source calls) context).result = .ok text) ↔
      StartsAnew calls ∧
      (∀ call ∈ calls, IsSimple call.key ∧
        ∃ t, call.key.lowerValue (LoweringRules.orderBy.withContext context) = .ok t) ∧
      (lastRun calls).length ≤ 5) ∧
    ∀ text, (build (spine source calls) context).result = .ok text → ∃ terms,
      AreTerms (LoweringRules.orderBy.withContext context) ((lastRun calls).map (·.sortKey))
        terms ∧
      text = String.intercalate ", " (terms.map (·.text)) := by
  simp only [build_eq_ok_iff, terms_spine_eq_ok_iff, ← exists_gives_iff]
  refine ⟨⟨?_, ?_⟩, ?_⟩
  · rintro ⟨_, list, ⟨hanew, hcalls, hrun⟩, hlength, -⟩
    exact ⟨hanew, hcalls, hrun.length_eq ▸ hlength⟩
  · rintro ⟨hanew, hcalls, hlength⟩
    obtain ⟨list, hrun⟩ := exists_forall₂_iff.mpr fun call hcall =>
      hcalls call ((lastRun_suffix calls).subset hcall)
    exact ⟨_, list, ⟨hanew, hcalls, hrun⟩, hrun.length_eq ▸ hlength, rfl⟩
  · rintro text ⟨list, ⟨-, -, hrun⟩, -, htext⟩
    exact ⟨list, areTerms_of_gives hrun, htext⟩

-- Seven terms would be too many, but a new ordering discards them.
example :
    let column (name : String) := Expr.lambda ["o"] (.member (.parameter "o" .unknown) name .int)
    let earlier := ⟨⟨.ascending, true⟩, column "A", .unknown⟩ ::
      ["B", "C", "D", "E", "F", "G"].map fun name => ⟨⟨.descending, false⟩, column name, .unknown⟩
    (build (spine "orders" earlier) {}).result = .error (.violation (.tooManyOrderKeys 7)) ∧
    (build (spine "orders" (earlier ++ [⟨⟨.descending, true⟩, column "H", .unknown⟩,
      ⟨⟨.ascending, false⟩, column "I", .unknown⟩])) {}).result = .ok "H DESC, I ASC" :=
  ⟨rfl, rfl⟩

end OrderByClause

end StreamQuery
