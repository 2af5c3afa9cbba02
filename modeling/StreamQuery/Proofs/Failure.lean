import StreamQuery.Proofs.Report

/-!
# Results that fail

A computation in steps fails only with what one of its steps fails with. What a clause or a
statement adds to a failure leaves its root as it is.
-/

namespace StreamQuery

namespace Failure

/-- The statements that a failure passed through, the last one first. -/
def tasks : Failure → List Task
  | .inClause _ cause => cause.tasks
  | .inTask task cause => task :: cause.tasks
  | _ => []

/-- The failure passed through no clause and no statement. -/
def IsRoot : Failure → Prop
  | .inClause .. => False
  | .inTask .. => False
  | _ => True

theorem IsRoot.tasks_eq_nil {failure : Failure} (h : failure.IsRoot) : failure.tasks = [] := by
  cases failure with
  | inClause kind cause => exact h.elim
  | inTask task cause => exact h.elim
  | _ => rfl

theorem IsRoot.root_eq {failure : Failure} (h : failure.IsRoot) : failure.root = failure := by
  cases failure with
  | inClause kind cause => exact h.elim
  | inTask task cause => exact h.elim
  | _ => rfl

end Failure

/-- Every failure of the result satisfies `P`. -/
def FailsOnly {α : Type} (P : Failure → Prop) (result : Except Failure α) : Prop :=
  ∀ failure, result = .error failure → P failure

namespace FailsOnly

variable {α β : Type} {P : Failure → Prop}

theorem ok (value : α) : FailsOnly P (.ok value) := by
  intro failure h
  cases h

theorem error {failure : Failure} (h : P failure) :
    FailsOnly P (.error failure : Except Failure α) := by
  rintro _ ⟨⟩
  exact h

/-- A step may use what the steps before it gave. -/
theorem bind {result : Except Failure α} {next : α → Except Failure β} (h : FailsOnly P result)
    (hnext : ∀ value, result = .ok value → FailsOnly P (next value)) :
    FailsOnly P (result >>= next) := by
  cases result with
  | error failure => exact error (h failure rfl)
  | ok value => exact hnext value rfl

theorem map {result : Except Failure α} {f : α → β} (h : FailsOnly P result) :
    FailsOnly P (do return f (← result)) :=
  h.bind fun value _ => ok (f value)

theorem mapM {f : α → Except Failure β} {list : List α} (h : ∀ a ∈ list, FailsOnly P (f a)) :
    FailsOnly P (list.mapM f) := by
  induction list with
  | nil => exact ok []
  | cons a rest ih =>
      obtain ⟨hfirst, hrest⟩ := List.forall_mem_cons.mp h
      rw [List.mapM_cons]
      exact hfirst.bind fun _ _ => (ih hrest).map

theorem forM {f : α → Except Failure Unit} {list : List α} (h : ∀ a ∈ list, FailsOnly P (f a)) :
    FailsOnly P (list.forM f) := by
  induction list with
  | nil => exact ok ()
  | cons a rest ih =>
      obtain ⟨hfirst, hrest⟩ := List.forall_mem_cons.mp h
      exact hfirst.bind fun _ _ => ih hrest

theorem report_bind {report : Report α} {next : α → Report β} (h : FailsOnly P report.result)
    (hnext : ∀ value, report.result = .ok value → FailsOnly P (next value).result) :
    FailsOnly P (report >>= next).result := by
  rw [Report.result_bind]
  exact h.bind hnext

end FailsOnly

end StreamQuery
