import Mathlib.Data.List.Forall2
import StreamQuery.Report

/-!
# Results that succeed

A computation in steps succeeds exactly if each of its steps does, and its value then comes from the
values of the steps.
-/

namespace StreamQuery

theorem bind_eq_ok_iff {ε α β : Type} {x : Except ε α} {next : α → Except ε β} {value : β} :
    x >>= next = .ok value ↔ ∃ inner, x = .ok inner ∧ next inner = .ok value := by
  cases x with
  | error failure =>
      constructor
      · intro h
        cases h
      · rintro ⟨_, h, -⟩
        cases h
  | ok inner =>
      constructor
      · exact fun h => ⟨inner, rfl, h⟩
      · rintro ⟨_, h, hnext⟩
        obtain rfl := Except.ok.inj h
        exact hnext

/-- A check lets the rest go on or ends it. -/
theorem check_bind_eq_ok_iff {ε α : Type} {check : Except ε Unit} {next : Unit → Except ε α}
    {value : α} : check >>= next = .ok value ↔ check = .ok () ∧ next () = .ok value := by
  rw [bind_eq_ok_iff]
  constructor
  · rintro ⟨⟨⟩, hcheck, hnext⟩
    exact ⟨hcheck, hnext⟩
  · rintro ⟨hcheck, hnext⟩
    exact ⟨(), hcheck, hnext⟩

theorem mapError_eq_ok_iff {ε ε' α : Type} {f : ε → ε'} {x : Except ε α} {value : α} :
    x.mapError f = .ok value ↔ x = .ok value := by
  cases x with
  | error failure =>
      constructor <;> intro h <;> cases h
  | ok inner =>
      constructor <;> exact fun h => congrArg Except.ok (Except.ok.inj h)

theorem bind_eq_error_iff {ε α β : Type} {x : Except ε α} {next : α → Except ε β} {failure : ε} :
    x >>= next = .error failure ↔
      x = .error failure ∨ ∃ inner, x = .ok inner ∧ next inner = .error failure := by
  cases x with
  | error cause =>
      constructor
      · exact fun h => Or.inl (congrArg Except.error (Except.error.inj h))
      · rintro (h | ⟨_, h, -⟩)
        · exact congrArg Except.error (Except.error.inj h)
        · cases h
  | ok inner =>
      constructor
      · exact fun h => Or.inr ⟨inner, rfl, h⟩
      · rintro (h | ⟨_, h, hnext⟩)
        · cases h
        · obtain rfl := Except.ok.inj h
          exact hnext

theorem mapError_eq_error_iff {ε ε' α : Type} {f : ε → ε'} {x : Except ε α} {failure : ε'} :
    x.mapError f = .error failure ↔ ∃ cause, x = .error cause ∧ failure = f cause := by
  cases x with
  | error cause =>
      constructor
      · exact fun h => ⟨cause, rfl, (Except.error.inj h).symm⟩
      · rintro ⟨_, h, rfl⟩
        rw [Except.error.inj h]
        rfl
  | ok inner =>
      constructor
      · intro h
        cases h
      · rintro ⟨_, h, -⟩
        cases h

/-- A fold fails at the first step that fails. -/
theorem foldlM_eq_error {ε α β : Type} {step : β → α → Except ε β} {list : List α} {start : β}
    {failure : ε} (h : list.foldlM step start = .error failure) :
    ∃ before a after reached, list = before ++ a :: after ∧
      before.foldlM step start = .ok reached ∧ step reached a = .error failure := by
  induction list generalizing start with
  | nil => cases h
  | cons a rest ih =>
      rw [List.foldlM_cons] at h
      obtain hfirst | ⟨next, hnext, hrest⟩ := bind_eq_error_iff.mp h
      · exact ⟨[], a, rest, start, rfl, rfl, hfirst⟩
      · obtain ⟨before, b, after, reached, rfl, hbefore, hfailed⟩ := ih hrest
        refine ⟨a :: before, b, after, reached, rfl, ?_, hfailed⟩
        rw [List.foldlM_cons]
        exact bind_eq_ok_iff.mpr ⟨next, hnext, hbefore⟩

theorem mapM_eq_ok_iff {ε α β : Type} {f : α → Except ε β} {xs : List α} {ys : List β} :
    xs.mapM f = .ok ys ↔ List.Forall₂ (fun x y => f x = .ok y) xs ys := by
  induction xs generalizing ys with
  | nil =>
      rw [List.mapM_nil, List.forall₂_nil_left_iff]
      constructor
      · exact fun h => (Except.ok.inj h).symm
      · exact fun h => congrArg Except.ok h.symm
  | cons x xs ih =>
      rw [List.mapM_cons, bind_eq_ok_iff, List.forall₂_cons_left_iff]
      constructor
      · rintro ⟨y, hy, hrest⟩
        obtain ⟨rest, hmap, hpure⟩ := bind_eq_ok_iff.mp hrest
        exact ⟨y, rest, hy, ih.mp hmap, (Except.ok.inj hpure).symm⟩
      · rintro ⟨y, rest, hy, hmap, rfl⟩
        exact ⟨y, hy, bind_eq_ok_iff.mpr ⟨rest, ih.mpr hmap, rfl⟩⟩

/-- All elements have a partner exactly if each of them does. -/
theorem exists_forall₂_iff {α β : Type} {R : α → β → Prop} {xs : List α} :
    (∃ ys, List.Forall₂ R xs ys) ↔ ∀ x ∈ xs, ∃ y, R x y := by
  induction xs with
  | nil => exact ⟨fun _ => List.forall_mem_nil _, fun _ => ⟨[], .nil⟩⟩
  | cons x xs ih =>
      rw [List.forall_mem_cons, ← ih]
      constructor
      · rintro ⟨_, hys⟩
        obtain ⟨y, ys, hy, hrest, -⟩ := List.forall₂_cons_left_iff.mp hys
        exact ⟨⟨y, hy⟩, ys, hrest⟩
      · rintro ⟨⟨y, hy⟩, ys, hrest⟩
        exact ⟨y :: ys, .cons hy hrest⟩

theorem exists_mem_of_forall₂ {α β : Type} {R : α → β → Prop} {xs : List α} {ys : List β}
    (h : List.Forall₂ R xs ys) {x : α} (hx : x ∈ xs) : ∃ y ∈ ys, R x y := by
  induction h with
  | nil => cases hx
  | cons hhead _ ih =>
      rcases List.mem_cons.mp hx with rfl | hx
      · exact ⟨_, List.mem_cons_self, hhead⟩
      · obtain ⟨y, hy, hrelated⟩ := ih hx
        exact ⟨y, List.mem_cons_of_mem _ hy, hrelated⟩

theorem forM_eq_ok_iff {ε α : Type} {f : α → Except ε Unit} {xs : List α} :
    xs.forM f = .ok () ↔ ∀ x ∈ xs, f x = .ok () := by
  induction xs with
  | nil => exact ⟨fun _ => List.forall_mem_nil _, fun _ => rfl⟩
  | cons x xs ih =>
      rw [List.forall_mem_cons, ← ih]
      change (f x >>= fun _ => xs.forM f) = .ok () ↔ _
      rw [check_bind_eq_ok_iff]

namespace Report

variable {α β : Type}

theorem result_bind_eq_ok {report : Report α} {next : α → Report β} {value : β} :
    (report >>= next).result = .ok value ↔
      ∃ inner, report.result = .ok inner ∧ (next inner).result = .ok value := by
  rw [result_bind, bind_eq_ok_iff]

theorem result_throw (failure : Failure) : (throw failure : Report α).result = .error failure := rfl

theorem result_check (check : Except Failure Unit) : (check : Report Unit).result = check := rfl

theorem result_notify_if (condition : Prop) [Decidable condition] (notice : Notice) :
    (if condition then notify notice else pure ()).result = .ok () := by
  split <;> rfl

end Report

end StreamQuery
