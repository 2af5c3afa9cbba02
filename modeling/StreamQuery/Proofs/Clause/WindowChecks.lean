import StreamQuery.Clause.Window
import StreamQuery.Proofs.Report

/-!
# Windows that are accepted

A window is accepted exactly if it has a kind, the length that the kind is about is set, and the
lengths that are checked for the kind lie in their limits.
-/

namespace StreamQuery

/-- The lengths of a window. -/
inductive WindowLength where
  | span (span : WindowSpan)
  | allowance (allowance : WindowAllowance)
deriving DecidableEq

namespace WindowLength

/-- The durations that a window may have as a length. -/
def Allows : WindowLength → Duration → Prop
  | .span _, d => .ofSeconds 1 ≤ d ∧ d ≤ .ofDays 30
  | .allowance _, d => .zero ≤ d

instance (length : WindowLength) (d : Duration) : Decidable (length.Allows d) :=
  match length with
  | .span _ => inferInstanceAs (Decidable (_ ∧ _))
  | .allowance _ => inferInstanceAs (Decidable (_ ≤ _))

/-- Whether a window may have the length so, or not at all. -/
def Admits (length : WindowLength) (value : Option Duration) : Prop :=
  ∀ d ∈ value, length.Allows d

@[simp]
theorem admits_none (length : WindowLength) : length.Admits none := by
  intro d hd
  cases hd

@[simp]
theorem admits_some {length : WindowLength} {d : Duration} :
    length.Admits (some d) ↔ length.Allows d := by
  constructor
  · exact fun h => h d rfl
  · rintro h _ ⟨⟩
    exact h

end WindowLength

namespace WindowKind

/-- The length that a window of the kind cannot do without. -/
def required : WindowKind → WindowLength
  | .session => .span .gap
  | _ => .span .size

/-- The lengths that are checked in a window of the kind. -/
def checked : WindowKind → List WindowLength
  | .session => [.span .gap, .allowance .retention, .allowance .gracePeriod]
  | _ => [.span .size, .span .advance, .allowance .retention, .allowance .gracePeriod]

end WindowKind

namespace WindowSpec

def length? (window : WindowSpec) : WindowLength → Option Duration
  | .span .size => window.size
  | .span .advance => window.advanceBy
  | .span .gap => window.gap
  | .allowance .retention => window.retention
  | .allowance .gracePeriod => window.gracePeriod

/-- Whether the window has all that its kind asks for, within the limits. -/
def IsAdmitted (window : WindowSpec) (kind : WindowKind) : Prop :=
  (window.length? kind.required).isSome ∧
    ∀ length ∈ kind.checked, length.Admits (window.length? length)

end WindowSpec

namespace WindowClause

variable {window : WindowSpec} {kind : WindowKind}

theorem checkSpan_eq_ok_iff {span : WindowSpan} {d : Duration} :
    checkSpan span d = .ok () ↔ (WindowLength.span span).Allows d := by
  change (if d.nanoseconds ≤ 0 then _ else if 2592000000000000 < d.nanoseconds then _
    else if d.nanoseconds < 1000000000 then _ else Except.ok ()) = Except.ok () ↔
      1000000000 ≤ d.nanoseconds ∧ d.nanoseconds ≤ 2592000000000000
  split_ifs with hpositive hlong hshort
  · rw [false_iff]
    omega
  · rw [false_iff]
    omega
  · rw [false_iff]
    omega
  · rw [eq_self_iff_true, true_iff]
    omega

theorem checkAllowance_eq_ok_iff {allowance : WindowAllowance} {value : Option Duration} :
    checkAllowance allowance value = .ok () ↔ (WindowLength.allowance allowance).Admits value := by
  cases value with
  | none => simp [checkAllowance]
  | some d =>
      rw [WindowLength.admits_some]
      change (if decide (d.nanoseconds < 0) = true then _ else Except.ok ()) = Except.ok () ↔
        0 ≤ d.nanoseconds
      split_ifs with hnegative
      · rw [decide_eq_true_iff] at hnegative
        rw [false_iff]
        omega
      · rw [decide_eq_true_iff] at hnegative
        rw [eq_self_iff_true, true_iff]
        omega

theorem result_checkSized_eq_ok_iff :
    (checkSized kind window).result = .ok () ↔
      window.size.isSome ∧ (WindowLength.span .size).Admits window.size ∧
        (WindowLength.span .advance).Admits window.advanceBy := by
  unfold checkSized
  cases window.size with
  | none => simp [Report.result_throw]
  | some size =>
      rw [Report.result_bind, Report.result_check, check_bind_eq_ok_iff, checkSpan_eq_ok_iff]
      cases window.advanceBy with
      | none => simp
      | some advance =>
          rw [Report.result_bind, Report.result_check, check_bind_eq_ok_iff, checkSpan_eq_ok_iff,
            Report.result_notify_if]
          simp

theorem result_checkSession_none (h : window.gap = none) :
    (checkSession window).result = .error (.violation .sessionWithoutGap) := by
  rw [checkSession, h]
  rfl

theorem result_checkSession_some {gap : Duration} (h : window.gap = some gap) :
    (checkSession window).result = checkSpan .gap gap := by
  have hnotices : ∀ (long ignored : Prop) [Decidable long] [Decidable ignored],
      (do if long then Report.notify (.longSessionGap gap)
          if ignored then Report.notify .sessionOptionsIgnored : Report Unit).result = .ok () := by
    intro long ignored _ _
    by_cases hlong : long <;> by_cases hignored : ignored <;> simp [hlong, hignored] <;> rfl
  rw [checkSession, h]
  change (liftM (checkSpan .gap gap) >>= _ : Report Unit).result = _
  rw [Report.result_bind, hnotices]
  cases checkSpan .gap gap <;> rfl

theorem result_checkSession_eq_ok_iff :
    (checkSession window).result = .ok () ↔
      window.gap.isSome ∧ (WindowLength.span .gap).Admits window.gap := by
  cases hgap : window.gap with
  | none => simp [result_checkSession_none hgap]
  | some gap => simp [result_checkSession_some hgap, checkSpan_eq_ok_iff]

/-- After the lengths that the kind is about, the allowances are checked. -/
theorem result_validate (hkind : window.kind = some kind) :
    (validate window).result = (do
      (if kind = .session then checkSession window else checkSized kind window).result
      checkAllowance .retention window.retention
      checkAllowance .gracePeriod window.gracePeriod
      return kind) := by
  unfold validate
  rw [hkind]
  cases kind <;> simp [Report.result_check] <;> rfl

theorem isAdmitted_iff :
    window.IsAdmitted kind ↔
      (if kind = .session then checkSession window else checkSized kind window).result = .ok () ∧
        (WindowLength.allowance .retention).Admits window.retention ∧
        (WindowLength.allowance .gracePeriod).Admits window.gracePeriod := by
  unfold WindowSpec.IsAdmitted
  cases kind with
  | session =>
      rw [if_pos rfl, result_checkSession_eq_ok_iff]
      simp [WindowKind.required, WindowKind.checked, WindowSpec.length?, and_assoc]
  | tumbling =>
      rw [if_neg (by decide), result_checkSized_eq_ok_iff]
      simp [WindowKind.required, WindowKind.checked, WindowSpec.length?, and_assoc]
  | hopping =>
      rw [if_neg (by decide), result_checkSized_eq_ok_iff]
      simp [WindowKind.required, WindowKind.checked, WindowSpec.length?, and_assoc]

/-- A window is accepted exactly if it has a kind that admits its lengths. -/
theorem result_validate_eq_ok_iff :
    (validate window).result = .ok kind ↔ window.kind = some kind ∧ window.IsAdmitted kind := by
  cases hkind : window.kind with
  | none =>
      rw [validate, hkind]
      simp [Report.result_throw]
  | some other =>
      have hpure : (pure other : Except Failure WindowKind) = .ok kind ↔ other = kind :=
        ⟨Except.ok.inj, congrArg Except.ok⟩
      rw [result_validate hkind, check_bind_eq_ok_iff, check_bind_eq_ok_iff, check_bind_eq_ok_iff,
        checkAllowance_eq_ok_iff, checkAllowance_eq_ok_iff, hpure, Option.some_inj]
      constructor
      · rintro ⟨hlengths, hretention, hgrace, rfl⟩
        exact ⟨rfl, isAdmitted_iff.mpr ⟨hlengths, hretention, hgrace⟩⟩
      · rintro ⟨rfl, hadmitted⟩
        obtain ⟨hlengths, hretention, hgrace⟩ := isAdmitted_iff.mp hadmitted
        exact ⟨hlengths, hretention, hgrace, rfl⟩

theorem result_build_eq_ok_iff {argument : Expr} {text : String} :
    (build argument).result = .ok text ↔
      ∃ window kind, spec argument = .ok window ∧ window.kind = some kind ∧
        window.IsAdmitted kind ∧ text = render kind window := by
  constructor
  · intro h
    obtain ⟨window, hspec, hvalidate⟩ := Report.result_bind_eq_ok.mp h
    obtain ⟨kind, hkind, hpure⟩ := Report.result_bind_eq_ok.mp hvalidate
    obtain ⟨hkind, hadmitted⟩ := result_validate_eq_ok_iff.mp hkind
    exact ⟨window, kind, hspec, hkind, hadmitted, (Except.ok.inj hpure).symm⟩
  · rintro ⟨window, kind, hspec, hkind, hadmitted, rfl⟩
    refine Report.result_bind_eq_ok.mpr ⟨window, hspec, Report.result_bind_eq_ok.mpr ⟨kind, ?_, rfl⟩⟩
    exact result_validate_eq_ok_iff.mpr ⟨hkind, hadmitted⟩

end WindowClause

end StreamQuery
