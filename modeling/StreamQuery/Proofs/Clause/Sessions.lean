import StreamQuery.Proofs.Clause.WindowLimits

/-!
# What a session depends on

A session prints its gap only. Its size, its advance and the wish for final results have no effect at
all. Its retention and its grace period have one if they are negative: then the session is refused
for the first of them. So two sessions of the same gap give the same result exactly if they are
refused for the same allowance, or if the gap is out of its limits already.
-/

namespace StreamQuery

namespace WindowSpec

/-- The first allowance that is negative. -/
def refused? (window : WindowSpec) : Option WindowAllowance :=
  [.retention, .gracePeriod].find? fun allowance =>
    (window.length? (.allowance allowance)).any (· < .zero)

/-- Whether neither the retention nor the grace period is negative. -/
def HasNoNegative (window : WindowSpec) : Prop :=
  ∀ allowance : WindowAllowance,
    (WindowLength.allowance allowance).Admits (window.length? (.allowance allowance))

theorem refused?_eq_none {window : WindowSpec} (h : window.HasNoNegative) :
    window.refused? = none := by
  rw [refused?, List.find?_eq_none]
  intro allowance _ hany
  obtain ⟨d, hd, hnegative⟩ := (Option.any_eq_true _ _).mp hany
  have hnonneg : 0 ≤ d.nanoseconds := h allowance d hd
  have hlt : d.nanoseconds < 0 := of_decide_eq_true hnegative
  omega

end WindowSpec

namespace WindowClause

/-- The value, or the failure of a window that is refused for an allowance. -/
def unlessRefused {α : Type} (refused : Option WindowAllowance) (value : α) : Except Failure α :=
  refused.elim (.ok value) fun allowance => .error (.violation (.negativeAllowance allowance))

theorem unlessRefused_inj {α : Type} {refused refused' : Option WindowAllowance} {value : α} :
    unlessRefused refused value = unlessRefused refused' value ↔ refused = refused' := by
  cases refused <;> cases refused' <;> simp [unlessRefused]

variable {argument : Expr} {window window' : WindowSpec}

theorem checkAllowances_eq {α : Type} (window : WindowSpec) (value : α) :
    (do checkAllowance .retention window.retention
        checkAllowance .gracePeriod window.gracePeriod
        return value : Except Failure α) = unlessRefused window.refused? value := by
  unfold checkAllowance WindowSpec.refused?
  simp only [List.find?_cons, WindowSpec.length?]
  cases window.retention.any (· < .zero) with
  | true => rfl
  | false =>
      cases window.gracePeriod.any (· < .zero) with
      | true => rfl
      | false => rfl

/-- The result of a session is made of its gap and the allowance that it is refused for. -/
theorem result_build_session (hspec : spec argument = .ok window)
    (hkind : window.kind = some .session) :
    (build argument).result = (checkSession window).result >>= fun _ =>
      unlessRefused window.refused? (render .session window) := by
  have hvalidate := result_validate hkind
  rw [if_pos rfl] at hvalidate
  rw [build, hspec, Report.result_bind]
  change ((validate window) >>= fun kind => pure (render kind window)).result = _
  rw [Report.result_bind, hvalidate, bind_assoc]
  congr 1
  funext _
  rw [checkAllowances_eq]
  cases window.refused? <;> rfl

theorem result_build_of_allows (hspec : spec argument = .ok window)
    (hkind : window.kind = some .session) {gap : Duration} (hgap : window.gap = some gap)
    (hallows : (WindowLength.span .gap).Allows gap) :
    (build argument).result =
      unlessRefused window.refused? ("SESSION (GAP " ++ gap.text ++ ")") := by
  rw [result_build_session hspec hkind, result_checkSession_some hgap,
    checkSpan_eq_ok_iff.mpr hallows, render_session hgap]
  rfl

theorem result_checkSession_congr (hgap : window.gap = window'.gap) :
    (checkSession window).result = (checkSession window').result := by
  cases hwindow : window.gap with
  | none => rw [result_checkSession_none hwindow, result_checkSession_none (hgap ▸ hwindow)]
  | some gap => rw [result_checkSession_some hwindow, result_checkSession_some (hgap ▸ hwindow)]

/-- Sessions ignore all settings but the gap, unless an allowance is negative. With the same gap and
no negative allowance they give the same result. In general they do so exactly if the first negative
allowance is the same, or if the gap is missing or out of its limits. A session whose gap lies in the
limits prints the gap, or is refused for its first negative allowance. -/
theorem sessions_agree_iff (argument argument' : Expr) (hspec : spec argument = .ok window)
    (hspec' : spec argument' = .ok window') (hkind : window.kind = some .session)
    (hkind' : window'.kind = some .session) (hgap : window.gap = window'.gap) :
    (window.HasNoNegative → window'.HasNoNegative →
      (build argument).result = (build argument').result) ∧
    ((build argument).result = (build argument').result ↔
      window.refused? = window'.refused? ∨
        ¬∃ gap, window.gap = some gap ∧ (WindowLength.span .gap).Allows gap) ∧
    ∀ gap, window.gap = some gap → (WindowLength.span .gap).Allows gap →
      (build argument).result =
        unlessRefused window.refused? ("SESSION (GAP " ++ gap.text ++ ")") := by
  have hagree : (build argument).result = (build argument').result ↔
      window.refused? = window'.refused? ∨
        ¬∃ gap, window.gap = some gap ∧ (WindowLength.span .gap).Allows gap := by
    by_cases hallowed : ∃ gap, window.gap = some gap ∧ (WindowLength.span .gap).Allows gap
    · obtain ⟨gap, hwindow, hallows⟩ := id hallowed
      rw [result_build_of_allows hspec hkind hwindow hallows,
        result_build_of_allows hspec' hkind' (hgap ▸ hwindow) hallows, unlessRefused_inj]
      exact (or_iff_left (not_not_intro hallowed)).symm
    · refine iff_of_true ?_ (Or.inr hallowed)
      rw [result_build_session hspec hkind, result_build_session hspec' hkind',
        ← result_checkSession_congr hgap]
      cases hcheck : (checkSession window).result with
      | error failure => rfl
      | ok _ =>
          obtain ⟨hsome, hadmits⟩ := result_checkSession_eq_ok_iff.mp hcheck
          obtain ⟨gap, hwindow⟩ := Option.isSome_iff_exists.mp hsome
          exact absurd ⟨gap, hwindow, hadmits gap hwindow⟩ hallowed
  refine ⟨?_, hagree, fun gap => result_build_of_allows hspec hkind⟩
  intro hnone hnone'
  rw [hagree, WindowSpec.refused?_eq_none hnone, WindowSpec.refused?_eq_none hnone']
  exact Or.inl rfl

def halfHour : Window :=
  Window.sessionOf (.ofSeconds 1800)

/-- The same gap after second thoughts about the kind, among settings that a session ignores. -/
def wordyHalfHour : Window :=
  [.kind .tumbling, .size (.ofSeconds (-1)), .gap (.ofSeconds 1800), .retention (.ofDays 7),
    .gracePeriod .zero, .kind .session, .advanceBy .zero, .emitFinal]

theorem sessions_agree_iff_halfHour :
    (build (.constant (.window halfHour))).result = .ok "SESSION (GAP 30 MINUTES)" ∧
    (build (.constant (.window halfHour))).result =
      (build (.constant (.window wordyHalfHour))).result := by
  obtain ⟨hagree, -, hgap⟩ := sessions_agree_iff (.constant (.window halfHour))
    (.constant (.window wordyHalfHour)) rfl rfl rfl rfl rfl
  refine ⟨hgap (.ofSeconds 1800) rfl (by decide), hagree ?_ ?_⟩
  · rintro (_ | _)
    · exact WindowLength.admits_none _
    · exact WindowLength.admits_none _
  · rintro (_ | _)
    · exact WindowLength.admits_some.mpr (by decide)
    · exact WindowLength.admits_some.mpr (by decide)

/-- The half hour with a retention below zero. -/
def refusedHalfHour : Window :=
  halfHour ++ [.retention (.ofSeconds (-1))]

/-- A session is refused for a retention, which it does not print. -/
theorem session_refused_for_retention :
    (WindowSpec.ofWindow halfHour).kind = some .session ∧
    (WindowSpec.ofWindow refusedHalfHour).kind = some .session ∧
    (WindowSpec.ofWindow halfHour).gap = (WindowSpec.ofWindow refusedHalfHour).gap ∧
    (build (.constant (.window halfHour))).result = .ok "SESSION (GAP 30 MINUTES)" ∧
    (build (.constant (.window refusedHalfHour))).result =
      .error (.violation (.negativeAllowance .retention)) :=
  ⟨rfl, rfl, rfl, rfl, rfl⟩

end WindowClause

end StreamQuery
