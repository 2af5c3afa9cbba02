import StreamQuery.Proofs.Assembly
import StreamQuery.Proofs.Clause.WindowChecks

/-!
# Windows and the wish for final results

The text of a window ends in the wish for final results exactly if the window has it and is no
session. Taking the wish off again leaves the text of the same window without it.
-/

namespace StreamQuery

namespace WindowSpec

/-- The window without the wish for final results. -/
def unfinal (spec : WindowSpec) : WindowSpec :=
  { spec with emitFinal := false }

/-- Whether final results only are wished for, in a window that can do so. -/
def emitsFinal (spec : WindowSpec) : Bool :=
  spec.emitFinal && (spec.kind.any (· ≠ .session))

end WindowSpec

namespace WindowClause

/-- The wish for final results is all that follows the window itself. -/
theorem render_eq_append {spec : WindowSpec} {kind : WindowKind} (hkind : spec.kind = some kind) :
    render kind spec =
      render kind spec.unfinal ++ if spec.emitsFinal then emitFinalSuffix else "" := by
  have hsized : ∀ sized, sizedText sized spec =
      sizedText sized spec.unfinal ++ if spec.emitFinal then emitFinalSuffix else "" := by
    intro sized
    simp [sizedText, WindowSpec.unfinal]
  cases kind with
  | session => simp [render, WindowSpec.emitsFinal, WindowSpec.unfinal, hkind]
  | tumbling => simpa [render, WindowSpec.emitsFinal, hkind] using hsized .tumbling
  | hopping => simpa [render, WindowSpec.emitsFinal, hkind] using hsized .hopping

/-- A window without the wish for final results ends in its closing bracket. -/
theorem exists_render_unfinal (kind : WindowKind) (spec : WindowSpec) :
    ∃ front, render kind spec.unfinal = front ++ ")" := by
  have hsized : ∀ sized, ∃ front, sizedText sized spec.unfinal = front ++ ")" := by
    intro sized
    exact ⟨_, String.append_empty⟩
  cases kind with
  | session => exact ⟨_, rfl⟩
  | tumbling => exact hsized .tumbling
  | hopping => exact hsized .hopping

end WindowClause

namespace Builders

open Registry

theorem stripEmitFinal?_append (text : String) :
    stripEmitFinal? (text ++ WindowClause.emitFinalSuffix) = some text := by
  simp [stripEmitFinal?]

/-- A text that ends in a bracket does not end in the wish. -/
theorem not_suffix_of_closed (front : String) {wish : List Char}
    (hwish : wish.getLast? = some 'L') : ¬wish <:+ (front ++ ")").toList := by
  rintro ⟨before, hbefore⟩
  have hlast := congrArg List.getLast? hbefore
  rw [List.getLast?_append, hwish, String.toList_append, List.getLast?_append] at hlast
  exact absurd (Option.some.inj hlast) (by decide)

theorem stripEmitFinal?_of_closed (front : String) : stripEmitFinal? (front ++ ")") = none := by
  have hsuffix := not_suffix_of_closed front
    (show WindowClause.emitFinalSuffix.toList.getLast? = some 'L' by decide)
  rw [← List.isSuffixOf_iff_suffix] at hsuffix
  rw [stripEmitFinal?]
  exact if_neg hsuffix

/-- The clause of a window is the window without the wish for final results, which is passed on. -/
theorem gives_addWindow {builders : Builders} {argument : Expr} {context : Context}
    {clauses : List Clause} {final : Bool}
    (h : (builders.addWindow (some argument) context).Gives clauses final) :
    ∃ window kind, WindowClause.spec argument = .ok window ∧ window.kind = some kind ∧
      clauses = [.ofExpr .window (WindowClause.render kind window.unfinal) false argument] ∧
      final = window.emitsFinal := by
  obtain ⟨text, hbuild, hemit⟩ := Assembly.gives_lift_bind.mp h
  obtain ⟨window, kind, hspec, hkind, -, rfl⟩ :=
    WindowClause.result_build_eq_ok_iff.mp (result_of_build rfl hbuild)
  refine ⟨window, kind, hspec, hkind, ?_⟩
  rw [WindowClause.render_eq_append hkind] at hemit
  cases hfinal : window.emitsFinal with
  | true =>
      rw [hfinal, if_pos rfl, stripEmitFinal?_append] at hemit
      obtain ⟨_, hpure, rfl⟩ := Assembly.gives_emit_bind.mp hemit
      obtain ⟨rfl, rfl⟩ := Assembly.gives_pure.mp hpure
      exact ⟨rfl, rfl⟩
  | false =>
      obtain ⟨front, hfront⟩ := WindowClause.exists_render_unfinal kind window
      rw [hfinal, if_neg Bool.false_ne_true, String.append_empty, hfront,
        stripEmitFinal?_of_closed] at hemit
      obtain ⟨_, hpure, rfl⟩ := Assembly.gives_emit_bind.mp hemit
      obtain ⟨rfl, rfl⟩ := Assembly.gives_pure.mp hpure
      exact ⟨by rw [hfront], rfl⟩

end Builders

end StreamQuery
