import Mathlib.Data.List.Basic
import StreamQuery.Identifier
import StreamQuery.Text.Case

/-!
# Characters of identifiers

Identifiers consist of ASCII letters, digits and underscores, also in upper case.
-/

namespace StreamQuery

theorem lt_of_isIdentifierChar {c : Char} (h : isIdentifierChar c) : c.toNat < 0x7b := by
  have hlast : ∀ last : Char, last.toNat < 0x7b → c.val ≤ last.val → c.toNat < 0x7b :=
    fun last hlast hle => Nat.lt_of_le_of_lt hle hlast
  rcases Bool.or_eq_true_iff.mp h with halphanum | hunderscore
  · rcases Bool.or_eq_true_iff.mp halphanum with halpha | hdigit
    · rcases Bool.or_eq_true_iff.mp halpha with hupper | hlower
      · exact hlast 'Z' (by decide) (of_decide_eq_true hupper).2
      · exact hlast 'z' (by decide) (of_decide_eq_true (Bool.and_eq_true_iff.mp hlower).2)
    · exact hlast '9' (by decide) (of_decide_eq_true (Bool.and_eq_true_iff.mp hdigit).2)
  · rw [of_decide_eq_true hunderscore]
    decide

theorem isIdentifierChar_of_mem {name : String} (h : isIdentifier name) :
    ∀ c ∈ name.toList, isIdentifierChar c := by
  unfold isIdentifier at h
  split at h
  · cases h
  · next c rest heq =>
      simp only [Bool.and_eq_true, List.all_eq_true] at h
      rw [heq, List.forall_mem_cons]
      refine ⟨?_, h.2⟩
      have hstart := h.1
      simp only [isIdentifierStart, isIdentifierChar, Char.isAlphanum, Bool.or_eq_true] at hstart ⊢
      rcases hstart with hstart | hstart
      · exact Or.inl (Or.inl hstart)
      · exact Or.inr hstart

/-- Upper case of a character of an identifier. -/
theorem upper_of_isIdentifierChar {c : Char} (h : isIdentifierChar c) :
    Text.upperChar c = [c.toUpper] ∧ isIdentifierChar c.toUpper ∧ c.toUpper.toUpper = c.toUpper := by
  have hcode : ∀ code < 0x7b, isIdentifierChar (Char.ofNat code) →
      Text.upperChar (Char.ofNat code) = [(Char.ofNat code).toUpper] ∧
        isIdentifierChar (Char.ofNat code).toUpper ∧
        (Char.ofNat code).toUpper.toUpper = (Char.ofNat code).toUpper := by
    decide
  have hc := hcode c.toNat (lt_of_isIdentifierChar h)
  rw [Char.ofNat_toNat] at hc
  exact hc h

theorem toList_upper {name : String} (h : isIdentifier name) :
    (Text.upper name).toList = name.toList.map Char.toUpper := by
  rw [Text.upper, String.toList_ofList, List.map_eq_flatMap]
  apply List.flatMap_congr
  intro c hc
  exact (upper_of_isIdentifierChar (isIdentifierChar_of_mem h c hc)).1

theorem isIdentifierChar_of_mem_upper {name : String} (h : isIdentifier name) :
    ∀ c ∈ (Text.upper name).toList, isIdentifierChar c := by
  rw [toList_upper h, List.forall_mem_map]
  intro c hc
  exact (upper_of_isIdentifierChar (isIdentifierChar_of_mem h c hc)).2.1

end StreamQuery
