/-
Texts that are there and not empty, and what stands in for the others; so the names that the steps
of a data flow go by.
-/
import Mathlib.Data.List.Forall2
import Mathlib.Tactic.Lemma
import Lineage.Atom.DataFlow

namespace Lineage

lemma given_cases (a b : Option String) :
    (∃ s, a = some s ∧ s ≠ "" ∧ given a b = some s) ∨ (isGiven a = false ∧ given a b = b) := by
  cases a with
  | none => exact Or.inr ⟨rfl, rfl⟩
  | some s =>
      by_cases hs : s = ""
      · exact Or.inr (by simp [given, isGiven, hs])
      · exact Or.inl ⟨s, rfl, hs, by simp [given, isGiven, hs]⟩

lemma givenOr_cases (a : Option String) (s : String) :
    (∃ t, a = some t ∧ t ≠ "" ∧ givenOr a s = t) ∨ (isGiven a = false ∧ givenOr a s = s) := by
  rw [givenOr]
  rcases given_cases a (some s) with ⟨t, ha, ht, hgiven⟩ | ⟨ha, hgiven⟩
  · exact Or.inl ⟨t, ha, ht, by rw [hgiven]⟩
  · exact Or.inr ⟨ha, by rw [hgiven]⟩

lemma givenOr_of_not_isGiven {a : Option String} (h : isGiven a = false) (s : String) :
    givenOr a s = s := by
  rw [givenOr, given, h, if_neg Bool.false_ne_true]

lemma eq_none_or_empty {a : Option String} (h : isGiven a = false) : a = none ∨ a = some "" := by
  cases a with
  | none => exact Or.inl rfl
  | some s => exact Or.inr (by simpa [isGiven] using h)

/-! ### Names of steps -/

/-- The name that a step goes by: its operation, or, where that is missing or empty, a mere
transformation. -/
def Transformation.IsCalled (t : Transformation) (name : String) : Prop :=
  (t.operation = some name ∧ name ≠ "") ∨
    ((t.operation = none ∨ t.operation = some "") ∧ name = "transform")

lemma Transformation.isCalled_operationName (t : Transformation) : t.IsCalled t.operationName := by
  rcases givenOr_cases t.operation "transform" with ⟨name, hoperation, hne, hname⟩ | ⟨hnot, hname⟩
  · left
    rw [operationName, hname]
    exact ⟨hoperation, hne⟩
  · right
    exact ⟨eq_none_or_empty hnot, hname⟩

lemma Transformation.IsCalled.ne_empty {t : Transformation} {name : String} (h : t.IsCalled name) :
    name ≠ "" := by
  rcases h with ⟨-, hne⟩ | ⟨-, rfl⟩
  · exact hne
  · decide

lemma DataFlow.forall₂_isCalled (d : DataFlow) :
    List.Forall₂ Transformation.IsCalled d.transformations d.operationNames := by
  rw [operationNames, List.forall₂_map_right_iff, List.forall₂_same]
  exact fun t _ => t.isCalled_operationName

end Lineage
