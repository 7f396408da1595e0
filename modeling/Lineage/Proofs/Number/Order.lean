/-
The order of numbers.

Numbers are compared by where they lie on the number line.  What is not a number lies nowhere, and
so it is neither below anything nor at most anything.
-/
import Mathlib.Tactic.Lemma
import Lineage.Number.Basic

namespace Lineage

lemma Place.lt_eq_false_trans {p q r : Place} (hpq : p.lt q = false) (hqr : q.lt r = false) :
    p.lt r = false := by
  cases p <;> cases q <;> cases r <;> simp_all [Place.lt]
  omega

namespace Number

/-- At most, by exact value; false wherever something is not a number. -/
def le (x y : Number) : Bool :=
  match x.place?, y.place? with
  | some p, some q => !q.lt p
  | _, _ => false

lemma le_eq_true_iff {x y : Number} :
    x.le y = true ↔ ∃ p q, x.place? = some p ∧ y.place? = some q ∧ q.lt p = false := by
  unfold le
  cases x.place? <;> cases y.place? <;> simp

lemma le_trans {x y z : Number} (hxy : x.le y = true) (hyz : y.le z = true) : x.le z = true := by
  rw [le_eq_true_iff] at hxy hyz ⊢
  obtain ⟨p, q, hp, hq, hqp⟩ := hxy
  obtain ⟨q', r, hq', hr, hrq⟩ := hyz
  rw [hq, Option.some.injEq] at hq'
  subst hq'
  exact ⟨p, r, hp, hr, Place.lt_eq_false_trans hrq hqp⟩

/-- Between numbers, one is at most the other exactly if the other is not less. -/
lemma le_eq_not_lt {x y : Number} (hx : x.place?.isSome) (hy : y.place?.isSome) :
    x.le y = !y.lt x := by
  obtain ⟨p, hp⟩ := Option.isSome_iff_exists.1 hx
  obtain ⟨q, hq⟩ := Option.isSome_iff_exists.1 hy
  rw [le, lt, hp, hq]

lemma isSome_place? {x : Number} (h : x ≠ .real .nan) : x.place?.isSome := by
  cases x with
  | int n => rfl
  | real d =>
      cases d with
      | nan => exact absurd rfl h
      | inf negative => cases negative <;> rfl
      | finite negative mant exp => rfl

lemma ne_nan_of_le {x y : Number} (h : x.le y = true) : x ≠ .real .nan ∧ y ≠ .real .nan := by
  obtain ⟨p, q, hp, hq, -⟩ := le_eq_true_iff.1 h
  constructor
  · rintro rfl
    cases hp
  · rintro rfl
    cases hq

lemma lt_eq_false_of_le {x y : Number} (h : x.le y = true) : y.lt x = false := by
  obtain ⟨p, q, hp, hq, hqp⟩ := le_eq_true_iff.1 h
  rw [lt, hp, hq]
  exact hqp

end Number

lemma Double.pack_ne_nan (negative : Bool) (mant : Nat) (exp : Int) :
    pack negative mant exp ≠ .nan := by
  unfold pack
  dsimp only
  split <;> split <;> exact Double.noConfusion

/-- A score is a number. -/
lemma Hundredths.toNumber_ne_nan (h : Hundredths) : h.toNumber ≠ .real .nan := by
  have hratio : Double.ofRatio false h.count 100 ≠ .nan := by
    unfold Double.ofRatio
    split
    · exact Double.noConfusion
    · exact Double.pack_ne_nan _ _ _
  exact fun heq => hratio (Number.real.inj heq)

end Lineage
