/-
Numbers of JSON text.

The text of a number is not empty and holds none of the characters that end a value, so it reaches
exactly as far as the next of them.  The text of a whole number tells which one it is.
-/
import Mathlib.Tactic.Lemma
import Mathlib.Logic.Function.Basic
import Lineage.Json.Printer

namespace Lineage

/-! ### Digits and signs -/

/-- The characters of a number that is finite. -/
def IsNumeral (c : Char) : Prop :=
  c.isDigit = true ∨ c = '+' ∨ c = '-' ∨ c = '.' ∨ c = 'e'

lemma isNumeral_of_mem_toDigits {n : Nat} {c : Char} (h : c ∈ Nat.toDigits 10 n) : IsNumeral c :=
  Or.inl (Nat.isDigit_of_mem_toDigits (by decide) (by decide) h)

lemma isNumeral_of_mem_signText {negative : Bool} {c : Char} (h : c ∈ Double.signText negative) :
    IsNumeral c := by
  cases negative with
  | false => exact absurd h List.not_mem_nil
  | true =>
      rw [List.mem_singleton.1 h]
      exact Or.inr (Or.inr (Or.inl rfl))

lemma isNumeral_of_mem_replicate {k : Nat} {c : Char} (h : c ∈ List.replicate k '0') :
    IsNumeral c := by
  rw [List.eq_of_mem_replicate h]
  exact Or.inl rfl

lemma isNumeral_point : IsNumeral '.' := Or.inr (Or.inr (Or.inr (Or.inl rfl)))

lemma isNumeral_zero : IsNumeral '0' := Or.inl rfl

/-! ### Whole numbers -/

lemma intText_ne_nil (n : Int) : intText n ≠ [] :=
  List.append_ne_nil_of_right_ne_nil _ Nat.toDigits_ne_nil

lemma isNumeral_of_mem_intText {n : Int} {c : Char} (h : c ∈ intText n) : IsNumeral c := by
  rcases List.mem_append.1 h with h | h
  · exact isNumeral_of_mem_signText h
  · exact isNumeral_of_mem_toDigits h

lemma toDigits_injective : Function.Injective (Nat.toDigits 10) := by
  intro m n h
  calc m = Nat.ofDigitChars 10 (Nat.toDigits 10 m) 0 := Nat.ofDigitChars_ten_toDigits.symm
    _ = Nat.ofDigitChars 10 (Nat.toDigits 10 n) 0 := by rw [h]
    _ = n := Nat.ofDigitChars_ten_toDigits

/-- No numeral begins with the sign. -/
lemma toDigits_ne_minus (n : Nat) (cs : List Char) : Nat.toDigits 10 n ≠ '-' :: cs := by
  intro h
  have hdigit : ('-' : Char).isDigit = true :=
    Nat.isDigit_of_mem_toDigits (b := 10) (n := n) (by decide) (by decide) (by rw [h]; simp)
  exact absurd hdigit (by decide)

/-- The text of a whole number tells which one it is. -/
lemma intText_injective : Function.Injective intText := by
  intro m n h
  unfold intText at h
  -- the signs agree since no digit is one, and then the digits do
  by_cases hm : m < 0 <;> by_cases hn : n < 0 <;>
    simp only [hm, hn, decide_true, decide_false, Double.signText, List.nil_append,
      List.singleton_append, ↓reduceIte, Bool.false_eq_true] at h
  · have habs := toDigits_injective (List.cons.inj h).2
    omega
  · exact absurd h.symm (toDigits_ne_minus _ _)
  · exact absurd h (toDigits_ne_minus _ _)
  · have habs := toDigits_injective h
    omega

/-! ### Double-precision numbers -/

namespace Double

lemma isNumeral_of_mem_exponentText {e : Int} {c : Char} (h : c ∈ exponentText e) :
    IsNumeral c := by
  simp only [exponentText, List.mem_cons] at h
  rcases h with rfl | h | h
  · exact Or.inr (Or.inr (Or.inr (Or.inr rfl)))
  · split at h
    · exact Or.inr (Or.inr (Or.inl h))
    · exact Or.inr (Or.inl h)
  · split at h
    · rcases List.mem_cons.1 h with rfl | h
      · exact isNumeral_zero
      · exact isNumeral_of_mem_toDigits h
    · exact isNumeral_of_mem_toDigits h

/-- Digits keep being characters of a number when they get their point and their exponent. -/
lemma isNumeral_of_mem_layOut {digits : List Char} (hdigits : ∀ c ∈ digits, IsNumeral c) {e : Int}
    {c : Char} (h : c ∈ layOut digits e) : IsNumeral c := by
  unfold layOut at h
  split at h
  · -- without an exponent: zeros before the digits, behind them, or the point among them
    split at h
    · simp only [List.cons_append, List.mem_cons, List.mem_append] at h
      rcases h with rfl | rfl | h | h
      · exact isNumeral_zero
      · exact isNumeral_point
      · exact isNumeral_of_mem_replicate h
      · exact hdigits c h
    · dsimp only at h
      split at h
      · simp only [List.mem_append, List.mem_cons, List.not_mem_nil, or_false] at h
        rcases h with (h | h) | rfl | rfl
        · exact hdigits c h
        · exact isNumeral_of_mem_replicate h
        · exact isNumeral_point
        · exact isNumeral_zero
      · simp only [List.mem_append, List.mem_cons] at h
        rcases h with h | rfl | h
        · exact hdigits c (List.mem_of_mem_take h)
        · exact isNumeral_point
        · exact hdigits c (List.mem_of_mem_drop h)
  · -- with an exponent: the point behind the first digit, if there are more
    split at h
    · rcases List.mem_cons.1 h with rfl | h
      · exact hdigits c List.mem_cons_self
      · exact isNumeral_of_mem_exponentText h
    · next d more _ =>
        simp only [List.cons_append, List.mem_cons, List.mem_append] at h
        rcases h with rfl | rfl | h | h
        · exact hdigits c List.mem_cons_self
        · exact isNumeral_point
        · exact hdigits c (List.mem_cons_of_mem _ h)
        · exact isNumeral_of_mem_exponentText h
    · exact absurd h List.not_mem_nil

lemma layOut_ne_nil {digits : List Char} (hdigits : digits ≠ []) (e : Int) :
    layOut digits e ≠ [] := by
  unfold layOut
  split
  · split
    · simp
    · dsimp only
      split
      · simp [hdigits]
      · simp
  · split
    · simp
    · simp
    · exact hdigits

lemma isNumeral_of_mem_magnitudeText {mant : Nat} {exp : Int} {c : Char}
    (h : c ∈ magnitudeText mant exp) : IsNumeral c := by
  unfold magnitudeText at h
  split at h
  · simp only [List.mem_cons, List.not_mem_nil, or_false] at h
    rcases h with rfl | rfl | rfl
    · exact isNumeral_zero
    · exact isNumeral_point
    · exact isNumeral_zero
  · exact isNumeral_of_mem_layOut (fun c hc => isNumeral_of_mem_toDigits hc) h

lemma magnitudeText_ne_nil (mant : Nat) (exp : Int) : magnitudeText mant exp ≠ [] := by
  unfold magnitudeText
  split
  · simp
  · exact layOut_ne_nil Nat.toDigits_ne_nil _

end Double

/-! ### Numbers in a text -/

namespace Json

/-- The characters that end a value: a comma or a closing bracket. -/
def Closes (c : Char) : Prop :=
  c = ',' ∨ c = ']' ∨ c = '\x7d'

lemma not_closes_of_isNumeral {c : Char} (h : IsNumeral c) : ¬ Closes c := by
  rintro (rfl | rfl | rfl) <;> revert h <;> unfold IsNumeral <;> decide

/-- The text of a number begins with a character of a finite number, or with a capital letter where
it is not finite. -/
lemma exists_numberText_eq_cons (n : Number) :
    ∃ c cs, numberText n = c :: cs ∧ (IsNumeral c ∨ c = 'N' ∨ c = 'I') := by
  have hfinite : ∀ cs : List Char, cs ≠ [] → (∀ c ∈ cs, IsNumeral c) →
      ∃ c cs', cs = c :: cs' ∧ (IsNumeral c ∨ c = 'N' ∨ c = 'I') := by
    intro cs hne hcs
    obtain ⟨c, cs', rfl⟩ := List.exists_cons_of_ne_nil hne
    exact ⟨c, cs', rfl, Or.inl (hcs c List.mem_cons_self)⟩
  match n with
  | .int n => exact hfinite _ (intText_ne_nil n) fun c hc => isNumeral_of_mem_intText hc
  | .real .nan => exact ⟨'N', ['a', 'N'], rfl, Or.inr (Or.inl rfl)⟩
  | .real (.inf false) => exact ⟨'I', "nfinity".toList, rfl, Or.inr (Or.inr rfl)⟩
  | .real (.inf true) =>
      exact ⟨'-', "Infinity".toList, rfl, Or.inl (Or.inr (Or.inr (Or.inl rfl)))⟩
  | .real (.finite negative mant exp) =>
      refine hfinite _ (List.append_ne_nil_of_right_ne_nil _
        (Double.magnitudeText_ne_nil mant exp)) fun c hc => ?_
      rcases List.mem_append.1 hc with hc | hc
      · exact isNumeral_of_mem_signText hc
      · exact Double.isNumeral_of_mem_magnitudeText hc

/-- What holds of the characters of finite numbers and of the two words for the others holds of all
characters of numbers. -/
lemma forall_mem_numberText {P : Char → Prop} (hnumeral : ∀ c, IsNumeral c → P c)
    (hnan : ∀ c ∈ "NaN".toList, P c) (hinf : ∀ c ∈ "Infinity".toList, P c) (n : Number) :
    ∀ c ∈ numberText n, P c := by
  intro c h
  match n with
  | .int n => exact hnumeral c (isNumeral_of_mem_intText h)
  | .real .nan => exact hnan c h
  | .real (.inf false) => exact hinf c h
  | .real (.inf true) =>
      have hminus : P '-' := hnumeral '-' (Or.inr (Or.inr (Or.inl rfl)))
      exact List.forall_mem_cons.2 ⟨hminus, hinf⟩ c h
  | .real (.finite negative mant exp) =>
      rcases List.mem_append.1 h with h | h
      · exact hnumeral c (isNumeral_of_mem_signText h)
      · exact hnumeral c (Double.isNumeral_of_mem_magnitudeText h)

/-- The text of a number holds no character that ends a value. -/
lemma not_closes_of_mem_numberText {n : Number} {c : Char} (h : c ∈ numberText n) : ¬ Closes c :=
  forall_mem_numberText (fun _ => not_closes_of_isNumeral) (by simp [Closes]) (by simp [Closes])
    n c h

end Json

end Lineage
