/-
The characters of JSON text.

Whatever a value holds, its text on one line is printable ASCII (`isAscii_inline`), since all other
characters of strings are written as escapes.
-/
import Lineage.Proofs.Json.Number
import Lineage.Proofs.Json.String

namespace Lineage.Json

/-- The printable characters of ASCII, the blank among them. -/
def IsAscii (c : Char) : Prop :=
  0x20 ≤ c.toNat ∧ c.toNat ≤ 0x7e

instance (c : Char) : Decidable (IsAscii c) :=
  inferInstanceAs (Decidable (_ ∧ _))

/-! ### Numbers and strings -/

lemma isAscii_of_isNumeral {c : Char} (h : IsNumeral c) : IsAscii c := by
  rcases h with h | rfl | rfl | rfl | rfl
  · have hdigit : 48 ≤ c.toNat ∧ c.toNat ≤ 57 := Char.isDigit_iff_toNat.1 h
    unfold IsAscii
    omega
  all_goals decide

lemma isAscii_numberText (n : Number) : ∀ c ∈ numberText n, IsAscii c :=
  forall_mem_numberText (fun _ => isAscii_of_isNumeral) (by simp [IsAscii]) (by simp [IsAscii]) n

lemma isAscii_unitEscape (n : Nat) : ∀ c ∈ unitEscape n, IsAscii c := by
  have hdigits : ∀ value < 16, IsAscii (Text.hexDigit value) := by decide
  intro c hc
  simp only [unitEscape, List.mem_cons] at hc
  rcases hc with rfl | rfl | hc
  · decide
  · decide
  · obtain ⟨value, hvalue, rfl⟩ := Text.exists_hexDigit_of_mem_hex hc
    exact hdigits value hvalue

lemma isAscii_of_escaped? {c e : Char} (h : escaped? e = some c) : IsAscii e := by
  unfold escaped? at h
  split at h
  case h_9 => cases h
  all_goals decide

lemma isAscii_escapeChar (c : Char) : ∀ d ∈ escapeChar c, IsAscii d := by
  rcases escapeChar_cases c with ⟨e, he, htext, -⟩ | ⟨-, -, hlow, hhigh, htext, -⟩ |
    ⟨n, -, htext, -⟩ | ⟨m, n, -, -, htext, -⟩
  · rw [htext]
    simpa using ⟨by decide, isAscii_of_escaped? he⟩
  · rw [htext]
    simpa using ⟨hlow, hhigh⟩
  · rw [htext]
    exact isAscii_unitEscape n
  · rw [htext]
    exact List.forall_mem_append.2 ⟨isAscii_unitEscape m, isAscii_unitEscape n⟩

lemma isAscii_stringText (s : String) : ∀ c ∈ stringText s, IsAscii c := by
  intro c hc
  simp only [stringText, List.cons_append, List.mem_cons, List.mem_append, List.mem_flatMap,
    List.not_mem_nil, or_false] at hc
  rcases hc with rfl | ⟨d, -, hc⟩ | rfl
  · decide
  · exact isAscii_escapeChar d c hc
  · decide

/-! ### Values -/

/-- What sets items apart is printable ASCII. -/
def Layout.IsAscii (l : Layout) : Prop :=
  (∀ c ∈ l.comma, Json.IsAscii c) ∧ ∀ c ∈ l.colon, Json.IsAscii c

lemma Layout.isAscii_spaced : Layout.spaced.IsAscii := by
  simp [Layout.IsAscii, Layout.spaced, Json.IsAscii]

mutual

/-- **The text of a value on one line is printable ASCII.** -/
lemma isAscii_inline {l : Layout} (hl : l.IsAscii) (v : Json) : ∀ c ∈ inline l v, IsAscii c := by
  cases v with
  | null => simp [inline, IsAscii]
  | bool b => cases b <;> simp [inline, IsAscii]
  | num n => exact isAscii_numberText n
  | str s => exact isAscii_stringText s
  | arr items =>
      have hitems := isAscii_inlineItems hl items
      simp only [inline, List.cons_append, List.forall_mem_cons, List.forall_mem_append]
      exact ⟨by decide, hitems, by decide, by simp⟩
  | obj fields =>
      have hfields := isAscii_inlineFields hl fields
      simp only [inline, List.cons_append, List.forall_mem_cons, List.forall_mem_append]
      exact ⟨by decide, hfields, by decide, by simp⟩

lemma isAscii_inlineItems {l : Layout} (hl : l.IsAscii) (items : List Json) :
    ∀ c ∈ inlineItems l items, IsAscii c := by
  match items with
  | [] => simp [inlineItems]
  | [item] =>
      rw [inlineItems]
      exact isAscii_inline hl item
  | item :: next :: items =>
      have hitem := isAscii_inline hl item
      have hitems := isAscii_inlineItems hl (next :: items)
      rw [inlineItems, List.forall_mem_append, List.forall_mem_append]
      · exact ⟨⟨hitem, hl.1⟩, hitems⟩
      · simp

lemma isAscii_inlineFields {l : Layout} (hl : l.IsAscii) (fields : List (String × Json)) :
    ∀ c ∈ inlineFields l fields, IsAscii c := by
  match fields with
  | [] => simp [inlineFields]
  | [(key, item)] =>
      have hitem := isAscii_inline hl item
      rw [inlineFields, List.forall_mem_append, List.forall_mem_append]
      exact ⟨⟨isAscii_stringText key, hl.2⟩, hitem⟩
  | (key, item) :: next :: fields =>
      have hitem := isAscii_inline hl item
      have hfields := isAscii_inlineFields hl (next :: fields)
      rw [inlineFields]
      · simp only [List.forall_mem_append]
        exact ⟨⟨⟨⟨isAscii_stringText key, hl.2⟩, hitem⟩, hl.1⟩, hfields⟩
      · simp

end

end Lineage.Json
