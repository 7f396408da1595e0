/-
Values whose numbers are whole, and ways of writing data that lose nothing.

The compact text of such a value tells the value (`eq_of_compact_eq`).  A way of writing data as
values is faithful if it writes only such values, and no value for two things; then two things with
one compact text are the same.  Lists and absent values keep a way of writing faithful.
-/
import Mathlib.Data.List.Basic
import Lineage.Proofs.Json.Text

namespace Lineage.Json

/-! ### Values with whole numbers -/

mutual

/-- A value whose numbers are all whole. -/
def IsExact : Json → Prop
  | null => True
  | bool _ => True
  | num n => ∃ i, n = .int i
  | str _ => True
  | arr items => ExactItems items
  | obj fields => ExactFields fields

/-- The same of each item. -/
def ExactItems : List Json → Prop
  | [] => True
  | item :: items => IsExact item ∧ ExactItems items

/-- The same of the value of each field. -/
def ExactFields : List (String × Json) → Prop
  | [] => True
  | (_, item) :: fields => IsExact item ∧ ExactFields fields

end

mutual

lemma eq_of_alike {v w : Json} (hv : IsExact v) (hw : IsExact w) (h : Alike v w) : v = w := by
  cases v with
  | null => exact h.symm
  | bool b => exact h.symm
  | num m =>
      obtain ⟨n, rfl, htext⟩ := h
      obtain ⟨i, rfl⟩ := hv
      obtain ⟨j, rfl⟩ := hw
      rw [intText_injective htext]
  | str s => exact h.symm
  | arr xs =>
      obtain ⟨ys, rfl, hitems⟩ := h
      rw [eq_of_alikeItems hv hw hitems]
  | obj xs =>
      obtain ⟨ys, rfl, hfields⟩ := h
      rw [eq_of_alikeFields hv hw hfields]

lemma eq_of_alikeItems {xs ys : List Json} (hxs : ExactItems xs) (hys : ExactItems ys)
    (h : AlikeItems xs ys) : xs = ys := by
  cases xs with
  | nil => exact h.symm
  | cons x xs =>
      obtain ⟨y, ys, rfl, hxy, hrest⟩ := h
      rw [eq_of_alike hxs.1 hys.1 hxy, eq_of_alikeItems hxs.2 hys.2 hrest]

lemma eq_of_alikeFields {xs ys : List (String × Json)} (hxs : ExactFields xs)
    (hys : ExactFields ys) (h : AlikeFields xs ys) : xs = ys := by
  match xs with
  | [] => exact h.symm
  | (k, x) :: xs =>
      obtain ⟨y, ys, rfl, hxy, hrest⟩ := h
      rw [eq_of_alike hxs.1 hys.1 hxy, eq_of_alikeFields hxs.2 hys.2 hrest]

end

/-- **The compact text of a value with whole numbers tells the value.** -/
lemma eq_of_compact_eq {v w : Json} (hv : IsExact v) (hw : IsExact w)
    (h : v.compact = w.compact) : v = w :=
  eq_of_alike hv hw (alike_of_compact_eq h)

lemma exactItems_map {α : Type} {write : α → Json} (h : ∀ a, IsExact (write a)) (items : List α) :
    ExactItems (items.map write) := by
  induction items with
  | nil => trivial
  | cons a items ih => exact ⟨h a, ih⟩

/-! ### Faithful writing -/

/-- A way of writing data as values with whole numbers, none of them for two things. -/
structure Faithful {α : Type} (write : α → Json) : Prop where
  exact : ∀ a, IsExact (write a)
  injective : Function.Injective write

namespace Faithful

variable {α : Type} {write : α → Json}

lemma str : Faithful Json.str where
  exact _ := trivial
  injective _ _ h := by cases h; rfl

lemma int : Faithful Json.int where
  exact n := ⟨n, rfl⟩
  injective _ _ h := by cases h; rfl

lemma bool : Faithful Json.bool where
  exact _ := trivial
  injective _ _ h := by cases h; rfl

lemma list (h : Faithful write) : Faithful (Json.list write) where
  exact items := exactItems_map h.exact items
  injective xs ys heq := by
    have hmap : xs.map write = ys.map write := by simpa [Json.list] using heq
    exact List.map_injective_iff.2 h.injective hmap

/-- A value that may be absent is not confused with one that is there, unless that one is null. -/
lemma opt (h : Faithful write) (hnull : ∀ a, write a ≠ null) : Faithful (Json.opt write) where
  exact o := by
    cases o with
    | none => trivial
    | some a => exact h.exact a
  injective o o' heq := by
    cases o with
    | none =>
        cases o' with
        | none => rfl
        | some b => exact absurd heq.symm (hnull b)
    | some a =>
        cases o' with
        | none => exact absurd heq (hnull a)
        | some b => rw [h.injective heq]

lemma optStr : Faithful (Json.opt Json.str) := str.opt (by simp)

lemma optInt : Faithful (Json.opt Json.int) := int.opt (by simp [Json.int])

end Faithful

end Lineage.Json
