/-
The compact text of a value, and what it tells.

No text belongs to two values that differ in more than how their numbers are held: the first
character of a text shows the kind of the value, brackets, quotes and commas show how far each part
reaches, and a number reaches to the next character that ends a value.  `Alike` is the relation
between values with one text (`alike_of_compact_eq`).  Where all numbers are whole, it is equality
(`eq_of_compact_eq`).
-/
import Lineage.Proofs.Json.Number
import Lineage.Proofs.Json.String

namespace Lineage.Json

/-! ### Values with one text -/

mutual

/-- Values that differ at most in numbers with the same text. -/
def Alike : Json → Json → Prop
  | null, w => w = null
  | bool b, w => w = bool b
  | num m, w => ∃ n, w = num n ∧ numberText m = numberText n
  | str s, w => w = str s
  | arr xs, w => ∃ ys, w = arr ys ∧ AlikeItems xs ys
  | obj xs, w => ∃ ys, w = obj ys ∧ AlikeFields xs ys

/-- The same, item by item. -/
def AlikeItems : List Json → List Json → Prop
  | [], ys => ys = []
  | x :: xs, l => ∃ y ys, l = y :: ys ∧ Alike x y ∧ AlikeItems xs ys

/-- The same, field by field, under the same names. -/
def AlikeFields : List (String × Json) → List (String × Json) → Prop
  | [], ys => ys = []
  | (k, x) :: xs, l => ∃ y ys, l = (k, y) :: ys ∧ Alike x y ∧ AlikeFields xs ys

end

/-- What the first character of a text tells of the value. -/
inductive Kind where
  | null
  | truth (b : Bool)
  | number
  | string
  | array
  | object
deriving DecidableEq, Repr

/-- The kind that a first character shows. -/
def Kind.ofChar (c : Char) : Kind :=
  if c = 'n' then .null
  else if c = 't' then .truth true
  else if c = 'f' then .truth false
  else if c = '"' then .string
  else if c = '[' then .array
  else if c = '\x7b' then .object
  else .number

/-- The kind of a value. -/
def kind : Json → Kind
  | null => .null
  | bool b => .truth b
  | num _ => .number
  | str _ => .string
  | arr _ => .array
  | obj _ => .object

lemma ofChar_of_isNumeral {c : Char} (h : IsNumeral c ∨ c = 'N' ∨ c = 'I') :
    Kind.ofChar c = .number := by
  have hne : ∀ d ∈ ['n', 't', 'f', '"', '[', '\x7b'], c ≠ d := by
    intro d hd hcd
    subst hcd
    revert h hd
    unfold IsNumeral
    simp only [List.mem_cons, List.not_mem_nil, or_false]
    rintro h (rfl | rfl | rfl | rfl | rfl | rfl) <;> revert h <;> decide
  simp only [List.mem_cons, List.not_mem_nil, or_false, forall_eq_or_imp, forall_eq] at hne
  obtain ⟨h₁, h₂, h₃, h₄, h₅, h₆⟩ := hne
  simp [Kind.ofChar, h₁, h₂, h₃, h₄, h₅, h₆]

lemma not_closes_of_ofChar {c : Char} (h : Kind.ofChar c ≠ .number) : ¬ Closes c := by
  rintro (rfl | rfl | rfl) <;> exact h (by decide)

/-- The first character of a text shows the kind of the value, and it does not end a value. -/
lemma exists_inline_eq_cons (l : Layout) (v : Json) :
    ∃ c cs, inline l v = c :: cs ∧ Kind.ofChar c = kind v ∧ ¬ Closes c := by
  have hmark : ∀ c cs, inline l v = c :: cs → Kind.ofChar c = kind v → kind v ≠ .number →
      ∃ c cs, inline l v = c :: cs ∧ Kind.ofChar c = kind v ∧ ¬ Closes c :=
    fun c cs htext hkind hne =>
      ⟨c, cs, htext, hkind, not_closes_of_ofChar (by rw [hkind]; exact hne)⟩
  cases v with
  | null => exact hmark 'n' "ull".toList rfl rfl (by simp [kind])
  | bool b =>
      cases b with
      | true => exact hmark 't' "rue".toList rfl rfl (by simp [kind])
      | false => exact hmark 'f' "alse".toList rfl rfl (by simp [kind])
  | num n =>
      obtain ⟨c, cs, htext, hc⟩ := exists_numberText_eq_cons n
      have hmem : c ∈ numberText n := by rw [htext]; exact List.mem_cons_self
      exact ⟨c, cs, htext, ofChar_of_isNumeral hc, not_closes_of_mem_numberText hmem⟩
  | str s => exact hmark '"' _ rfl rfl (by simp [kind])
  | arr items => exact hmark '[' _ rfl rfl (by simp [kind])
  | obj fields => exact hmark '\x7b' _ rfl rfl (by simp [kind])

lemma kind_eq_of_inline {l : Layout} {v w : Json} {r r' : List Char}
    (h : inline l v ++ r = inline l w ++ r') : kind v = kind w := by
  obtain ⟨c, cs, hv, hcv, -⟩ := exists_inline_eq_cons l v
  obtain ⟨d, ds, hw, hdw, -⟩ := exists_inline_eq_cons l w
  rw [hv, hw, List.cons_append, List.cons_append] at h
  rw [← hcv, ← hdw, (List.cons.inj h).1]

/-! ### Where a value ends -/

/-- Whether a value may end before the text: it is empty or begins with a character that ends a
value. -/
def Ends (r : List Char) : Prop :=
  ∀ c ∈ r.head?, Closes c

lemma ends_nil : Ends [] := by simp [Ends]

lemma ends_cons {c : Char} (h : Closes c) (r : List Char) : Ends (c :: r) := by
  simpa [Ends] using h

/-- A word without characters that end a value reaches exactly as far as the next of them. -/
lemma append_inj_of_ends {xs ys r r' : List Char} (hxs : ∀ c ∈ xs, ¬ Closes c)
    (hys : ∀ c ∈ ys, ¬ Closes c) (hr : Ends r) (hr' : Ends r') (h : xs ++ r = ys ++ r') :
    xs = ys ∧ r = r' := by
  induction xs generalizing ys with
  | nil =>
      cases ys with
      | nil => exact ⟨rfl, h⟩
      | cons y ys =>
          rw [List.nil_append, List.cons_append] at h
          exact absurd (hr y (by rw [h]; rfl)) (hys y List.mem_cons_self)
  | cons x xs ih =>
      cases ys with
      | nil =>
          rw [List.nil_append, List.cons_append] at h
          exact absurd (hr' x (by rw [← h]; rfl)) (hxs x List.mem_cons_self)
      | cons y ys =>
          rw [List.cons_append, List.cons_append, List.cons.injEq] at h
          obtain ⟨rfl, h⟩ := h
          obtain ⟨rfl, hrest⟩ := ih (fun c hc => hxs c (List.mem_cons_of_mem _ hc))
            (fun c hc => hys c (List.mem_cons_of_mem _ hc)) h
          exact ⟨rfl, hrest⟩

/-! ### A text has one value -/

lemma inline_arr_append (l : Layout) (items : List Json) (r : List Char) :
    inline l (arr items) ++ r = '[' :: (inlineItems l items ++ ']' :: r) := by
  show '[' :: inlineItems l items ++ [']'] ++ r = _
  simp

lemma inline_obj_append (l : Layout) (fields : List (String × Json)) (r : List Char) :
    inline l (obj fields) ++ r = '\x7b' :: (inlineFields l fields ++ '\x7d' :: r) := by
  show '\x7b' :: inlineFields l fields ++ ['\x7d'] ++ r = _
  simp

/-- What follows the first item of an array in its compact text. -/
def itemsTail : List Json → List Char
  | [] => []
  | item :: items => ',' :: inlineItems .compact (item :: items)

/-- What follows the first field of an object in its compact text. -/
def fieldsTail : List (String × Json) → List Char
  | [] => []
  | field :: fields => ',' :: inlineFields .compact (field :: fields)

lemma inlineItems_cons (item : Json) (items : List Json) :
    inlineItems .compact (item :: items) = inline .compact item ++ itemsTail items := by
  cases items with
  | nil => simp [inlineItems, itemsTail]
  | cons next items => simp [inlineItems, itemsTail, Layout.compact]

lemma inlineFields_cons (key : String) (item : Json) (fields : List (String × Json)) :
    inlineFields .compact ((key, item) :: fields) =
      stringText key ++ ':' :: (inline .compact item ++ fieldsTail fields) := by
  cases fields with
  | nil => simp [inlineFields, fieldsTail, Layout.compact]
  | cons next fields => simp [inlineFields, fieldsTail, Layout.compact]

lemma ends_itemsTail (items : List Json) (r : List Char) : Ends (itemsTail items ++ ']' :: r) := by
  cases items with
  | nil => exact ends_cons (Or.inr (Or.inl rfl)) r
  | cons item items => exact ends_cons (Or.inl rfl) _

lemma ends_fieldsTail (fields : List (String × Json)) (r : List Char) :
    Ends (fieldsTail fields ++ '\x7d' :: r) := by
  cases fields with
  | nil => exact ends_cons (Or.inr (Or.inr rfl)) r
  | cons field fields => exact ends_cons (Or.inl rfl) _

/-- No array with items has the text of the empty one. -/
lemma inlineItems_cons_ne (item : Json) (items : List Json) (r r' : List Char) :
    inlineItems .compact (item :: items) ++ r ≠ ']' :: r' := by
  obtain ⟨c, cs, htext, -, hc⟩ := exists_inline_eq_cons .compact item
  rw [inlineItems_cons, htext]
  intro h
  exact hc (Or.inr (Or.inl (List.cons.inj h).1))

lemma inlineFields_cons_ne (field : String × Json) (fields : List (String × Json))
    (r r' : List Char) : inlineFields .compact (field :: fields) ++ r ≠ '\x7d' :: r' := by
  obtain ⟨key, item⟩ := field
  rw [inlineFields_cons]
  intro h
  exact absurd (List.cons.inj h).1 (by decide)

mutual

/-- A text that goes on with the end of a value shows where the value ends and, up to its numbers,
which value it is. -/
lemma alike_of_inline_append (v w : Json) {r r' : List Char} (hr : Ends r) (hr' : Ends r')
    (h : inline .compact v ++ r = inline .compact w ++ r') : Alike v w ∧ r = r' := by
  -- the first character tells the kind, so only the pairs of one kind are left to look at
  have hkind := kind_eq_of_inline h
  cases v with
  | null =>
      cases w with
      | null => exact ⟨rfl, List.append_cancel_left h⟩
      | _ => cases hkind
  | bool b =>
      cases w with
      | bool c =>
          cases hkind
          exact ⟨rfl, List.append_cancel_left h⟩
      | _ => cases hkind
  | num m =>
      cases w with
      | num n =>
          obtain ⟨htext, hrest⟩ := append_inj_of_ends (fun c => not_closes_of_mem_numberText)
            (fun c => not_closes_of_mem_numberText) hr hr' h
          exact ⟨⟨n, rfl, htext⟩, hrest⟩
      | _ => cases hkind
  | str s =>
      cases w with
      | str t =>
          obtain ⟨rfl, hrest⟩ := stringText_append_inj h
          exact ⟨rfl, hrest⟩
      | _ => cases hkind
  | arr xs =>
      cases w with
      | arr ys =>
          rw [inline_arr_append, inline_arr_append, List.cons.injEq] at h
          obtain ⟨hitems, hrest⟩ := alike_of_inlineItems_append xs ys h.2
          exact ⟨⟨ys, rfl, hitems⟩, hrest⟩
      | _ => cases hkind
  | obj xs =>
      cases w with
      | obj ys =>
          rw [inline_obj_append, inline_obj_append, List.cons.injEq] at h
          obtain ⟨hfields, hrest⟩ := alike_of_inlineFields_append xs ys h.2
          exact ⟨⟨ys, rfl, hfields⟩, hrest⟩
      | _ => cases hkind

/-- The items of an array, up to its closing bracket. -/
lemma alike_of_inlineItems_append (xs ys : List Json) {r r' : List Char}
    (h : inlineItems .compact xs ++ ']' :: r = inlineItems .compact ys ++ ']' :: r') :
    AlikeItems xs ys ∧ r = r' := by
  match xs, ys with
  | [], [] => exact ⟨rfl, (List.cons.inj h).2⟩
  | [], y :: ys => exact absurd h.symm (inlineItems_cons_ne y ys _ _)
  | x :: xs, [] => exact absurd h (inlineItems_cons_ne x xs _ _)
  | x :: xs, y :: ys =>
      rw [inlineItems_cons, inlineItems_cons, List.append_assoc, List.append_assoc] at h
      obtain ⟨hxy, hrest⟩ :=
        alike_of_inline_append x y (ends_itemsTail xs r) (ends_itemsTail ys r') h
      -- what follows the first item begins with a comma or with the bracket, on both sides alike
      match xs, ys with
      | [], [] => exact ⟨⟨y, [], rfl, hxy, rfl⟩, (List.cons.inj hrest).2⟩
      | [], y' :: ys => exact absurd (List.cons.inj hrest).1 (by decide)
      | x' :: xs, [] => exact absurd (List.cons.inj hrest).1 (by decide)
      | x' :: xs, y' :: ys =>
          obtain ⟨hitems, hr⟩ :=
            alike_of_inlineItems_append (x' :: xs) (y' :: ys) (List.cons.inj hrest).2
          exact ⟨⟨y, y' :: ys, rfl, hxy, hitems⟩, hr⟩

/-- The fields of an object, up to its closing brace. -/
lemma alike_of_inlineFields_append (xs ys : List (String × Json)) {r r' : List Char}
    (h : inlineFields .compact xs ++ '\x7d' :: r = inlineFields .compact ys ++ '\x7d' :: r') :
    AlikeFields xs ys ∧ r = r' := by
  match xs, ys with
  | [], [] => exact ⟨rfl, (List.cons.inj h).2⟩
  | [], y :: ys => exact absurd h.symm (inlineFields_cons_ne y ys _ _)
  | x :: xs, [] => exact absurd h (inlineFields_cons_ne x xs _ _)
  | (k, x) :: xs, (l, y) :: ys =>
      rw [inlineFields_cons, inlineFields_cons, List.append_assoc, List.append_assoc] at h
      obtain ⟨rfl, hvalue⟩ := stringText_append_inj h
      rw [List.cons_append, List.cons_append, List.append_assoc, List.append_assoc,
        List.cons.injEq] at hvalue
      obtain ⟨hxy, hrest⟩ :=
        alike_of_inline_append x y (ends_fieldsTail xs r) (ends_fieldsTail ys r') hvalue.2
      -- as for items, with the brace
      match xs, ys with
      | [], [] => exact ⟨⟨y, [], rfl, hxy, rfl⟩, (List.cons.inj hrest).2⟩
      | [], y' :: ys => exact absurd (List.cons.inj hrest).1 (by decide)
      | x' :: xs, [] => exact absurd (List.cons.inj hrest).1 (by decide)
      | x' :: xs, y' :: ys =>
          obtain ⟨hfields, hr⟩ :=
            alike_of_inlineFields_append (x' :: xs) (y' :: ys) (List.cons.inj hrest).2
          exact ⟨⟨y, y' :: ys, rfl, hxy, hfields⟩, hr⟩

end

/-- **A compact text has one value**, up to how its numbers are held. -/
lemma alike_of_compact_eq {v w : Json} (h : v.compact = w.compact) : Alike v w := by
  have htext : inline .compact v ++ [] = inline .compact w ++ [] := by
    rw [List.append_nil, List.append_nil]
    simpa [compact] using congrArg String.toList h
  exact (alike_of_inline_append v w ends_nil ends_nil htext).1

end Lineage.Json
