/-
The reader and its limit on the digits of whole numbers.

The numbers of a text are those that stand outside its strings (`numbers`).  A text that is read as
a value under some limit is read as that value under every limit that all its numbers keep; under
any other limit the reader gives up (`readWithin_of_denotes`).  So a limit decides only whether a
text is read, never as what.
-/
import Lineage.Json.Reader
import Lineage.Proofs.Text.Affix

namespace Lineage.Json

/-! ### What is left of a text -/

lemma length_lt_of_wholePart? {cs digits rest : List Char}
    (h : wholePart? cs = some (digits, rest)) : rest.length < cs.length := by
  unfold wholePart? at h
  split at h
  · cases h
    exact Nat.lt_succ_self _
  · dsimp only at h
    split at h
    · cases h
    · next hdigits =>
      cases h
      have hpos : 0 < (cs.takeWhile isDigit).length := by
        rw [List.length_pos_iff]
        simpa using hdigits
      calc (cs.dropWhile isDigit).length
          < (cs.takeWhile isDigit).length + (cs.dropWhile isDigit).length := by omega
        _ = cs.length := by rw [← List.length_append, List.takeWhile_append_dropWhile]

lemma length_fraction_le (cs : List Char) : (fraction cs).2.length ≤ cs.length := by
  unfold fraction
  split
  · dsimp only
    split
    · exact Nat.le_refl _
    · exact Nat.le_succ_of_le (List.dropWhile_suffix _).length_le
  · exact Nat.le_refl _

lemma length_le_of_exponent? {cs rest : List Char} {e : Int} (h : exponent? cs = some (e, rest)) :
    rest.length ≤ cs.length := by
  unfold exponent? at h
  split at h
  · cases h
  · split at h
    · split at h
      all_goals
        dsimp only at h
        split at h
        · cases h
        · cases h
          grind [List.dropWhile_suffix, List.IsSuffix.length_le]
    · cases h

lemma length_lt_of_unsigned? {negative : Bool} {cs rest : List Char} {n : Number}
    (h : unsigned? negative cs = some (n, rest)) : rest.length < cs.length := by
  simp only [unsigned?, Option.bind_eq_bind, Option.bind_eq_some_iff] at h
  obtain ⟨⟨whole, behind⟩, hwhole, h⟩ := h
  have hlt := length_lt_of_wholePart? hwhole
  have hle := length_fraction_le behind
  dsimp only at h
  split at h
  · cases h
    omega
  · cases h
    omega
  · next hexponent =>
    cases h
    have := length_le_of_exponent? hexponent
    omega

lemma length_lt_of_number? {cs rest : List Char} {n : Number} (h : number? cs = some (n, rest)) :
    rest.length < cs.length := by
  unfold number? at h
  split at h
  · exact Nat.lt_succ_of_lt (length_lt_of_unsigned? h)
  · exact length_lt_of_unsigned? h

lemma length_le_of_stringUnits {opening cs rest : List Char} {units : List Nat}
    (h : stringUnits opening cs = .ok (units, rest)) : rest.length ≤ cs.length := by
  fun_induction stringUnits opening cs generalizing units rest with
  | case1 | case3 | case4 | case5 | case7 | case8 | case10 => cases h
  | case2 cs =>
      cases h
      exact Nat.le_succ _
  | case6 a b c d unit cs _ _ ih | case9 c cs _ _ _ _ ih | case11 c cs _ _ _ _ _ _ ih =>
      cases hread : stringUnits opening cs with
      | error f =>
          rw [hread] at h
          cases h
      | ok found =>
          rw [hread] at h
          cases h
          have := ih hread
          simp only [List.length_cons]
          omega

/-! ### The numbers of a text -/

/-- The numbers of a text, in their order: all that stand outside its strings. -/
def numbers (cs : List Char) : List Number :=
  match cs with
  | [] => []
  | c :: rest =>
      if c = '"' then
        match _h : stringUnits (c :: rest) rest with
        | .ok (_, behind) => numbers behind
        | .error _ => []
      else
        match _h : number? (c :: rest) with
        | some (n, behind) => n :: numbers behind
        | none => numbers rest
termination_by cs.length
decreasing_by
  · exact Nat.lt_succ_of_le (length_le_of_stringUnits _h)
  · exact length_lt_of_number? _h
  · exact Nat.lt_succ_self _

@[simp] lemma numbers_nil : numbers [] = [] := by
  rw [numbers]

lemma numbers_of_string {cs rest : List Char} {s : String}
    (h : string ('"' :: cs) cs = .ok (s, rest)) : numbers ('"' :: cs) = numbers rest := by
  unfold string at h
  split at h
  · next units behind hunits =>
    cases h
    rw [numbers, if_pos rfl]
    split
    · next hok =>
      rw [hunits] at hok
      cases hok
      rfl
    · next herror =>
      rw [hunits] at herror
      cases herror
  · cases h

lemma number?_quote (cs : List Char) : number? ('"' :: cs) = none := rfl

lemma numbers_of_number? {cs rest : List Char} {n : Number} (h : number? cs = some (n, rest)) :
    numbers cs = n :: numbers rest := by
  cases cs with
  | nil => cases h
  | cons c cs =>
      have hquote : c ≠ '"' := by
        rintro rfl
        rw [number?_quote] at h
        cases h
      rw [numbers, if_neg hquote]
      split
      · next hsome =>
        rw [h] at hsome
        cases hsome
        rfl
      · next hnone =>
        rw [h] at hnone
        cases hnone

lemma numbers_cons {c : Char} {cs : List Char} (hquote : c ≠ '"')
    (hnumber : number? (c :: cs) = none) : numbers (c :: cs) = numbers cs := by
  rw [numbers, if_neg hquote]
  split
  · next hsome =>
    rw [hnumber] at hsome
    cases hsome
  · rfl

/-- Whether neither a string nor a number begins at a character. -/
def isIdle (c : Char) : Bool := c ≠ '"' && c ≠ '-' && !isDigit c

lemma wholePart?_cons_of_not_digit {c : Char} (h : isDigit c = false) (cs : List Char) :
    wholePart? (c :: cs) = none := by
  unfold wholePart?
  split
  · next heq =>
    cases heq
    cases h
  · simp [h]

lemma unsigned?_cons_of_not_digit {c : Char} (h : isDigit c = false) (negative : Bool)
    (cs : List Char) : unsigned? negative (c :: cs) = none := by
  rw [unsigned?, wholePart?_cons_of_not_digit h]
  rfl

lemma numbers_idle {c : Char} (h : isIdle c = true) (cs : List Char) :
    numbers (c :: cs) = numbers cs := by
  simp only [isIdle, Bool.and_eq_true, decide_eq_true_eq, Bool.not_eq_true'] at h
  obtain ⟨⟨hquote, hminus⟩, hdigit⟩ := h
  refine numbers_cons hquote ?_
  unfold number?
  split
  · next heq =>
    cases heq
    exact absurd rfl hminus
  · exact unsigned?_cons_of_not_digit hdigit false cs

lemma numbers_append_idle {word : List Char} (h : word.all isIdle = true) (cs : List Char) :
    numbers (word ++ cs) = numbers cs := by
  induction word with
  | nil => rfl
  | cons c word ih =>
      rw [List.all_cons, Bool.and_eq_true] at h
      rw [List.cons_append, numbers_idle h.1, ih h.2]

lemma numbers_skip (cs : List Char) : numbers (skip cs) = numbers cs := by
  have hblank : (cs.takeWhile isSeparator).all isIdle = true := by
    rw [List.all_eq_true]
    intro c hc
    have hsep := List.mem_takeWhile_imp hc
    simp only [isSeparator, Bool.or_eq_true, beq_iff_eq] at hsep
    rcases hsep with ((rfl | rfl) | rfl) | rfl <;> decide
  calc numbers (skip cs)
      = numbers (cs.takeWhile isSeparator ++ skip cs) := (numbers_append_idle hblank _).symm
    _ = numbers cs := by rw [skip, List.takeWhile_append_dropWhile]

lemma numbers_of_literal? {cs rest : List Char} {v : Json} (h : literal? cs = some (v, rest)) :
    numbers cs = numbers rest := by
  obtain ⟨⟨word, w⟩, hword, hfound⟩ := List.exists_of_findSome?_eq_some h
  obtain ⟨rest', hafter, hpair⟩ := Option.map_eq_some_iff.1 hfound
  cases hpair
  rw [Text.after?_eq_some_iff.1 hafter]
  simp only [literals, List.mem_cons, List.not_mem_nil, or_false, Prod.mk.injEq] at hword
  rcases hword with ⟨rfl, -⟩ | ⟨rfl, -⟩ | ⟨rfl, -⟩ | ⟨rfl, -⟩ | ⟨rfl, -⟩ | ⟨rfl, -⟩
  case inr.inr.inr.inr.inr =>
    -- the minus sign begins no number here, because no digit follows it
    have hminus : number? ('-' :: ("Infinity".toList ++ rest)) = none :=
      unsigned?_cons_of_not_digit rfl true _
    exact (numbers_cons (by decide) hminus).trans (numbers_append_idle (by decide) rest)
  all_goals exact numbers_append_idle (by decide) rest

/-! ### One text under all limits -/

/-- A reader of the beginning of a text whose limit decides only whether it reads.  What it takes
from a text has certain numbers; under every limit that they keep it takes the same, and under any
other it gives up. -/
def Limited {α : Type} (read : Nat → List Char → Except ReadError (α × List Char)) : Prop :=
  ∀ ⦃limit cs a rest⦄, read limit cs = .ok (a, rest) →
    ∃ taken, numbers cs = taken ++ numbers rest ∧
      ∀ other, read other cs =
        if taken.any (Number.exceeds other) then .error .overlong else .ok (a, rest)

lemma Limited.bind {α β : Type} {first : Nat → List Char → Except ReadError (α × List Char)}
    {next : α → Nat → List Char → Except ReadError (β × List Char)} (hfirst : Limited first)
    (hnext : ∀ a, Limited (next a)) :
    Limited fun limit cs => first limit cs >>= fun (a, rest) => next a limit rest := by
  intro limit cs b rest h
  cases hread : first limit cs with
  | error e =>
      simp only [hread] at h
      cases h
  | ok found =>
      obtain ⟨a, middle⟩ := found
      simp only [hread] at h
      obtain ⟨taken, htaken, hall⟩ := hfirst hread
      obtain ⟨more, hmore, hallMore⟩ := hnext a h
      refine ⟨taken ++ more, by rw [htaken, hmore, List.append_assoc], fun other => ?_⟩
      simp only [hall other, List.any_append]
      cases htoo : taken.any (Number.exceeds other) with
      | true => rfl
      | false => exact hallMore other

lemma limited_simple : Limited simple := by
  intro limit cs v rest h
  unfold simple at h
  split at h
  · next found hliteral =>
    cases h
    refine ⟨[], numbers_of_literal? hliteral, fun other => ?_⟩
    simp [simple, hliteral]
  · next hliteral =>
    split at h
    · next n behind hnumber =>
      split at h
      · cases h
      · cases h
        refine ⟨[n], numbers_of_number? hnumber, fun other => ?_⟩
        simp [simple, hliteral, hnumber]
    · cases h

lemma limited_ok {α : Type} (a : α) : Limited fun _ cs => .ok (a, cs) := by
  intro limit cs b rest h
  cases h
  exact ⟨[], rfl, fun _ => rfl⟩

lemma numbers_of_skip {c : Char} (hc : isIdle c = true) {cs rest : List Char}
    (h : skip cs = c :: rest) : numbers cs = numbers rest := by
  rw [← numbers_skip, h, numbers_idle hc]

section Marks

variable {α : Type} {close : Char}
  {first second : Nat → List Char → Except ReadError (α × List Char)}

/-- Separators in front make no difference. -/
lemma Limited.skip (h : Limited first) : Limited fun limit cs => first limit (skip cs) := by
  intro limit cs a rest hread
  obtain ⟨taken, htaken, hall⟩ := h hread
  exact ⟨taken, by rw [← numbers_skip, htaken], hall⟩

lemma Limited.afterOpening (hempty : Limited first) (hitems : Limited second)
    (hclose : isIdle close = true) :
    Limited fun limit cs => afterOpening close (first limit) (second limit) cs := by
  intro limit cs a rest h
  simp only [Json.afterOpening] at h ⊢
  split at h
  · next hskip =>
    rw [← numbers_skip, hskip]
    exact hitems h
  · next c behind hskip =>
    split at h
    · next heq =>
      rw [numbers_of_skip (heq ▸ hclose) hskip]
      simp only [if_pos heq]
      exact hempty h
    · next hne =>
      rw [← numbers_skip, hskip]
      simp only [if_neg hne]
      exact hitems h

lemma Limited.afterItem (hdone : Limited first) (hmore : Limited second)
    (hclose : isIdle close = true) :
    Limited fun limit cs => afterItem close (first limit) (second limit) cs := by
  intro limit cs a rest h
  simp only [Json.afterItem] at h ⊢
  split at h
  · cases h
  · next c behind hskip =>
    split at h
    · next heq =>
      rw [numbers_of_skip (heq ▸ hclose) hskip]
      simp only [if_pos heq]
      exact hdone h
    · next hne =>
      split at h
      · next hcomma =>
        rw [numbers_of_skip (hcomma ▸ by decide) hskip]
        simp only [if_neg hne, if_pos hcomma]
        exact hmore.skip h
      · cases h

lemma Limited.afterName (hitem : Limited first) :
    Limited fun limit cs => afterName (first limit) cs := by
  intro limit cs a rest h
  simp only [Json.afterName] at h ⊢
  split at h
  · cases h
  · next c behind hskip =>
    split at h
    · next hcolon =>
      rw [numbers_of_skip (hcolon ▸ by decide) hskip]
      simp only [if_pos hcolon]
      exact hitem.skip h
    · cases h

end Marks

/-- Behind a string, the limit decides only whether the rest is read. -/
lemma exists_taken_of_string {α : Type}
    {next : String → Nat → List Char → Except ReadError (α × List Char)}
    (hnext : ∀ s, Limited (next s)) (limit : Nat) {cs rest : List Char} {a : α}
    (h : (string ('"' :: cs) cs >>= fun (s, behind) => next s limit behind) = .ok (a, rest)) :
    ∃ taken, numbers ('"' :: cs) = taken ++ numbers rest ∧
      ∀ other, (string ('"' :: cs) cs >>= fun (s, behind) => next s other behind) =
        if taken.any (Number.exceeds other) then .error .overlong else .ok (a, rest) := by
  cases hread : string ('"' :: cs) cs with
  | error e =>
      rw [hread] at h
      cases h
  | ok found =>
      obtain ⟨s, behind⟩ := found
      rw [hread] at h
      rw [numbers_of_string hread]
      exact hnext s h

/-- The limit decides only whether a value, the items of an array or the fields of an object are
read. -/
lemma limited_value (fuel : Nat) :
    (Limited fun limit cs => value limit fuel cs) ∧
      (Limited fun limit cs => elements limit fuel cs) ∧
      ∀ fields, Limited fun limit cs => members limit fuel fields cs := by
  induction fuel with
  | zero => exact ⟨nofun, nofun, nofun⟩
  | succ fuel ih =>
      obtain ⟨ihValue, ihElements, ihMembers⟩ := ih
      refine ⟨?_, ?_, fun fields => ?_⟩
      · intro limit cs v rest h
        simp only [value] at h ⊢
        split at h
        · exact exists_taken_of_string (fun s => limited_ok (str s)) limit h
        · next inner =>
          rw [numbers_idle (by decide) inner]
          exact (limited_ok (obj [])).afterOpening
            ((ihMembers []).bind fun fields => limited_ok (obj fields)) (by decide) h
        · next inner =>
          rw [numbers_idle (by decide) inner]
          exact (limited_ok (arr [])).afterOpening
            (ihElements.bind fun items => limited_ok (arr items)) (by decide) h
        · exact limited_simple h
      · simp only [elements]
        exact ihValue.bind fun item => (limited_ok [item]).afterItem
          (ihElements.bind fun items => limited_ok (item :: items)) (by decide)
      · intro limit cs found rest h
        simp only [members] at h ⊢
        split at h
        · exact exists_taken_of_string (fun key => Limited.afterName <| ihValue.bind fun item =>
            (limited_ok (Assoc.insert key item fields)).afterItem
              (ihMembers (Assoc.insert key item fields)) (by decide)) limit h
        · cases h

lemma alone_eq_ok_iff {v w : Json} {rest : List Char} :
    alone v rest = .ok w ↔ skip rest = [] ∧ v = w := by
  unfold alone
  split
  · next hnil => simp [hnil]
  · next hrest => exact ⟨nofun, fun h => absurd h.1 hrest⟩

/-- The text is read as the value as soon as the limit is high enough. -/
def Denotes (text : List Char) (v : Json) : Prop := ∃ limit, readWithin limit text = .ok v

/-- **A limit decides whether a text is read, not as what.**  A text of a value is read as the value
under every limit that its numbers keep, and under any other limit the reader gives up. -/
lemma readWithin_of_denotes {text : List Char} {v : Json} (h : Denotes text v) (limit : Nat) :
    readWithin limit text =
      if (numbers text).any (Number.exceeds limit) then .error .overlong else .ok v := by
  obtain ⟨enough, h⟩ := h
  unfold readWithin at h ⊢
  split at h
  · cases h
  · cases hread : value enough (2 * text.length + 2) (skip text) with
    | error e =>
        rw [hread] at h
        cases h
    | ok found =>
        obtain ⟨w, rest⟩ := found
        rw [hread] at h
        have halone : alone w rest = .ok v := h
        obtain ⟨taken, htaken, hall⟩ := (limited_value _).1 hread
        -- nothing is left behind the value, so all numbers of the text are its own
        have hnumbers : numbers text = taken := by
          rw [← numbers_skip, htaken, ← numbers_skip rest, (alone_eq_ok_iff.1 halone).1,
            numbers_nil, List.append_nil]
        simp only [hall limit, hnumbers]
        cases taken.any (Number.exceeds limit) with
        | true => rfl
        | false => exact halone

lemma read_eq_overlong_iff {text : List Char} {v : Json} (h : Denotes text v) :
    read text = .error .overlong ↔ ∃ n ∈ numbers text, n.exceeds Number.digitLimit := by
  rw [read, readWithin_of_denotes h, ← List.any_eq_true]
  split <;> simp_all

lemma read_eq_ok_iff {text : List Char} {v : Json} (h : Denotes text v) :
    read text = .ok v ↔ ¬ ∃ n ∈ numbers text, n.exceeds Number.digitLimit := by
  rw [read, readWithin_of_denotes h, ← List.any_eq_true]
  split <;> simp_all

end Lineage.Json
