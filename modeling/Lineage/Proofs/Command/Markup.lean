/-
Escaping markup.

Escaping puts backslashes before the brackets that open a tag, and leaves a text without tags as it
is, but for a backslash at its end (`escape_eq_self_iff`).  It moves no bracket and no run of
backslashes at the end, so the console finds the tags where they were, takes the backslashes away
again and shows the text (`plain_escape`).
-/
import Mathlib.Data.List.TakeWhile
import Mathlib.Tactic.Lemma
import Lineage.Command.Report

namespace Lineage.Command

/-! ### Tags -/

/-- The text has a tag: an opening bracket, a character that markup may begin with, and a closing
bracket before any other bracket. -/
def HasTag (cs : List Char) : Prop :=
  ∃ front c inner back, cs = front ++ '[' :: c :: (inner ++ ']' :: back) ∧ opensTag c = true ∧
    '[' ∉ inner ∧ ']' ∉ inner

/-- The first bracket of a text. -/
def firstBracket (cs : List Char) : Option Char :=
  cs.find? fun c => c = ']' ∨ c = '['

lemma firstBracket_eq_close_iff {cs : List Char} :
    firstBracket cs = some ']' ↔
      ∃ inner back, cs = inner ++ ']' :: back ∧ '[' ∉ inner ∧ ']' ∉ inner := by
  rw [firstBracket, List.find?_eq_some_iff_append]
  constructor
  · rintro ⟨-, inner, back, hsplit, hinner⟩
    refine ⟨inner, back, hsplit, fun h => ?_, fun h => ?_⟩
    · simpa using hinner '[' h
    · simpa using hinner ']' h
  · rintro ⟨inner, back, hsplit, hopen, hclose⟩
    refine ⟨by decide, inner, back, hsplit, fun c hc => ?_⟩
    have hne : c ≠ ']' ∧ c ≠ '[' :=
      ⟨fun h => hclose (h ▸ hc), fun h => hopen (h ▸ hc)⟩
    simpa using hne

lemma isTag_cons (c : Char) (cs : List Char) :
    isTag (c :: cs) = (opensTag c && firstBracket cs == some ']') := by
  rw [isTag, firstBracket, ← List.find?_not_eq_head?_dropWhile]
  congr 3
  funext c
  simp

lemma isTag_iff {cs : List Char} :
    isTag cs = true ↔ ∃ c inner back, cs = c :: (inner ++ ']' :: back) ∧ opensTag c = true ∧
      '[' ∉ inner ∧ ']' ∉ inner := by
  cases cs with
  | nil => simp [isTag]
  | cons c cs =>
      rw [isTag_cons, Bool.and_eq_true, beq_iff_eq, firstBracket_eq_close_iff]
      grind

lemma not_hasTag_nil : ¬HasTag [] := by
  rintro ⟨front, c, inner, back, h, -⟩
  simp at h

lemma hasTag_cons_iff {c : Char} {cs : List Char} :
    HasTag (c :: cs) ↔ (c = '[' ∧ isTag cs = true) ∨ HasTag cs := by
  rw [isTag_iff]
  constructor
  · rintro ⟨front, d, inner, back, hsplit, hrest⟩
    cases front with
    | nil =>
        obtain ⟨rfl, rfl⟩ := List.cons.inj hsplit
        exact Or.inl ⟨rfl, d, inner, back, rfl, hrest⟩
    | cons e front =>
        obtain ⟨rfl, rfl⟩ := List.cons.inj hsplit
        exact Or.inr ⟨front, d, inner, back, rfl, hrest⟩
  · rintro (⟨rfl, d, inner, back, rfl, hrest⟩ | ⟨front, d, inner, back, rfl, hrest⟩)
    · exact ⟨[], d, inner, back, rfl, hrest⟩
    · exact ⟨c :: front, d, inner, back, rfl, hrest⟩

/-! ### What escaping changes -/

lemma le_length_escapeFrom (pending : Nat) (cs : List Char) :
    pending + cs.length ≤ (escapeFrom pending cs).length := by
  fun_induction escapeFrom pending cs with
  | case1 => simp
  | case2 pending rest ih =>
      rw [List.length_cons]
      omega
  | case3 pending c rest _ _ ih =>
      simp only [List.length_cons, List.length_append, List.length_replicate]
      omega
  | case4 pending c rest _ _ ih =>
      simp only [List.length_cons, List.length_append, List.length_replicate]
      omega

/-- Each tag takes at least one backslash more. -/
lemma lt_length_escapeFrom {pending : Nat} {cs : List Char} (h : HasTag cs) :
    pending + cs.length < (escapeFrom pending cs).length := by
  fun_induction escapeFrom pending cs with
  | case1 => exact absurd h not_hasTag_nil
  | case2 pending rest ih =>
      have hrest : HasTag rest := (hasTag_cons_iff.1 h).resolve_left fun h => absurd h.1 (by decide)
      have hlength := ih hrest
      rw [List.length_cons]
      omega
  | case3 pending c rest _ _ ih =>
      have hlength := le_length_escapeFrom 0 rest
      simp only [List.length_cons, List.length_append, List.length_replicate]
      omega
  | case4 pending c rest _ hno ih =>
      have hrest : HasTag rest := (hasTag_cons_iff.1 h).resolve_left fun h => hno (by simpa using h)
      have hlength := ih hrest
      simp only [List.length_cons, List.length_append, List.length_replicate]
      omega

lemma escapeFrom_of_not_hasTag {pending : Nat} {cs : List Char} (h : ¬HasTag cs) :
    escapeFrom pending cs = List.replicate pending '\\' ++ cs := by
  fun_induction escapeFrom pending cs with
  | case1 => simp
  | case2 pending rest ih =>
      rw [ih fun hrest => h (hasTag_cons_iff.2 (Or.inr hrest)), List.replicate_succ',
        List.append_assoc, List.singleton_append]
  | case3 pending c rest _ htag =>
      exact absurd (hasTag_cons_iff.2 (Or.inl (by simpa using htag))) h
  | case4 pending c rest _ _ ih =>
      rw [ih fun hrest => h (hasTag_cons_iff.2 (Or.inr hrest)), List.replicate_zero,
        List.nil_append]

/-- Escaping leaves a text as it is exactly if the text has no tag and does not end in exactly one
backslash. -/
lemma escape_eq_self_iff {s : String} :
    escape s = s ↔ ¬HasTag s.toList ∧ endsInOneBackslash s.toList = false := by
  rw [escape, ← String.toList_inj, String.toList_ofList, escapeChars]
  by_cases htag : HasTag s.toList
  · have hlength : 0 + s.toList.length < (escapeFrom 0 s.toList).length :=
      lt_length_escapeFrom htag
    refine iff_of_false (fun heq => ?_) fun h => h.1 htag
    replace heq := congrArg List.length heq
    split at heq
    · rw [List.length_append, List.length_singleton] at heq
      omega
    · omega
  · rw [escapeFrom_of_not_hasTag htag]
    simp [htag]

/-- A text without opening brackets and backslashes needs no escape. -/
lemma escape_eq_self_of_notMem {s : String} (hopen : '[' ∉ s.toList) (hslash : '\\' ∉ s.toList) :
    escape s = s := by
  refine escape_eq_self_iff.2 ⟨?_, ?_⟩
  · rintro ⟨front, c, inner, back, hsplit, -⟩
    exact hopen (hsplit ▸ List.mem_append_right front List.mem_cons_self)
  · rw [← List.mem_reverse] at hslash
    rw [endsInOneBackslash]
    cases hlast : s.toList.reverse with
    | nil => rfl
    | cons c cs =>
        have hc : c ≠ '\\' := fun h => hslash (by simp [hlast, h])
        simp [hc]

/-! ### What the console shows -/

lemma firstBracket_cons (c : Char) (cs : List Char) :
    firstBracket (c :: cs) = if c = ']' ∨ c = '[' then some c else firstBracket cs := by
  by_cases h : c = ']' ∨ c = '[' <;> simp [firstBracket, h]

lemma firstBracket_replicate_append (n : Nat) (cs : List Char) :
    firstBracket (List.replicate n '\\' ++ cs) = firstBracket cs := by
  simp [firstBracket, List.find?_append]

lemma firstBracket_append_backslash (cs : List Char) :
    firstBracket (cs ++ ['\\']) = firstBracket cs := by
  simp [firstBracket, List.find?_append]

lemma firstBracket_escapeFrom (pending : Nat) (cs : List Char) :
    firstBracket (escapeFrom pending cs) = firstBracket cs := by
  fun_induction escapeFrom pending cs with
  | case1 => simp [firstBracket]
  | case2 pending rest ih =>
      rw [ih]
      rfl
  | case3 pending c rest _ htag ih =>
      obtain ⟨rfl, -⟩ : c = '[' ∧ isTag rest = true := by simpa using htag
      rw [firstBracket_replicate_append]
      rfl
  | case4 pending c rest _ _ ih =>
      rw [firstBracket_replicate_append, firstBracket_cons, firstBracket_cons, ih]

lemma exists_escapeFrom_eq (pending : Nat) (cs : List Char) :
    ∃ rest, escapeFrom pending cs = List.replicate pending '\\' ++ rest := by
  fun_induction escapeFrom pending cs with
  | case1 pending => exact ⟨[], (List.append_nil _).symm⟩
  | case2 pending rest ih =>
      obtain ⟨escaped, hescaped⟩ := ih
      rw [hescaped, List.replicate_succ', List.append_assoc]
      exact ⟨_, rfl⟩
  | case3 pending c rest _ _ _ =>
      rw [show 2 * pending + 1 = pending + (pending + 1) by omega,
        ← List.replicate_append_replicate, List.append_assoc]
      exact ⟨_, rfl⟩
  | case4 pending c rest _ _ _ => exact ⟨_, rfl⟩

/-- Escaping keeps what follows a bracket a tag, or no tag. -/
lemma isTag_escapeFrom (cs : List Char) : isTag (escapeFrom 0 cs) = isTag cs := by
  cases cs with
  | nil => rfl
  | cons c cs =>
      rw [escapeFrom]
      split
      · next hc =>
          obtain ⟨rest, hrest⟩ := exists_escapeFrom_eq 1 cs
          rw [Nat.zero_add, hrest, hc]
          rfl
      · split
        · next htag =>
            obtain ⟨rfl, -⟩ : c = '[' ∧ isTag cs = true := by simpa using htag
            rfl
        · rw [List.replicate_zero, List.nil_append, isTag_cons, isTag_cons,
            firstBracket_escapeFrom]

lemma isTag_append_backslash (cs : List Char) : isTag (cs ++ ['\\']) = isTag cs := by
  cases cs with
  | nil => rfl
  | cons c cs => rw [List.cons_append, isTag_cons, isTag_cons, firstBracket_append_backslash]

lemma escapeFrom_append_backslash (pending : Nat) (cs : List Char) :
    escapeFrom pending (cs ++ ['\\']) = escapeFrom pending cs ++ ['\\'] := by
  fun_induction escapeFrom pending cs with
  | case1 pending => simp [escapeFrom, List.replicate_succ']
  | case2 pending rest ih =>
      rw [List.cons_append, escapeFrom, if_pos rfl, ih]
  | case3 pending c rest hc htag ih =>
      rw [List.cons_append, escapeFrom, if_neg hc, isTag_append_backslash, if_pos htag, ih]
      simp
  | case4 pending c rest hc hno ih =>
      rw [List.cons_append, escapeFrom, if_neg hc, isTag_append_backslash, if_neg hno, ih]
      simp

lemma plainFrom_replicate_append (n pending : Nat) (cs : List Char) :
    plainFrom pending false (List.replicate n '\\' ++ cs) = plainFrom (pending + n) false cs := by
  induction n generalizing pending with
  | zero => rfl
  | succ n ih =>
      rw [List.replicate_succ, List.cons_append, plainFrom, if_neg (by decide), if_pos rfl, ih,
        Nat.add_right_comm, Nat.add_assoc]

/-- The console takes away the backslashes that escaping added, and no others. -/
lemma plainFrom_escapeFrom (pending : Nat) (cs : List Char) :
    plainFrom 0 false (escapeFrom pending cs) = List.replicate pending '\\' ++ cs := by
  fun_induction escapeFrom pending cs with
  | case1 pending =>
      rw [← List.append_nil (List.replicate pending '\\'), plainFrom_replicate_append, plainFrom]
      simp
  | case2 pending rest ih =>
      rw [ih, List.replicate_succ', List.append_assoc, List.singleton_append]
  | case3 pending c rest _ htag ih =>
      obtain ⟨rfl, htag⟩ : c = '[' ∧ isTag rest = true := by simpa using htag
      have hodd : (2 * pending + 1) / 2 = pending ∧ (2 * pending + 1) % 2 = 1 := by omega
      rw [plainFrom_replicate_append, Nat.zero_add, plainFrom, if_neg (by decide),
        if_neg (by decide), isTag_escapeFrom, htag, if_pos rfl, hodd.1, hodd.2, if_pos rfl, ih]
      rfl
  | case4 pending c rest hc hno ih =>
      rw [plainFrom_replicate_append, Nat.zero_add, plainFrom, if_neg (by decide), if_neg hc,
        isTag_escapeFrom, if_neg hno, ih]
      rfl

/-! ### The end of a text -/

lemma endsInOneBackslash_append_cons {c : Char} (hc : c ≠ '\\') (front back : List Char) :
    endsInOneBackslash (front ++ c :: back) = endsInOneBackslash back := by
  have hreverse : (front ++ c :: back).reverse = back.reverse ++ c :: front.reverse := by simp
  rw [endsInOneBackslash, endsInOneBackslash, hreverse, List.takeWhile_append]
  split
  · next hall => simp [hc, hall]
  · rfl

lemma endsInOneBackslash_escapeFrom (pending : Nat) (cs : List Char) :
    endsInOneBackslash (escapeFrom pending cs) =
      endsInOneBackslash (List.replicate pending '\\' ++ cs) := by
  fun_induction escapeFrom pending cs with
  | case1 pending => rw [List.append_nil]
  | case2 pending rest ih =>
      rw [ih, List.replicate_succ', List.append_assoc, List.singleton_append]
  | case3 pending c rest hc htag ih =>
      obtain ⟨rfl, -⟩ : c = '[' ∧ isTag rest = true := by simpa using htag
      rw [endsInOneBackslash_append_cons hc, endsInOneBackslash_append_cons hc, ih]
      rfl
  | case4 pending c rest hc _ ih =>
      rw [endsInOneBackslash_append_cons hc, endsInOneBackslash_append_cons hc, ih]
      rfl

/-- The console shows an escaped text as it is, with one more backslash if it ends in exactly
one. -/
lemma plain_escape (s : String) :
    plain (escape s) = if endsInOneBackslash s.toList then s ++ "\\" else s := by
  have hends : endsInOneBackslash (escapeFrom 0 s.toList) = endsInOneBackslash s.toList :=
    endsInOneBackslash_escapeFrom 0 s.toList
  have hshown (cs : List Char) : plainFrom 0 false (escapeFrom 0 cs) = cs :=
    plainFrom_escapeFrom 0 cs
  rw [plain, escape, String.toList_ofList, escapeChars, hends]
  split
  · rw [← escapeFrom_append_backslash, hshown, String.ofList_append, String.ofList_toList]
  · rw [hshown, String.ofList_toList]

end Lineage.Command
