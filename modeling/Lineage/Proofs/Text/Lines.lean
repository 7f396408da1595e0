/-
The lines of a text, and places in them.

A text is cut into lines by its breaks in one way only, which the relation `LinesOf` gives and
`lines` computes (`lines_eq_iff`).  Lines hold no line feed, so in a text that is put together from
lines the line feeds before a place tell the number of its line (`exists_line_at`).  The text of the
lines from number `k` on is what is left behind the first `k` lines (`joinLines_eq_leading_append`),
and a place lies in it exactly if at least `k` line feeds stand before it
(`length_le_iff_count_le`).
-/
import Lineage.Proofs.Text.Affix
import Lineage.Proofs.Text.Join
import Lineage.Text.Basic

namespace Lineage.Text

/-! ### The lines of a text -/

/-- What ends a line before `rest`: a carriage return and a line feed together, or one of the
separators, a carriage return only if no line feed follows. -/
def IsBreak (mark rest : List Char) : Prop :=
  mark = ['\r', '\n'] ∨
    ∃ c, mark = [c] ∧ isLineBreak c = true ∧ ¬(c = '\r' ∧ rest.head? = some '\n')

/-- The text is cut into the given lines.  Each but the last is ended by a break, and the last one
is ended by a break or is not empty. -/
inductive LinesOf : List Char → List (List Char) → Prop
  | nil : LinesOf [] []
  | last {line : List Char} : line ≠ [] → (∀ c ∈ line, isLineBreak c = false) →
      LinesOf line [line]
  | broken {line mark rest : List Char} {more : List (List Char)} :
      (∀ c ∈ line, isLineBreak c = false) → IsBreak mark rest → LinesOf rest more →
      LinesOf (line ++ (mark ++ rest)) (line :: more)

namespace LinesOf

/-- One more character at the beginning of the first line. -/
lemma extend {c : Char} {rest line : List Char} {more : List (List Char)}
    (hc : isLineBreak c = false) (h : LinesOf rest (line :: more)) :
    LinesOf (c :: rest) ((c :: line) :: more) := by
  cases h with
  | last hne hline => exact .last (List.cons_ne_nil c _) (List.forall_mem_cons.2 ⟨hc, hline⟩)
  | broken hline hmark hmore => exact .broken (List.forall_mem_cons.2 ⟨hc, hline⟩) hmark hmore

lemma isLineBreak_of_mem {cs line : List Char} {all : List (List Char)} (h : LinesOf cs all)
    (hline : line ∈ all) {c : Char} (hc : c ∈ line) : isLineBreak c = false := by
  induction h with
  | nil => cases hline
  | last _ hfree =>
      rw [List.mem_singleton.1 hline] at hc
      exact hfree c hc
  | broken hfree _ _ ih =>
      rcases List.mem_cons.1 hline with rfl | hline
      · exact hfree c hc
      · exact ih hline

end LinesOf

lemma linesOf_lines (cs : List Char) : LinesOf cs (lines cs) := by
  fun_induction lines cs with
  | case1 => exact .nil
  | case2 rest ih => exact @LinesOf.broken [] ['\r', '\n'] rest _ (by simp) (Or.inl rfl) ih
  | case3 c rest hpair hc ih =>
      refine @LinesOf.broken [] [c] rest _ (by simp) (Or.inr ⟨c, rfl, hc, ?_⟩) ih
      rintro ⟨rfl, hfeed⟩
      obtain ⟨more, rfl⟩ := List.head?_eq_some_iff.1 hfeed
      exact hpair more rfl rfl
  | case4 c rest _ hc hnil ih =>
      rw [hnil] at ih
      cases ih
      exact .last (List.cons_ne_nil c []) (by simpa using hc)
  | case5 c rest _ hc line more hlines ih =>
      rw [hlines] at ih
      exact ih.extend (by simpa using hc)

/-- A character that ends no line stands at the beginning of the first line behind it. -/
lemma lines_cons {c : Char} {rest line : List Char} {more : List (List Char)}
    (hc : isLineBreak c = false) (h : lines rest = line :: more) :
    lines (c :: rest) = (c :: line) :: more := by
  have hreturn : c ≠ '\r' := by
    rintro rfl
    exact absurd hc (by decide)
  rw [lines, h]
  · simp [hc]
  · exact fun _ hpair => absurd hpair hreturn

lemma lines_append_break {line mark rest : List Char} (hline : ∀ c ∈ line, isLineBreak c = false)
    (hmark : IsBreak mark rest) : lines (line ++ (mark ++ rest)) = line :: lines rest := by
  induction line with
  | nil =>
      rcases hmark with rfl | ⟨c, rfl, hc, hpair⟩
      · rfl
      · rw [List.nil_append, List.singleton_append, lines, if_pos hc]
        rintro more rfl rfl
        exact hpair ⟨rfl, rfl⟩
  | cons c line ih =>
      obtain ⟨hc, hline⟩ := List.forall_mem_cons.1 hline
      exact lines_cons hc (ih hline)

lemma lines_of_free {line : List Char} (hne : line ≠ [])
    (hline : ∀ c ∈ line, isLineBreak c = false) : lines line = [line] := by
  induction line with
  | nil => exact absurd rfl hne
  | cons c line ih =>
      obtain ⟨hc, hline⟩ := List.forall_mem_cons.1 hline
      cases line with
      | nil => simp [lines, hc]
      | cons d line => exact lines_cons hc (ih (List.cons_ne_nil d line) hline)

/-- **A text is cut into lines in one way only.** -/
lemma lines_eq_iff {cs : List Char} {all : List (List Char)} : lines cs = all ↔ LinesOf cs all := by
  constructor
  · rintro rfl
    exact linesOf_lines cs
  · intro h
    induction h with
    | nil => rfl
    | last hne hline => exact lines_of_free hne hline
    | broken hline hmark _ ih => rw [lines_append_break hline hmark, ih]

/-! ### Lines put together again -/

/-- Texts without line feeds, as the lines of a text are. -/
def AreLines (all : List (List Char)) : Prop :=
  ∀ line ∈ all, '\n' ∉ line

lemma AreLines.tail {line : List Char} {more : List (List Char)} (h : AreLines (line :: more)) :
    AreLines more :=
  (List.forall_mem_cons.1 h).2

lemma areLines_lines (cs : List Char) : AreLines (lines cs) := fun line hline hfeed =>
  absurd ((linesOf_lines cs).isLineBreak_of_mem hline hfeed) (by decide)

lemma joinLines_cons_cons (line next : List Char) (more : List (List Char)) :
    joinLines (line :: next :: more) = line ++ '\n' :: joinLines (next :: more) :=
  join_cons_cons ['\n'] line next more

/-! ### The text from a line on -/

/-- The first `k` lines, each with its line feed. -/
def leading (k : Nat) (all : List (List Char)) : List Char :=
  (all.take k).flatMap (· ++ ['\n'])

lemma joinLines_eq_leading_append {k : Nat} {all : List (List Char)} (hk : k < all.length) :
    joinLines all = leading k all ++ joinLines (all.drop k) := by
  induction all generalizing k with
  | nil => cases hk
  | cons line more ih =>
      cases k with
      | zero => rfl
      | succ k =>
          have hlt : k < more.length := Nat.lt_of_succ_lt_succ hk
          cases more with
          | nil => cases hlt
          | cons next more =>
              rw [joinLines_cons_cons, ih hlt]
              simp [leading]

lemma count_leading {k : Nat} {all : List (List Char)} (hall : AreLines all)
    (hk : k ≤ all.length) : (leading k all).count '\n' = k := by
  induction all generalizing k with
  | nil =>
      rw [Nat.le_zero.1 hk]
      rfl
  | cons line more ih =>
      cases k with
      | zero => rfl
      | succ k =>
          have hline : line.count '\n' = 0 := List.count_eq_zero.2 (hall line List.mem_cons_self)
          have hmore : (leading k more).count '\n' = k := ih hall.tail (Nat.le_of_succ_le_succ hk)
          rw [leading, List.take_succ_cons, List.flatMap_cons, List.count_append, List.count_append,
            hline, ← leading, hmore]
          simp [Nat.add_comm]

lemma leading_eq_nil_or (k : Nat) (all : List (List Char)) :
    leading k all = [] ∨ ∃ init, leading k all = init ++ ['\n'] := by
  rcases List.eq_nil_or_concat (all.take k) with hnil | ⟨init, last, hconcat⟩
  · left
    rw [leading, hnil, List.flatMap_nil]
  · right
    refine ⟨init.flatMap (· ++ ['\n']) ++ last, ?_⟩
    rw [leading, hconcat, List.concat_eq_append, List.flatMap_append, List.flatMap_singleton,
      List.append_assoc]

/-- A place lies behind a text that ends with a line feed exactly if as many line feeds stand before
it as the text has. -/
lemma length_le_iff_count_le {text lead before : List Char} (hlead : lead <+: text)
    (hbefore : before <+: text) (hend : lead = [] ∨ ∃ init, lead = init ++ ['\n']) :
    lead.length ≤ before.length ↔ lead.count '\n' ≤ before.count '\n' := by
  constructor
  · intro h
    exact (List.prefix_of_prefix_length_le hlead hbefore h).sublist.count_le '\n'
  · intro h
    rcases hend with rfl | ⟨init, rfl⟩
    · exact Nat.zero_le _
    · refine Nat.le_of_not_lt fun hlt => ?_
      rw [List.length_append, List.length_singleton, Nat.lt_succ_iff] at hlt
      have hinit : init <+: text := (List.prefix_append init ['\n']).trans hlead
      have hcount := (List.prefix_of_prefix_length_le hbefore hinit hlt).sublist.count_le '\n'
      rw [List.count_append, List.count_singleton_self] at h
      omega

/-! ### The line of a place -/

/-- A place on the first line. -/
lemma getElem?_count_of_first {line before : List Char} (part tail : List Char)
    (more : List (List Char)) (hline : '\n' ∉ line) (hsplit : line = before ++ part)
    (htail : tail.head?.any (· ≠ '\n') = false) :
    (line :: more)[before.count '\n']? =
      some (before ++ (part ++ tail).takeWhile (· ≠ '\n')) := by
  rw [hsplit, List.mem_append, not_or] at hline
  have hpart : ∀ c ∈ part, decide (c ≠ '\n') = true := fun c hc =>
    decide_eq_true fun heq => hline.2 (heq ▸ hc)
  rw [List.count_eq_zero.2 hline.1, (takeWhile_append_of_head hpart htail).1,
    List.getElem?_cons_zero, hsplit]

/-- The number of line feeds before a place is the number of its line, which is what stands behind
the last of them and before the next one. -/
lemma exists_line_at {all : List (List Char)} (hall : AreLines all) (hne : all ≠ [])
    {before rest : List Char} (htext : joinLines all = before ++ rest) :
    ∃ left, left <:+ before ∧
      all[before.count '\n']? = some (left ++ rest.takeWhile (· ≠ '\n')) := by
  induction all generalizing before with
  | nil => exact absurd rfl hne
  | cons line more ih =>
      have hline : '\n' ∉ line := hall line List.mem_cons_self
      cases more with
      | nil =>
          have hlast := getElem?_count_of_first rest [] [] hline htext rfl
          rw [List.append_nil] at hlast
          exact ⟨before, List.suffix_rfl, hlast⟩
      | cons next more =>
          rw [joinLines_cons_cons] at htext
          rcases List.append_eq_append_iff.1 htext with
            ⟨skipped, hbefore, hrest⟩ | ⟨part, hsplit, rfl⟩
          · rcases List.cons_eq_append_iff.1 hrest with ⟨rfl, rfl⟩ | ⟨skipped, rfl, hmore⟩
            · refine ⟨before, List.suffix_rfl, getElem?_count_of_first [] _ _ hline ?_ (by simp)⟩
              rw [List.append_nil] at hbefore ⊢
              exact hbefore.symm
            · -- the place is behind the first line feed, so it is on one of the other lines
              obtain ⟨left, hleft, hfound⟩ := ih hall.tail (List.cons_ne_nil _ _) hmore
              have hend : skipped <:+ before := ⟨line ++ ['\n'], by simp [hbefore]⟩
              have hcount : before.count '\n' = skipped.count '\n' + 1 := by
                rw [hbefore, List.count_append, List.count_eq_zero.2 hline, List.count_cons_self,
                  Nat.zero_add]
              refine ⟨left, hleft.trans hend, ?_⟩
              rw [hcount, List.getElem?_cons_succ, hfound]
          · exact ⟨before, List.suffix_rfl, getElem?_count_of_first part _ _ hline hsplit (by simp)⟩

end Lineage.Text
