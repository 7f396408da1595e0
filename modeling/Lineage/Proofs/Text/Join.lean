/-
Pieces joined by a mark.

Where a mark stands between pieces, it might also be read across the end of a piece, from characters
of the piece and of the mark together.  A mark that no part of it both begins and ends cannot: its
occurrences do not overlap, so the first one in a joined text is the one behind the first piece
(`Unbordered.cut_unique`).  Hence a joined text tells its pieces, if the mark occurs in none of them
(`Unbordered.eq_of_join_eq`), and if none is empty, it also tells one piece from no piece at all
(`Unbordered.join_eq_iff`).
-/
import Mathlib.Data.List.Infix
import Mathlib.Tactic.Lemma
import Lineage.Text.Basic

namespace Lineage.Text

lemma join_cons_cons (mark piece next : List Char) (more : List (List Char)) :
    join mark (piece :: next :: more) = piece ++ (mark ++ join mark (next :: more)) := by
  rw [join, List.append_assoc]
  simp

/-- Pieces that are not empty are joined to the empty text only if there are none. -/
lemma join_eq_nil_iff {mark : List Char} {pieces : List (List Char)}
    (hpieces : ∀ piece ∈ pieces, piece ≠ []) : join mark pieces = [] ↔ pieces = [] := by
  cases pieces with
  | nil => exact iff_of_true rfl rfl
  | cons piece more =>
      have hpiece : piece ≠ [] := hpieces piece List.mem_cons_self
      refine iff_of_false ?_ (List.cons_ne_nil piece more)
      cases more with
      | nil => exact hpiece
      | cons next more =>
          rw [join_cons_cons]
          exact List.append_ne_nil_of_left_ne_nil hpiece _

/-- A piece without a mark is not two or more pieces joined. -/
lemma ne_join_cons_cons {mark piece : List Char} (hpiece : ¬mark <:+: piece)
    (first next : List Char) (more : List (List Char)) :
    piece ≠ join mark (first :: next :: more) := by
  rintro rfl
  rw [join_cons_cons] at hpiece
  exact hpiece ⟨first, _, List.append_assoc _ _ _⟩

/-- No part of the mark but the empty one and the mark itself both begins and ends it. -/
def Unbordered (mark : List Char) : Prop :=
  ∀ part, part <+: mark → part <:+ mark → part = [] ∨ part = mark

namespace Unbordered

variable {mark : List Char}

/-- Where a text begins with a mark and a mark stands behind `skipped` too, it is the same mark,
unless `skipped` holds one: the two do not overlap. -/
lemma eq_nil_of_append_eq (hmark : Unbordered mark) {skipped rest rest' : List Char}
    (hskipped : ¬mark <:+: skipped) (h : mark ++ rest = skipped ++ (mark ++ rest')) :
    skipped = [] := by
  rcases List.append_eq_append_iff.1 h with ⟨gap, hgap, -⟩ | ⟨part, hpart, hrest⟩
  · exact absurd ⟨[], gap, by rw [hgap, List.nil_append]⟩ hskipped
  · -- the marks share `part`, which ends the first and begins the second
    have hends : part <:+ mark := ⟨skipped, hpart.symm⟩
    have hbegins : part <+: mark :=
      List.prefix_of_prefix_length_le ⟨rest, hrest.symm⟩ (List.prefix_append mark rest')
        hends.length_le
    rcases hmark part hbegins hends with rfl | rfl
    · rw [List.append_nil] at hpart
      exact absurd (hpart ▸ List.infix_rfl) hskipped
    · exact List.append_left_eq_self.1 hpart.symm

/-- A text is cut at its first mark in one way only. -/
lemma cut_unique (hmark : Unbordered mark) {first first' rest rest' : List Char}
    (hfirst : ¬mark <:+: first) (hfirst' : ¬mark <:+: first')
    (h : first ++ (mark ++ rest) = first' ++ (mark ++ rest')) : first = first' ∧ rest = rest' := by
  have hsame : first = first' := by
    rcases List.append_eq_append_iff.1 h with ⟨skipped, rfl, hrest⟩ | ⟨skipped, rfl, hrest⟩
    · have hfree : ¬mark <:+: skipped := fun hin =>
        hfirst' (hin.trans (List.suffix_append first skipped).isInfix)
      rw [hmark.eq_nil_of_append_eq hfree hrest, List.append_nil]
    · have hfree : ¬mark <:+: skipped := fun hin =>
        hfirst (hin.trans (List.suffix_append first' skipped).isInfix)
      rw [hmark.eq_nil_of_append_eq hfree hrest, List.append_nil]
  subst hsame
  exact ⟨rfl, List.append_cancel_left (List.append_cancel_left h)⟩

/-- **A joined text tells its pieces.**  There is at least one piece on either side. -/
lemma eq_of_join_eq (hmark : Unbordered mark) {pieces pieces' : List (List Char)}
    (hpieces : ∀ piece ∈ pieces, ¬mark <:+: piece) (hpieces' : ∀ piece ∈ pieces', ¬mark <:+: piece)
    (hne : pieces ≠ []) (hne' : pieces' ≠ []) (h : join mark pieces = join mark pieces') :
    pieces = pieces' := by
  -- along both lists, which are cut at the same places
  induction pieces generalizing pieces' with
  | nil => exact absurd rfl hne
  | cons piece more ih =>
      obtain ⟨piece', more', rfl⟩ := List.exists_cons_of_ne_nil hne'
      obtain ⟨hpiece, hmore⟩ := List.forall_mem_cons.1 hpieces
      obtain ⟨hpiece', hmore'⟩ := List.forall_mem_cons.1 hpieces'
      cases more with
      | nil =>
          cases more' with
          | nil => exact congrArg ([·]) h
          | cons next' more' => exact absurd h (ne_join_cons_cons hpiece piece' next' more')
      | cons next more =>
          cases more' with
          | nil => exact absurd h.symm (ne_join_cons_cons hpiece' piece next more)
          | cons next' more' =>
              rw [join_cons_cons, join_cons_cons] at h
              obtain ⟨rfl, hrest⟩ := hmark.cut_unique hpiece hpiece' h
              rw [ih hmore hmore' (List.cons_ne_nil _ _) (List.cons_ne_nil _ _) hrest]

lemma join_eq_iff (hmark : Unbordered mark) {pieces pieces' : List (List Char)}
    (hpieces : ∀ piece ∈ pieces, ¬mark <:+: piece) (hpieces' : ∀ piece ∈ pieces', ¬mark <:+: piece)
    (hne : ∀ piece ∈ pieces, piece ≠ []) (hne' : ∀ piece ∈ pieces', piece ≠ []) :
    join mark pieces = join mark pieces' ↔ pieces = pieces' := by
  refine ⟨fun h => ?_, congrArg (join mark)⟩
  by_cases hnil : pieces = []
  · rw [hnil, join] at h
    rw [hnil, (join_eq_nil_iff hne').1 h.symm]
  · refine hmark.eq_of_join_eq hpieces hpieces' hnil (fun hnil' => hnil ?_) h
    rw [hnil', join] at h
    exact (join_eq_nil_iff hne).1 h

end Unbordered

end Lineage.Text
