/-
Lines that mention a name.

A text mentions a name if the name stands somewhere in it as a whole (`mentions_iff`).  An
occurrence inside a longer name does not count, and hides none that comes behind it or overlaps with
it.  The lines after a given one that mention the name are listed with their numbers, which increase
(`mem_usagesAfter_iff`, `pairwise_usagesAfter`).  The main statement, `usagesAfter_lists_mentions`,
says so without the functions that cut a text into lines and trim them.
-/
import Lineage.Proofs.Text.Affix
import Lineage.Proofs.Text.Lines
import Lineage.Proofs.Text.Trim
import Lineage.Source.Declaration

namespace Lineage.Source

open Text

/-! ### Mentions -/

/-- The name stands in the text as a whole: no name reaches across either of its ends.  `before` is
what precedes the text. -/
def Stands (name before cs : List Char) : Prop :=
  ∃ left right, isEdge (before ++ left).getLast? = true ∧ isEdge right.head? = true ∧
    cs = left ++ (name ++ right)

lemma stands_iff {name before cs : List Char} :
    Stands name before cs ↔
      (isEdge before.getLast? = true ∧ ∃ right, isEdge right.head? = true ∧ cs = name ++ right) ∨
        ∃ c rest, cs = c :: rest ∧ Stands name (before ++ [c]) rest := by
  constructor
  · rintro ⟨left, right, hleft, hright, rfl⟩
    cases left with
    | nil =>
        rw [List.append_nil] at hleft
        exact Or.inl ⟨hleft, right, hright, rfl⟩
    | cons c left =>
        rw [List.append_cons] at hleft
        exact Or.inr ⟨c, _, rfl, left, right, hleft, hright, rfl⟩
  · rintro (⟨hbefore, right, hright, rfl⟩ | ⟨c, _, rfl, left, right, hleft, hright, rfl⟩)
    · exact ⟨[], right, by rwa [List.append_nil], hright, rfl⟩
    · exact ⟨c :: left, right, by rwa [List.append_cons], hright, rfl⟩

lemma mentionsFrom_iff_step {name cs : List Char} {previous : Option Char} :
    mentionsFrom name previous cs = true ↔
      (isEdge previous = true ∧ ∃ right, isEdge right.head? = true ∧ cs = name ++ right) ∨
        ∃ c rest, cs = c :: rest ∧ mentionsFrom name (some c) rest = true := by
  rw [mentionsFrom.eq_def, Bool.or_eq_true, Bool.and_eq_true]
  refine or_congr (and_congr_right fun _ => ?_) ?_
  · split
    · next rest hrest =>
        rw [after?_eq_some_iff] at hrest
        constructor
        · exact fun h => ⟨rest, h, hrest⟩
        · rintro ⟨right, hright, hcs⟩
          rwa [List.append_cancel_left (hrest.symm.trans hcs)]
    · next hnone =>
        refine iff_of_false Bool.false_ne_true ?_
        rintro ⟨right, -, hcs⟩
        rw [after?_eq_some_iff.2 hcs] at hnone
        cases hnone
  · cases cs with
    | nil => simp
    | cons c rest =>
        refine ⟨fun h => ⟨c, rest, rfl, h⟩, ?_⟩
        rintro ⟨_, _, heq, h⟩
        cases heq
        exact h

lemma mentionsFrom_iff {name before cs : List Char} :
    mentionsFrom name before.getLast? cs = true ↔ Stands name before cs := by
  -- along the text, what precedes it growing by one character at each step
  induction cs generalizing before with
  | nil =>
      rw [mentionsFrom_iff_step, stands_iff]
      simp
  | cons c cs ih =>
      have hlater : mentionsFrom name (some c) cs = true ↔ Stands name (before ++ [c]) cs := by
        rw [← ih, List.getLast?_concat]
      rw [mentionsFrom_iff_step, stands_iff]
      refine or_congr_right (exists_congr fun _ => exists_congr fun _ => and_congr_right ?_)
      intro heq
      cases heq
      exact hlater

lemma mentions_iff {name line : List Char} : mentions name line = true ↔ Stands name [] line := by
  rw [← mentionsFrom_iff]
  rfl

/-- The name stands in the line, and the characters right before it and right behind it, if there
are any, are neither word characters nor the dollar sign. -/
def IsMentioned (name line : List Char) : Prop :=
  ∃ left right, line = left ++ (name ++ right) ∧
    (∀ c ∈ left.getLast?, isWord c = false ∧ c ≠ '$') ∧
    ∀ c ∈ right.head?, isWord c = false ∧ c ≠ '$'

lemma isEdge_iff {neighbour : Option Char} :
    isEdge neighbour = true ↔ ∀ c ∈ neighbour, isWord c = false ∧ c ≠ '$' := by
  cases neighbour with
  | none => simp [isEdge]
  | some c => simp [isEdge, isNameChar]

lemma mentions_iff_isMentioned {name line : List Char} :
    mentions name line = true ↔ IsMentioned name line := by
  rw [mentions_iff]
  refine exists_congr fun left => exists_congr fun right => ?_
  rw [List.nil_append, isEdge_iff, isEdge_iff]
  constructor
  · rintro ⟨hleft, hright, hline⟩
    exact ⟨hline, hleft, hright⟩
  · rintro ⟨hline, hleft, hright⟩
    exact ⟨hleft, hright, hline⟩

/-! ### Numbered lines -/

lemma numberFrom_eq_map_zipIdx {α : Type} (i : Nat) (all : List α) :
    numberFrom i all = (all.zipIdx i).map Prod.swap := by
  induction all generalizing i with
  | nil => rfl
  | cons a all ih => rw [numberFrom, ih, List.zipIdx_cons, List.map_cons, Prod.swap_prod_mk]

lemma pairwise_numberFrom {α : Type} (i : Nat) (all : List α) :
    (numberFrom i all).Pairwise fun x y => x.1 < y.1 := by
  have hnumbers : (numberFrom i all).map Prod.fst = List.range' i all.length := by
    rw [numberFrom_eq_map_zipIdx, List.map_map, ← List.zipIdx_map_snd i all]
    rfl
  rw [← List.pairwise_map (f := Prod.fst), hnumbers]
  exact List.pairwise_lt_range'

lemma mem_usagesAfter_iff {source name : String} {last : Int} {i : Nat} {text : String} :
    (i, text) ∈ usagesAfter source name last ↔
      last < i ∧ ∃ line, (lines source.toList)[i]? = some line ∧
        mentions name.toList line = true ∧ text = String.ofList (trim isBlank line) := by
  simp only [usagesAfter, numberFrom_eq_map_zipIdx, List.mem_map, List.mem_filter, Prod.exists,
    Bool.and_eq_true, decide_eq_true_eq, Prod.swap_prod_mk, Prod.mk.injEq,
    List.mem_zipIdx_iff_getElem?]
  constructor
  · rintro ⟨_, line, ⟨⟨_, _, hline, rfl, rfl⟩, hlast, hmentions⟩, rfl, rfl⟩
    exact ⟨hlast, _, hline, hmentions, rfl⟩
  · rintro ⟨hlast, line, hline, hmentions, rfl⟩
    exact ⟨i, line, ⟨⟨line, i, hline, rfl, rfl⟩, hlast, hmentions⟩, rfl, rfl⟩

lemma pairwise_usagesAfter (source name : String) (last : Int) :
    (usagesAfter source name last).Pairwise fun x y => x.1 < y.1 := by
  rw [usagesAfter, List.pairwise_map]
  exact (pairwise_numberFrom 0 _).filter _

/-- **The lines that use a name are listed, all of them and nothing else.**  A text is cut into
lines in one way; those after number `last` that mention the name come in the order of their
numbers, each once and without the blanks around it. -/
theorem usagesAfter_lists_mentions (source name : String) (last : Int) :
    ∃ all, (∀ cut, LinesOf source.toList cut ↔ cut = all) ∧
      (usagesAfter source name last).Pairwise (fun x y => x.1 < y.1) ∧
      ∀ i text, (i, text) ∈ usagesAfter source name last ↔
        last < i ∧ ∃ line, all[i]? = some line ∧ IsMentioned name.toList line ∧
          IsTrimmed isBlank line text.toList := by
  refine ⟨lines source.toList, fun cut => lines_eq_iff.symm.trans eq_comm,
    pairwise_usagesAfter source name last, fun i text => ?_⟩
  have htext (line : List Char) :
      text = String.ofList (trim isBlank line) ↔ IsTrimmed isBlank line text.toList := by
    rw [← trim_eq_iff, ← String.toList_inj, String.toList_ofList, eq_comm]
  simp only [mem_usagesAfter_iff, mentions_iff_isMentioned, htext]

/-- A carriage return and a line feed end one line, and an occurrence inside a longer name does not
hide the one behind it. -/
example : usagesAfter "let x = 1\r\n ax$ + x;\u2028\tx.y" "x" 0 =
    [(1, "ax$ + x;"), (2, "x.y")] := by
  decide +kernel

end Lineage.Source
