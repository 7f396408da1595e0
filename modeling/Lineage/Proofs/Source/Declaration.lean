/-
The grammar of declarations that bind the result of a call.

The grammar is given level by level: a call of the callee (`IsCall`), a call with names and points
before it (`IsQualifiedCall`), perhaps awaited (`IsInitializer`), behind an equals sign
(`BindsCall`), behind a declared name and the words that open the declaration (`Declares`).  Each
recogniser accepts its level and nothing else, although the callee is any text and may look like the
blanks, the names or the `await` before it.  A `Declaration` is a reading of the whole grammar at a
place of a text; the main statement, `resultBinding?_eq_leftmost`, is that the search finds the name
of the leftmost one.
-/
import Lineage.Proofs.Text.Affix
import Lineage.Source.Declaration
import Lineage.Text.Casing

namespace Lineage.Text

lemma exists_range_of_inRanges {ranges : List (Nat × Nat)} {n : Nat}
    (h : inRanges ranges n = true) :
    ∃ range ∈ ranges, range.1 ≤ n ∧ n ≤ range.2 := by
  induction ranges with
  | nil => cases h
  | cons range ranges ih =>
      rw [inRanges] at h
      split at h
      · cases h
      · next hfirst =>
          split at h
          · next hlast => exact ⟨range, List.mem_cons_self, Nat.le_of_not_lt hfirst, hlast⟩
          · obtain ⟨found, hmem, hbounds⟩ := ih h
            exact ⟨found, List.mem_cons_of_mem _ hmem, hbounds⟩

end Lineage.Text

namespace Lineage.Source

open Text

/-! ### Characters -/

/-- No blank is a character of a name. -/
lemma isNameChar_of_isBlank {c : Char} (h : isBlank c = true) : isNameChar c = false := by
  have hblanks : ∀ range ∈ blankRanges, ∀ n ∈ List.range' range.1 (range.2 + 1 - range.1),
      inRanges letterOrNumeralRanges n = false ∧ n ≠ '_'.toNat ∧ n ≠ '$'.toNat := by
    decide +kernel
  obtain ⟨range, hmem, hfirst, hlast⟩ := exists_range_of_inRanges h
  obtain ⟨hletter, hlow, hdollar⟩ := hblanks range hmem c.toNat (by
    rw [List.mem_range'_1]
    omega)
  have hne : ∀ d : Char, c.toNat ≠ d.toNat → c ≠ d := fun d hd heq => hd (congrArg Char.toNat heq)
  simp [isNameChar, isWord, hletter, hne '_' hlow, hne '$' hdollar]

lemma isNameChar_iff {c : Char} : isNameChar c = true ↔ isWord c = true ∨ c = '$' := by
  rw [isNameChar, Bool.or_eq_true, beq_iff_eq]

lemma isNameStart_iff {c : Char} :
    isNameStart c = true ↔ c.isAlpha = true ∨ c = '_' ∨ c = '$' := by
  have hupper : c.isUpper = true ↔ 65 ≤ c.toNat ∧ c.toNat ≤ 90 := decide_eq_true_iff
  have hlower : c.isLower = true ↔ 97 ≤ c.toNat ∧ c.toNat ≤ 122 :=
    Bool.and_eq_true_iff.trans (and_congr decide_eq_true_iff decide_eq_true_iff)
  have halpha : c.isAlpha = true ↔ c.isUpper = true ∨ c.isLower = true := Bool.or_eq_true_iff
  simp only [isNameStart, halpha, hupper, hlower, Bool.or_eq_true, Bool.and_eq_true,
    decide_eq_true_eq, beq_iff_eq, or_assoc]

lemma isBlank_of_isNameStart {c : Char} (h : isNameStart c = true) : isBlank c = false := by
  simp only [isNameStart, Bool.or_eq_true, Bool.and_eq_true, decide_eq_true_eq, beq_iff_eq] at h
  rcases h with (h | rfl) | rfl
  · simp only [isBlank, blankRanges, inRanges]
    grind
  · decide
  · decide

/-! ### The grammar -/

/-- Blanks, perhaps none. -/
def IsBlanks (cs : List Char) : Prop :=
  ∀ c ∈ cs, isBlank c = true

/-- A call: the callee, blanks and an opening parenthesis, and then anything. -/
def IsCall (callee cs : List Char) : Prop :=
  ∃ gap rest, IsBlanks gap ∧ cs = callee ++ (gap ++ '(' :: rest)

/-- A call behind any number of names, each with a point after it. -/
inductive IsQualifiedCall (callee : List Char) : List Char → Prop
  | plain {cs : List Char} (call : IsCall callee cs) : IsQualifiedCall callee cs
  | member {object rest : List Char} (ne_nil : object ≠ [])
      (named : ∀ c ∈ object, isNameChar c = true) (call : IsQualifiedCall callee rest) :
      IsQualifiedCall callee (object ++ '.' :: rest)

/-- Nothing, or `await` and blanks. -/
def IsWait (cs : List Char) : Prop :=
  cs = [] ∨ ∃ gap, gap ≠ [] ∧ IsBlanks gap ∧ cs = "await".toList ++ gap

/-- What stands behind an equals sign: blanks, perhaps `await`, and a call of the callee. -/
def IsInitializer (callee cs : List Char) : Prop :=
  ∃ gap wait call, IsBlanks gap ∧ IsWait wait ∧ IsQualifiedCall callee call ∧
    cs = gap ++ (wait ++ call)

/-- What stands behind a name that the result of the callee is bound to. -/
def BindsCall (callee cs : List Char) : Prop :=
  ∃ gap init, IsBlanks gap ∧ IsInitializer callee init ∧ cs = gap ++ '=' :: init

/-- A name: a letter from A to Z or from a to z, a low line or a dollar sign, and then word
characters and dollar signs. -/
def IsName (name : List Char) : Prop :=
  ∃ first others, (first.isAlpha = true ∨ first = '_' ∨ first = '$') ∧
    (∀ c ∈ others, isWord c = true ∨ c = '$') ∧ name = first :: others

/-- What opens a declaration: its word and blanks. -/
def IsOpening (cs : List Char) : Prop :=
  ∃ word ∈ declarators, ∃ gap, gap ≠ [] ∧ IsBlanks gap ∧ cs = word.toList ++ gap

/-- A declaration of the name, to which the result of the callee is bound. -/
def Declares (callee name cs : List Char) : Prop :=
  ∃ opening tail, IsOpening opening ∧ IsName name ∧ BindsCall callee tail ∧
    cs = opening ++ (name ++ tail)

/-! ### The recognisers -/

lemma isCallOf_iff {callee cs : List Char} : isCallOf callee cs = true ↔ IsCall callee cs := by
  rw [isCallOf]
  cases hafter : after? callee cs with
  | none =>
      refine iff_of_false Bool.false_ne_true ?_
      rintro ⟨gap, rest, -, hcs⟩
      rw [after?_eq_some_iff.2 hcs] at hafter
      cases hafter
  | some tail =>
      have hparen : isBlank '(' = false := by decide
      simp only [beq_iff_eq, List.head?_eq_some_iff, dropWhile_eq_cons_iff hparen]
      rw [after?_eq_some_iff] at hafter
      constructor
      · rintro ⟨rest, gap, hgap, rfl⟩
        exact ⟨gap, rest, hgap, hafter⟩
      · rintro ⟨gap, rest, hgap, hcs⟩
        exact ⟨rest, gap, hgap, List.append_cancel_left (hafter.symm.trans hcs)⟩

/-- What is left to read inside a name: the rest of the name, a point and a call. -/
def InsideName (callee cs : List Char) : Prop :=
  ∃ part rest, (∀ c ∈ part, isNameChar c = true) ∧ IsQualifiedCall callee rest ∧
    cs = part ++ '.' :: rest

lemma insideName_cons_iff {callee : List Char} {c : Char} {cs : List Char} :
    InsideName callee (c :: cs) ↔
      isNameChar c = true ∧ InsideName callee cs ∨ c = '.' ∧ IsQualifiedCall callee cs := by
  constructor
  · rintro ⟨part, rest, hpart, call, htext⟩
    cases part with
    | nil =>
        rw [List.nil_append, List.cons.injEq] at htext
        exact Or.inr ⟨htext.1, htext.2 ▸ call⟩
    | cons first part =>
        rw [List.cons_append, List.cons.injEq] at htext
        obtain ⟨hfirst, hpart⟩ := List.forall_mem_cons.1 hpart
        exact Or.inl ⟨htext.1 ▸ hfirst, part, rest, hpart, call, htext.2⟩
  · rintro (⟨hc, part, rest, hpart, call, rfl⟩ | ⟨rfl, call⟩)
    · exact ⟨c :: part, rest, List.forall_mem_cons.2 ⟨hc, hpart⟩, call, rfl⟩
    · exact ⟨[], cs, by simp, call, rfl⟩

lemma isQualifiedCall_nil_iff {callee : List Char} :
    IsQualifiedCall callee [] ↔ IsCall callee [] := by
  refine ⟨fun h => ?_, .plain⟩
  generalize htext : ([] : List Char) = text at h
  cases h with
  | plain call => exact call
  | member => simp at htext

lemma isQualifiedCall_cons_iff {callee : List Char} {c : Char} {cs : List Char} :
    IsQualifiedCall callee (c :: cs) ↔
      IsCall callee (c :: cs) ∨ isNameChar c = true ∧ InsideName callee cs := by
  constructor
  · intro h
    generalize htext : c :: cs = text at h
    cases h with
    | plain call => exact Or.inl call
    | @member object rest ne_nil named call =>
        obtain ⟨first, part, rfl⟩ := List.exists_cons_of_ne_nil ne_nil
        rw [List.cons_append, List.cons.injEq] at htext
        obtain ⟨hfirst, hpart⟩ := List.forall_mem_cons.1 named
        exact Or.inr ⟨htext.1 ▸ hfirst, part, rest, hpart, call, htext.2⟩
  · rintro (call | ⟨hc, part, rest, hpart, call, rfl⟩)
    · exact .plain call
    · have hnamed : ∀ d ∈ c :: part, isNameChar d = true := List.forall_mem_cons.2 ⟨hc, hpart⟩
      exact .member (List.cons_ne_nil c part) hnamed call

lemma isQualifiedCall_iff {callee : List Char} (cs : List Char) :
    (isQualifiedCall callee false cs = true ↔ IsQualifiedCall callee cs) ∧
      (isQualifiedCall callee true cs = true ↔ InsideName callee cs) := by
  -- outside and inside a name together, as each step may lead from one to the other
  induction cs with
  | nil =>
      rw [isQualifiedCall_nil_iff, ← isCallOf_iff]
      simp [isQualifiedCall, InsideName]
  | cons c cs ih =>
      obtain ⟨ihOutside, ihInside⟩ := ih
      rw [isQualifiedCall_cons_iff, insideName_cons_iff, ← isCallOf_iff, ← ihOutside, ← ihInside]
      by_cases hc : isNameChar c = true
      · have hpoint : c ≠ '.' := by
          rintro rfl
          exact absurd hc (by decide +kernel)
        simp [isQualifiedCall, hc, hpoint]
      · simp [isQualifiedCall, hc]

/-- Some blanks are none, or at least one. -/
lemma exists_blanks_iff {start cs : List Char} :
    (∃ gap, IsBlanks gap ∧ cs = gap ++ start) ↔
      start = cs ∨ ∃ gap, gap ≠ [] ∧ IsBlanks gap ∧ cs = gap ++ start := by
  constructor
  · rintro ⟨gap, hgap, htext⟩
    cases gap with
    | nil => exact Or.inl htext.symm
    | cons b gap => exact Or.inr ⟨b :: gap, List.cons_ne_nil b gap, hgap, htext⟩
  · rintro (rfl | ⟨gap, -, hgap, htext⟩)
    · exact ⟨[], by simp [IsBlanks], rfl⟩
    · exact ⟨gap, hgap, htext⟩

lemma exists_blanks_cons_iff {c : Char} {start cs : List Char} :
    (∃ gap, gap ≠ [] ∧ IsBlanks gap ∧ c :: cs = gap ++ start) ↔
      isBlank c = true ∧ ∃ gap, IsBlanks gap ∧ cs = gap ++ start := by
  constructor
  · rintro ⟨gap, hne, hgap, htext⟩
    obtain ⟨b, gap, rfl⟩ := List.exists_cons_of_ne_nil hne
    rw [List.cons_append, List.cons.injEq] at htext
    obtain ⟨hb, hgap⟩ := List.forall_mem_cons.1 hgap
    exact ⟨htext.1 ▸ hb, gap, hgap, htext.2⟩
  · rintro ⟨hc, gap, hgap, rfl⟩
    exact ⟨c :: gap, List.cons_ne_nil c gap, List.forall_mem_cons.2 ⟨hc, hgap⟩, rfl⟩

lemma not_exists_blanks_nil {start : List Char} :
    ¬∃ gap, gap ≠ [] ∧ IsBlanks gap ∧ [] = gap ++ start := by
  rintro ⟨gap, hne, -, htext⟩
  exact hne (List.append_eq_nil_iff.1 htext.symm).1

lemma mem_withoutBlanks_iff {start cs : List Char} :
    start ∈ withoutBlanks cs ↔ ∃ gap, IsBlanks gap ∧ cs = gap ++ start := by
  induction cs with
  | nil => rw [withoutBlanks, List.mem_singleton, exists_blanks_iff,
      or_iff_left not_exists_blanks_nil]
  | cons c cs ih =>
      rw [withoutBlanks, List.mem_cons, exists_blanks_iff, exists_blanks_cons_iff, ← ih]
      split
      · next hc => simp [hc]
      · next hc => simp [hc]

/-- All but the text itself are without at least one blank. -/
lemma mem_tail_withoutBlanks_iff {start cs : List Char} :
    start ∈ (withoutBlanks cs).tail ↔ ∃ gap, gap ≠ [] ∧ IsBlanks gap ∧ cs = gap ++ start := by
  cases cs with
  | nil => exact iff_of_false List.not_mem_nil not_exists_blanks_nil
  | cons c cs =>
      rw [exists_blanks_cons_iff, ← mem_withoutBlanks_iff, withoutBlanks, List.tail_cons]
      split
      · next hc => simp [hc]
      · next hc => simp [hc]

lemma isInitializer_iff {callee cs : List Char} :
    isInitializer callee cs = true ↔ IsInitializer callee cs := by
  rw [isInitializer, List.any_eq_true]
  constructor
  · rintro ⟨start, hstart, h⟩
    obtain ⟨gap, hgap, rfl⟩ := mem_withoutBlanks_iff.1 hstart
    rcases Bool.or_eq_true_iff.1 h with hcall | hawaited
    · exact ⟨gap, [], start, hgap, Or.inl rfl, (isQualifiedCall_iff start).1.1 hcall, rfl⟩
    · split at hawaited
      · next rest hrest =>
          obtain ⟨call, hmem, hcall⟩ := List.any_eq_true.1 hawaited
          obtain ⟨pause, hne, hpause, rfl⟩ := mem_tail_withoutBlanks_iff.1 hmem
          refine ⟨gap, _, call, hgap, Or.inr ⟨pause, hne, hpause, rfl⟩,
            (isQualifiedCall_iff call).1.1 hcall, ?_⟩
          rw [after?_eq_some_iff.1 hrest, List.append_assoc]
      · cases hawaited
  · rintro ⟨gap, wait, call, hgap, hwait, hcall, rfl⟩
    refine ⟨wait ++ call, mem_withoutBlanks_iff.2 ⟨gap, hgap, rfl⟩, Bool.or_eq_true_iff.2 ?_⟩
    rcases hwait with rfl | ⟨pause, hne, hpause, rfl⟩
    · exact Or.inl ((isQualifiedCall_iff _).1.2 hcall)
    · right
      rw [List.append_assoc, after?_eq_some_iff.2 rfl]
      exact List.any_eq_true.2 ⟨call, mem_tail_withoutBlanks_iff.2 ⟨pause, hne, hpause, rfl⟩,
        (isQualifiedCall_iff call).1.2 hcall⟩

/-- A declared name reaches as far as it can. -/
lemma declaredName?_eq_some_iff {cs name rest : List Char} :
    declaredName? cs = some (name, rest) ↔
      ∃ gap, gap ≠ [] ∧ IsBlanks gap ∧ IsName name ∧ rest.head?.any isNameChar = false ∧
        cs = gap ++ (name ++ rest) := by
  constructor
  · intro h
    rw [declaredName?] at h
    split at h
    · next hhead =>
        split at h
        · next first tail hdrop =>
            split at h
            · next hfirst =>
                cases h
                obtain ⟨gap, hgap, rfl⟩ :=
                  (dropWhile_eq_cons_iff (isBlank_of_isNameStart hfirst)).1 hdrop
                refine ⟨gap, ?_, hgap, ⟨first, _, isNameStart_iff.1 hfirst, ?_, rfl⟩,
                  head?_dropWhile tail, ?_⟩
                · rintro rfl
                  exact absurd hhead (by simp [isBlank_of_isNameStart hfirst])
                · intro c hc
                  exact isNameChar_iff.1 (List.mem_takeWhile_imp hc)
                · rw [List.cons_append, List.takeWhile_append_dropWhile]
            · cases h
        · cases h
    · cases h
  · rintro ⟨gap, hne, hgap, ⟨first, others, hfirst, hothers, rfl⟩, hrest, rfl⟩
    rw [← isNameStart_iff] at hfirst
    have hhead : (gap ++ (first :: others ++ rest)).head?.any isBlank = true := by
      obtain ⟨b, gap, rfl⟩ := List.exists_cons_of_ne_nil hne
      exact (List.forall_mem_cons.1 hgap).1
    have hdrop : (gap ++ (first :: others ++ rest)).dropWhile isBlank = first :: (others ++ rest) :=
      (dropWhile_eq_cons_iff (isBlank_of_isNameStart hfirst)).2 ⟨gap, hgap, rfl⟩
    obtain ⟨htake, hleft⟩ := takeWhile_append_of_head
      (fun c hc => isNameChar_iff.2 (hothers c hc)) hrest
    rw [declaredName?, if_pos hhead, hdrop]
    simp only [hfirst, if_true, htake, hleft]

lemma declarators_free :
    ∀ w ∈ declarators, ∀ w' ∈ declarators, w.toList <+: w'.toList → w = w' := by
  decide +kernel

/-- Neither a blank nor the equals sign goes on a name. -/
lemma BindsCall.head?_any_isNameChar {callee cs : List Char} (h : BindsCall callee cs) :
    cs.head?.any isNameChar = false := by
  obtain ⟨gap, init, hgap, -, rfl⟩ := h
  cases gap with
  | nil => exact (by decide +kernel : isNameChar '=' = false)
  | cons b gap => exact isNameChar_of_isBlank (List.forall_mem_cons.1 hgap).1

lemma declarationAt?_eq_some_iff {callee cs name : List Char} :
    declarationAt? callee cs = some name ↔ Declares callee name cs := by
  have hequals : isBlank '=' = false := by decide
  simp only [declarationAt?, Option.bind_eq_bind, Option.bind_eq_some_iff,
    findSome?_after?_eq_some_iff declarators_free, Prod.exists, declaredName?_eq_some_iff]
  constructor
  · rintro ⟨_, ⟨word, hword, rfl⟩, found, tail, ⟨gap, hne, hgap, hname, -, rfl⟩, h⟩
    split at h
    · next init hinit =>
        split at h
        · next hcall =>
            cases h
            obtain ⟨space, hspace, htail⟩ := (dropWhile_eq_cons_iff hequals).1 hinit
            refine ⟨word.toList ++ gap, tail, ⟨word, hword, gap, hne, hgap, rfl⟩, hname,
              ⟨space, init, hspace, isInitializer_iff.1 hcall, htail⟩, ?_⟩
            rw [List.append_assoc]
        · cases h
    · cases h
  · rintro ⟨_, tail, ⟨word, hword, gap, hne, hgap, rfl⟩, hname, hbinds, rfl⟩
    refine ⟨gap ++ (name ++ tail), ⟨word, hword, List.append_assoc _ _ _⟩, name, tail,
      ⟨gap, hne, hgap, hname, hbinds.head?_any_isNameChar, rfl⟩, ?_⟩
    obtain ⟨space, init, hspace, hinit, rfl⟩ := hbinds
    rw [(dropWhile_eq_cons_iff hequals).2 ⟨space, hspace, rfl⟩]
    exact if_pos (isInitializer_iff.2 hinit)

/-! ### Places in a text -/

/-- Of the two characters at the place, one belongs to a word and the other, if any, does not. -/
def AtWordBoundary (before rest : List Char) : Prop :=
  before.getLast?.any isWord ≠ rest.head?.any isWord

instance (before rest : List Char) : Decidable (AtWordBoundary before rest) :=
  inferInstanceAs (Decidable (_ ≠ _))

/-- A declaration in a text, to whose name the result of the callee is bound: what stands before it,
what opens it, the name, and what stands behind the name. -/
structure Declaration (callee text : List Char) where
  before : List Char
  opening : List Char
  name : List Char
  tail : List Char
  split : text = before ++ (opening ++ (name ++ tail))
  boundary : AtWordBoundary before (opening ++ (name ++ tail))
  opens : IsOpening opening
  named : IsName name
  binds : BindsCall callee tail

namespace Declaration

variable {callee text : List Char}

/-- The number of characters before a declaration. -/
def position (d : Declaration callee text) : Nat := d.before.length

/-- No other declaration begins between `start` and this one. -/
structure IsFirstFrom (start : Nat) (d : Declaration callee text) : Prop where
  le : start ≤ d.position
  least : ∀ d' : Declaration callee text, start ≤ d'.position → d.position ≤ d'.position

end Declaration

/-- A declaration opens with a word character. -/
lemma IsOpening.head?_any_isWord {opening : List Char} (h : IsOpening opening) (rest : List Char) :
    (opening ++ rest).head?.any isWord = true := by
  have hwords : ∀ word ∈ declarators, word.toList.head?.any isWord = true := by decide +kernel
  obtain ⟨word, hword, gap, -, -, rfl⟩ := h
  have hhead := hwords word hword
  cases hchars : word.toList with
  | nil => simp [hchars] at hhead
  | cons c cs =>
      rw [hchars] at hhead
      exact hhead

namespace Declaration

variable {callee text : List Char}

lemma declares (d : Declaration callee text) :
    Declares callee d.name (d.opening ++ (d.name ++ d.tail)) :=
  ⟨d.opening, d.tail, d.opens, d.named, d.binds, rfl⟩

/-- The declarations at a place are those that are read there, unless it is inside a word. -/
lemma exists_position_iff {before rest name : List Char} (htext : text = before ++ rest) :
    (∃ d : Declaration callee text, d.position = before.length ∧ d.name = name) ↔
      before.getLast?.any isWord = false ∧ declarationAt? callee rest = some name := by
  constructor
  · rintro ⟨d, hposition, rfl⟩
    obtain ⟨hbefore, hrest⟩ := List.append_inj (d.split.symm.trans htext) hposition
    have hboundary := d.boundary
    rw [AtWordBoundary, d.opens.head?_any_isWord, hbefore] at hboundary
    exact ⟨by simpa using hboundary, hrest ▸ declarationAt?_eq_some_iff.2 d.declares⟩
  · rintro ⟨hword, h⟩
    obtain ⟨opening, tail, hopens, hname, hbinds, rfl⟩ := declarationAt?_eq_some_iff.1 h
    refine ⟨⟨before, opening, name, tail, htext, ?_, hopens, hname, hbinds⟩, rfl, rfl⟩
    rw [AtWordBoundary, hopens.head?_any_isWord, hword]
    exact Bool.false_ne_true

lemma declarationAt?_drop (d : Declaration callee text) :
    declarationAt? callee (text.drop d.position) = some d.name := by
  have hrest : text.drop d.position = d.opening ++ (d.name ++ d.tail) :=
    (congrArg (List.drop d.position) d.split).trans List.drop_left
  rw [hrest, declarationAt?_eq_some_iff]
  exact d.declares

/-- At one place, one name is declared. -/
lemma name_eq_of_position_eq {d d' : Declaration callee text} (h : d.position = d'.position) :
    d.name = d'.name := by
  have hd := d.declarationAt?_drop
  rw [h, d'.declarationAt?_drop] at hd
  exact (Option.some.inj hd).symm

lemma position_lt_length (d : Declaration callee text) : d.position < text.length := by
  obtain ⟨first, others, -, -, hname⟩ := d.named
  have hlength := congrArg List.length d.split
  simp only [hname, List.length_append, List.length_cons] at hlength
  rw [position]
  omega

end Declaration

/-! ### The search -/

lemma firstDeclaration?_cons (callee : List Char) (previous : Option Char) (c : Char)
    (cs : List Char) :
    firstDeclaration? callee previous (c :: cs) =
      (if previous.any isWord then none else declarationAt? callee (c :: cs)).or
        (firstDeclaration? callee (some c) cs) := by
  rw [firstDeclaration?]
  cases if previous.any isWord then none else declarationAt? callee (c :: cs) <;> rfl

/-- The search from a place on finds the first declaration from there on, if there is any. -/
lemma firstDeclaration?_finds (callee : List Char) {text before rest : List Char}
    (htext : text = before ++ rest) :
    (∀ name, firstDeclaration? callee before.getLast? rest = some name →
        ∃ d : Declaration callee text, d.IsFirstFrom before.length ∧ d.name = name) ∧
      (firstDeclaration? callee before.getLast? rest = none →
        ∀ d : Declaration callee text, d.position < before.length) := by
  induction rest generalizing before with
  | nil =>
      refine ⟨fun name h => (nomatch h), fun _ d => ?_⟩
      have hlength : text.length = before.length := by rw [htext, List.append_nil]
      exact d.position_lt_length.trans_eq hlength
  | cons c rest ih =>
      have hplace (name : List Char) :
          (∃ d : Declaration callee text, d.position = before.length ∧ d.name = name) ↔ _ :=
        Declaration.exists_position_iff htext
      rw [firstDeclaration?_cons]
      by_cases hhere : ∃ d : Declaration callee text, d.position = before.length
      · obtain ⟨d, hd⟩ := hhere
        obtain ⟨hword, hname⟩ := (hplace d.name).1 ⟨d, hd, rfl⟩
        rw [hword, hname]
        refine ⟨fun name h => ⟨d, ⟨hd.ge, fun d' h' => hd.le.trans h'⟩, Option.some.inj h⟩,
          fun h => (nomatch h)⟩
      · -- nothing is declared here, so the search goes on behind the next character
        have hnone : (if before.getLast?.any isWord = true then none
            else declarationAt? callee (c :: rest)) = none := by
          split
          · rfl
          · next hword =>
              refine Option.eq_none_iff_forall_ne_some.2 fun name h => hhere ?_
              obtain ⟨d, hd, -⟩ := (hplace name).2 ⟨by simpa using hword, h⟩
              exact ⟨d, hd⟩
        have hlast : (before ++ [c]).getLast? = some c := List.getLast?_concat
        have hnext : text = (before ++ [c]) ++ rest := by rw [htext, List.append_cons]
        obtain ⟨ihSome, ihNone⟩ := ih hnext
        rw [hlast, List.length_append, List.length_singleton] at ihSome ihNone
        rw [hnone, Option.none_or]
        have hne : ∀ d : Declaration callee text, d.position ≠ before.length := fun d hd =>
          hhere ⟨d, hd⟩
        constructor
        · intro name h
          obtain ⟨d, hfirst, hname⟩ := ihSome name h
          refine ⟨d, ⟨Nat.le_of_succ_le hfirst.le, fun d' h' => hfirst.least d' ?_⟩, hname⟩
          exact Nat.lt_of_le_of_ne h' (hne d').symm
        · intro h d
          exact Nat.lt_of_le_of_ne (Nat.le_of_lt_succ (ihNone h d)) (hne d)

section

variable {callee text before rest : List Char}

lemma firstDeclaration?_eq_some_iff (htext : text = before ++ rest) {name : List Char} :
    firstDeclaration? callee before.getLast? rest = some name ↔
      ∃ d : Declaration callee text, d.IsFirstFrom before.length ∧ d.name = name := by
  obtain ⟨hsome, hnone⟩ := firstDeclaration?_finds callee htext
  refine ⟨hsome name, ?_⟩
  rintro ⟨d, hfirst, rfl⟩
  cases hfound : firstDeclaration? callee before.getLast? rest with
  | none => exact absurd (hnone hfound d) (Nat.not_lt.2 hfirst.le)
  | some found =>
      obtain ⟨d', hfirst', rfl⟩ := hsome found hfound
      have hposition : d'.position = d.position :=
        Nat.le_antisymm (hfirst'.least d hfirst.le) (hfirst.least d' hfirst'.le)
      rw [Declaration.name_eq_of_position_eq hposition]

lemma firstDeclaration?_eq_none_iff (htext : text = before ++ rest) :
    firstDeclaration? callee before.getLast? rest = none ↔
      ∀ d : Declaration callee text, d.position < before.length := by
  obtain ⟨hsome, hnone⟩ := firstDeclaration?_finds callee htext
  refine ⟨hnone, fun h => ?_⟩
  refine Option.eq_none_iff_forall_ne_some.2 fun found hfound => ?_
  obtain ⟨d, hfirst, -⟩ := hsome found hfound
  exact absurd (h d) (Nat.not_lt.2 hfirst.le)

end

lemma resultBinding?_eq_map {source callee : String} (hcallee : callee ≠ "") (start : Nat) :
    resultBinding? source callee start =
      (firstDeclaration? callee.toList none
        (joinLines ((lines source.toList).drop start))).map String.ofList := by
  have hnonempty : callee.isEmpty = false := by simpa [String.isEmpty_iff] using hcallee
  rw [resultBinding?, linesFrom, if_pos (Int.natCast_nonneg start), Int.toNat_natCast, hnonempty,
    Bool.or_false]
  split
  · next hempty =>
      rw [String.isEmpty_iff.1 hempty]
      have hlines : (lines "".toList).drop start = [] := by simp [lines]
      rw [hlines]
      rfl
  · rfl

/-- **The binding of a result is the name of the leftmost declaration.**  For every source, every
callee that is not empty and every line to start from: in the text of the lines from there on, the
search finds the name of the leftmost declaration to whose name the result of the callee is bound;
it finds nothing exactly if there is no such declaration; and at one place one name is declared. -/
theorem resultBinding?_eq_leftmost (source callee : String) (hcallee : callee ≠ "") (start : Nat) :
    (∀ name, resultBinding? source callee start = some name ↔
      ∃ d : Declaration callee.toList (joinLines ((lines source.toList).drop start)),
        (∀ d' : Declaration callee.toList (joinLines ((lines source.toList).drop start)),
          d.position ≤ d'.position) ∧ d.name = name.toList) ∧
    (resultBinding? source callee start = none ↔
      IsEmpty (Declaration callee.toList (joinLines ((lines source.toList).drop start)))) ∧
    ∀ d d' : Declaration callee.toList (joinLines ((lines source.toList).drop start)),
      d.position = d'.position → d.name = d'.name := by
  set text := joinLines ((lines source.toList).drop start)
  have hsome {name : List Char} : firstDeclaration? callee.toList none text = some name ↔
      ∃ d : Declaration callee.toList text, d.IsFirstFrom 0 ∧ d.name = name :=
    firstDeclaration?_eq_some_iff (List.nil_append text).symm
  have hnone : firstDeclaration? callee.toList none text = none ↔
      ∀ d : Declaration callee.toList text, d.position < 0 :=
    firstDeclaration?_eq_none_iff (List.nil_append text).symm
  rw [resultBinding?_eq_map hcallee]
  refine ⟨fun name => ?_, ?_, fun d d' => Declaration.name_eq_of_position_eq⟩
  · rw [Option.map_eq_some_iff]
    constructor
    · rintro ⟨found, hfound, rfl⟩
      obtain ⟨d, hfirst, rfl⟩ := hsome.1 hfound
      exact ⟨d, fun d' => hfirst.least d' (Nat.zero_le _), (String.toList_ofList).symm⟩
    · rintro ⟨d, hleast, hname⟩
      refine ⟨d.name, hsome.2 ⟨d, ⟨Nat.zero_le _, fun d' _ => hleast d'⟩, rfl⟩, ?_⟩
      rw [hname, String.ofList_toList]
  · rw [Option.map_eq_none_iff, hnone]
    exact ⟨fun h => ⟨fun d => Nat.not_lt_zero _ (h d)⟩, fun h d => (h.false d).elim⟩

/-- Behind the first line, an awaited call of a callee with a point and a dollar sign, on two
lines. -/
theorem resultBinding?_eq_leftmost_awaited :
    "b$.save" ≠ "" ∧
      resultBinding? "save(x);\nlet r = await a.b$.save\n (y);" "b$.save" (1 : Nat) = some "r" ∧
      ∃ d : Declaration "b$.save".toList
          (joinLines ((lines "save(x);\nlet r = await a.b$.save\n (y);".toList).drop 1)),
        (∀ d' : Declaration "b$.save".toList
          (joinLines ((lines "save(x);\nlet r = await a.b$.save\n (y);".toList).drop 1)),
            d.position ≤ d'.position) ∧ d.name = "r".toList := by
  have hcallee : "b$.save" ≠ "" := by decide
  have hfound : resultBinding? "save(x);\nlet r = await a.b$.save\n (y);" "b$.save" (1 : Nat) =
      some "r" := by
    decide +kernel
  exact ⟨hcallee, hfound, ((resultBinding?_eq_leftmost _ _ hcallee 1).1 "r").1 hfound⟩

/-- A letter outside A to Z and a to z begins no name: a text that reads as a declaration of such a
name in all else is passed over. -/
theorem resultBinding?_accented_missed :
    (isWord 'é' = true ∧ upperChar 'é' = ['É']) ∧
      AtWordBoundary [] "const é = save(x);".toList ∧
      "const é = save(x);".toList =
        "const ".toList ++ ("é".toList ++ " = save(x);".toList) ∧
      IsOpening "const ".toList ∧ BindsCall "save".toList " = save(x);".toList ∧
      resultBinding? "const é = save(x);" "save" 0 = none := by
  have hblank : IsBlanks [' '] := fun c hc => List.mem_singleton.1 hc ▸ by decide
  have hcall : IsCall "save".toList "save(x);".toList :=
    ⟨[], "x);".toList, fun c hc => absurd hc List.not_mem_nil, by decide⟩
  have hinit : IsInitializer "save".toList " save(x);".toList :=
    ⟨[' '], [], "save(x);".toList, hblank, Or.inl rfl, .plain hcall, by decide⟩
  have hopens : IsOpening "const ".toList :=
    ⟨"const", by decide, [' '], List.cons_ne_nil _ _, hblank, by decide⟩
  exact ⟨by decide +kernel, by decide +kernel, by decide, hopens,
    ⟨[' '], " save(x);".toList, hblank, hinit, by decide⟩, by decide +kernel⟩

end Lineage.Source
