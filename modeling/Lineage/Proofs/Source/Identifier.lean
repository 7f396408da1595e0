/-
The words of an identifier, read from the left.

`wordsOf` decides for each two neighbouring characters whether they belong together.  `Reads` is the
other view of it: at each place the longest run of capitals that no small letter follows is taken,
or, where there is none, small letters and digits as far as they go, with the capital in front of
them if there is one.  Both give the same words (`reads_iff`).  Along a reading nothing is lost but
what is no letter and no digit, and each word has one of the two forms; the main statement is
`splitIdentifier_lossless`.
-/
import Mathlib.Data.List.Basic
import Lineage.Source.Identifier

namespace Lineage.Source

/-! ### Characters -/

/-- The characters of words: ASCII letters and digits. -/
def isWordChar (c : Char) : Bool := isCapital c || isBody c

lemma isBody_of_isSmall {c : Char} (h : isSmall c = true) : isBody c = true := by
  simp [isBody, h]

lemma isCapital_of_isBody {c : Char} (h : isBody c = true) : isCapital c = false := by
  simp only [isBody, isSmall, Bool.or_eq_true, Bool.and_eq_true, decide_eq_true_eq] at h
  simp only [isCapital, Bool.and_eq_false_iff, decide_eq_false_iff_not]
  omega

lemma isBody_of_isCapital {c : Char} (h : isCapital c = true) : isBody c = false := by
  cases hbody : isBody c with
  | false => rfl
  | true => simp [isCapital_of_isBody hbody] at h

lemma isSmall_of_isCapital {c : Char} (h : isCapital c = true) : isSmall c = false := by
  have hbody := isBody_of_isCapital h
  simp only [isBody, Bool.or_eq_false_iff] at hbody
  exact hbody.1

/-! ### Words -/

/-- What a word may be: a run of capitals, or small letters and digits that one capital may
precede. -/
inductive IsWord : List Char → Prop where
  | capitals {word : List Char} (hne : word ≠ []) (hword : ∀ c ∈ word, isCapital c = true) :
      IsWord word
  | small {word : List Char} (hne : word ≠ []) (hword : ∀ c ∈ word, isBody c = true) : IsWord word
  | titled {c : Char} {word : List Char} (hc : isCapital c = true) (hne : word ≠ [])
      (hword : ∀ c ∈ word, isBody c = true) : IsWord (c :: word)

lemma IsWord.ne_nil {word : List Char} (h : IsWord word) : word ≠ [] := by
  cases h with
  | capitals hne _ => exact hne
  | small hne _ => exact hne
  | titled _ _ _ => exact List.cons_ne_nil _ _

lemma IsWord.forall_isWordChar {word : List Char} (h : IsWord word) :
    ∀ c ∈ word, isWordChar c = true := by
  intro c hc
  cases h with
  | capitals _ hword => simp [isWordChar, hword c hc]
  | small _ hword => simp [isWordChar, hword c hc]
  | titled hfirst _ hword =>
      rcases List.mem_cons.1 hc with rfl | hc
      · simp [isWordChar, hfirst]
      · simp [isWordChar, hword c hc]

/-! ### Readings -/

/-- The word that is taken at the beginning of a text, and what is left behind it.  A run of
capitals stops where no small letter follows, before a capital only if that goes with the small
letters behind it; other words stop before the first character that is no small letter and no
digit. -/
inductive Takes : List Char → List Char → Prop where
  | capitals {word rest : List Char} (hne : word ≠ []) (hword : ∀ c ∈ word, isCapital c = true)
      (hsmall : rest.head?.any isSmall = false)
      (hlongest : ∀ c more, rest = c :: more → isCapital c = true →
        more.head?.any isSmall = true) : Takes word rest
  | small {word rest : List Char} (hne : word ≠ []) (hword : ∀ c ∈ word, isBody c = true)
      (hlongest : rest.head?.any isBody = false) : Takes word rest
  | titled {c first : Char} {word rest : List Char} (hc : isCapital c = true)
      (hfirst : isSmall first = true) (hword : ∀ d ∈ word, isBody d = true)
      (hlongest : rest.head?.any isBody = false) : Takes (c :: first :: word) rest

/-- The words that are read in a text, from the left. -/
inductive Reads : List Char → List (List Char) → Prop where
  | done : Reads [] []
  | skip {c : Char} {rest : List Char} {words : List (List Char)} (hc : isWordChar c = false)
      (hrest : Reads rest words) : Reads (c :: rest) words
  | take {word rest : List Char} {words : List (List Char)} (hword : Takes word rest)
      (hrest : Reads rest words) : Reads (word ++ rest) (word :: words)

lemma Takes.isWord {word rest : List Char} (h : Takes word rest) : IsWord word := by
  cases h with
  | capitals hne hword _ _ => exact .capitals hne hword
  | small hne hword _ => exact .small hne hword
  | titled hc hfirst hword _ =>
      refine .titled hc (List.cons_ne_nil _ _) fun d hd => ?_
      rcases List.mem_cons.1 hd with rfl | hd
      · exact isBody_of_isSmall hfirst
      · exact hword d hd

namespace Reads

lemma isWord {cs : List Char} {words : List (List Char)} (h : Reads cs words) :
    ∀ word ∈ words, IsWord word := by
  induction h with
  | done => simp
  | skip _ _ ih => exact ih
  | take hword _ ih => exact List.forall_mem_cons.2 ⟨hword.isWord, ih⟩

/-- Nothing is lost or put in between the words but what cannot be in one. -/
lemma flatten_eq {cs : List Char} {words : List (List Char)} (h : Reads cs words) :
    words.flatten = cs.filter isWordChar := by
  induction h with
  | done => rfl
  | skip hc _ ih => rw [List.filter_cons_of_neg (by simp [hc]), ih]
  | take hword _ ih =>
      have hself := List.filter_eq_self.2 hword.isWord.forall_isWordChar
      rw [List.flatten_cons, ih, List.filter_append, hself]

end Reads

/-! ### Characters that belong together -/

lemma isWordChar_of_together {c next : Char} {more : List Char}
    (h : together c next more = true) : isWordChar c = true ∧ isWordChar next = true := by
  by_cases hc : isCapital c = true
  · simp only [together, hc, if_true, Bool.or_eq_true, Bool.and_eq_true] at h
    rcases h with h | ⟨h, -⟩
    · simp [isWordChar, hc, isBody_of_isSmall h]
    · simp [isWordChar, hc, h]
  · simp only [together, hc, Bool.false_eq_true, if_false, Bool.and_eq_true] at h
    simp [isWordChar, h]

/-- A word of one character is taken exactly if the next character does not belong to it. -/
lemma takes_singleton_iff {c : Char} {rest : List Char} :
    Takes [c] rest ↔ isWordChar c = true ∧
      ∀ next more, rest = next :: more → together c next more = false := by
  constructor
  · intro h
    refine ⟨h.isWord.forall_isWordChar c (List.mem_singleton_self c), ?_⟩
    rintro next more rfl
    cases h with
    | capitals _ hword hsmall hlongest =>
        have hc : isCapital c = true := hword c (List.mem_singleton_self c)
        have hnext : isSmall next = false := by simpa using hsmall
        simp only [together, hc, if_true, hnext, Bool.false_or, Bool.and_eq_false_imp]
        intro hcapital
        simp [hlongest next more rfl hcapital]
    | small _ hword hlongest =>
        have hc : isBody c = true := hword c (List.mem_singleton_self c)
        have hnext : isBody next = false := by simpa using hlongest
        simp [together, isCapital_of_isBody hc, hnext]
  · rintro ⟨hc, hapart⟩
    by_cases hcapital : isCapital c = true
    · refine .capitals (List.cons_ne_nil _ _) (by simpa using hcapital) ?_ ?_
      · cases rest with
        | nil => rfl
        | cons next more =>
            have hnext := hapart next more rfl
            simp only [together, hcapital, if_true, Bool.or_eq_false_iff] at hnext
            simpa using hnext.1
      · rintro next more rfl hnext
        simpa [together, hcapital, hnext, isSmall_of_isCapital hnext] using hapart next more rfl
    · have hbody : isBody c = true := by simpa [isWordChar, hcapital] using hc
      refine .small (List.cons_ne_nil _ _) (by simpa using hbody) ?_
      cases rest with
      | nil => rfl
      | cons next more => simpa [together, hcapital, hbody] using hapart next more rfl

/-- A longer word is taken exactly if its first two characters belong together and the word without
the first is taken behind it. -/
lemma takes_cons_cons_iff {c next : Char} {word rest : List Char} :
    Takes (c :: next :: word) rest ↔
      together c next (word ++ rest) = true ∧ Takes (next :: word) rest := by
  constructor
  · intro h
    cases h with
    | capitals _ hword hsmall hlongest =>
        obtain ⟨hc, hword⟩ := List.forall_mem_cons.1 hword
        have hnext : isCapital next = true := hword next List.mem_cons_self
        refine ⟨?_, .capitals (List.cons_ne_nil _ _) hword hsmall hlongest⟩
        have hafter : (word ++ rest).head?.any isSmall = false := by
          cases word with
          | nil => exact hsmall
          | cons d word => simpa using isSmall_of_isCapital (hword d (by simp))
        simp only [together, hc, hnext, hafter, if_true, Bool.not_false, Bool.and_self,
          Bool.or_true]
    | small _ hword hlongest =>
        obtain ⟨hc, hword⟩ := List.forall_mem_cons.1 hword
        have hnext : isBody next = true := hword next List.mem_cons_self
        refine ⟨?_, .small (List.cons_ne_nil _ _) hword hlongest⟩
        simp [together, isCapital_of_isBody hc, hc, hnext]
    | titled hc hfirst hword hlongest =>
        refine ⟨by simp [together, hc, hfirst], .small (List.cons_ne_nil _ _) ?_ hlongest⟩
        intro d hd
        rcases List.mem_cons.1 hd with rfl | hd
        · exact isBody_of_isSmall hfirst
        · exact hword d hd
  · rintro ⟨hjoin, h⟩
    by_cases hc : isCapital c = true
    · simp only [together, hc, if_true, Bool.or_eq_true, Bool.and_eq_true,
        Bool.not_eq_true'] at hjoin
      cases h with
      | capitals _ hword hsmall hlongest =>
          exact .capitals (List.cons_ne_nil _ _) (List.forall_mem_cons.2 ⟨hc, hword⟩) hsmall
            hlongest
      | small _ hword hlongest =>
          have hcapital := isCapital_of_isBody (hword next List.mem_cons_self)
          have hsmall : isSmall next = true := by simpa [hcapital] using hjoin
          exact .titled hc hsmall (fun d hd => hword d (List.mem_cons_of_mem next hd)) hlongest
      | titled hnext hfirst _ _ =>
          -- the second capital goes with the small letter behind it
          simp [isSmall_of_isCapital hnext, hfirst] at hjoin
    · simp only [together, hc, Bool.false_eq_true, if_false, Bool.and_eq_true] at hjoin
      have hnext : isCapital next = false := isCapital_of_isBody hjoin.2
      cases h with
      | capitals _ hword _ _ => simp [hword next List.mem_cons_self] at hnext
      | small _ hword hlongest =>
          exact .small (List.cons_ne_nil _ _) (List.forall_mem_cons.2 ⟨hjoin.1, hword⟩) hlongest
      | titled hcapital _ _ _ => simp [hcapital] at hnext

/-! ### The words are those that are read -/

lemma Reads.extend {c next : Char} {more : List Char} {words : List (List Char)}
    (hjoin : together c next more = true) (h : Reads (next :: more) words) :
    Reads (c :: next :: more) (Source.extend c words) := by
  generalize hcs : next :: more = cs at h
  cases h with
  | done => cases hcs
  | skip hnext _ =>
      cases hcs
      simp [(isWordChar_of_together hjoin).2] at hnext
  | @take word rest words hword hrest =>
      cases word with
      | nil => exact absurd rfl hword.isWord.ne_nil
      | cons d word =>
          cases hcs
          exact .take (takes_cons_cons_iff.2 ⟨hjoin, hword⟩) hrest

lemma reads_wordsOf (cs : List Char) : Reads cs (wordsOf cs) := by
  fun_induction wordsOf cs with
  | case1 => exact .done
  | case2 c hc => exact .take (takes_singleton_iff.2 ⟨hc, by simp⟩) .done
  | case3 c hc next more hjoin ih => exact ih.extend hjoin
  | case4 c hc next more hapart ih =>
      have htake : Takes [c] (next :: more) := by
        refine takes_singleton_iff.2 ⟨hc, ?_⟩
        rintro _ _ ⟨⟩
        simpa using hapart
      exact .take htake ih
  | case5 c rest hc ih => exact .skip (by simpa [isWordChar] using hc) ih

lemma wordsOf_skip {c : Char} (hc : isWordChar c = false) (rest : List Char) :
    wordsOf (c :: rest) = wordsOf rest := by
  rw [isWordChar] at hc
  rw [wordsOf.eq_def]
  simp [hc]

lemma wordsOf_take {word rest : List Char} (h : Takes word rest) :
    wordsOf (word ++ rest) = word :: wordsOf rest := by
  induction word with
  | nil => exact absurd rfl h.isWord.ne_nil
  | cons c word ih =>
      have hc : (isCapital c || isBody c) = true :=
        h.isWord.forall_isWordChar c List.mem_cons_self
      cases word with
      | nil =>
          obtain ⟨-, hapart⟩ := takes_singleton_iff.1 h
          cases rest with
          | nil => simp [wordsOf, hc]
          | cons next more => simp [wordsOf, hc, hapart next more rfl]
      | cons next word =>
          obtain ⟨hjoin, hword⟩ := takes_cons_cons_iff.1 h
          have hrest := ih hword
          rw [List.cons_append] at hrest
          simp [wordsOf, hc, hjoin, hrest, extend]

/-- **The words of a text are those that are read in it**, and there is no other reading. -/
lemma reads_iff {cs : List Char} {words : List (List Char)} :
    Reads cs words ↔ words = wordsOf cs := by
  constructor
  · intro h
    induction h with
    | done => rfl
    | skip hc _ ih => rw [wordsOf_skip hc, ih]
    | take hword _ ih => rw [wordsOf_take hword, ih]
  · rintro rfl
    exact reads_wordsOf cs

/-- **Splitting an identifier loses and invents nothing.**  The words put together are the letters
and digits of the text.  Each word is a run of capitals, or small letters and digits that one
capital may precede; so there is no word exactly if there is no letter and no digit.  And the words
are cut where they are read from the left. -/
theorem splitIdentifier_lossless (name : String) :
    (splitIdentifier name).flatMap String.toList = name.toList.filter isWordChar ∧
    (∀ word ∈ splitIdentifier name, word ≠ "" ∧ IsWord word.toList) ∧
    (splitIdentifier name = [] ↔ ∀ c ∈ name.toList, isWordChar c = false) ∧
    ∀ words, Reads name.toList words ↔ words.map String.ofList = splitIdentifier name := by
  have hreads : Reads name.toList (wordsOf name.toList) := reads_wordsOf name.toList
  have hflat : (splitIdentifier name).flatMap String.toList = name.toList.filter isWordChar := by
    rw [← hreads.flatten_eq, splitIdentifier, List.flatMap_map]
    simp
  refine ⟨hflat, fun word hword => ?_, ?_, fun words => ?_⟩
  · obtain ⟨chars, hchars, rfl⟩ := List.mem_map.1 hword
    have hshape : IsWord chars := hreads.isWord chars hchars
    rw [String.toList_ofList]
    exact ⟨by simpa using hshape.ne_nil, hshape⟩
  · constructor
    · intro hnil
      rw [hnil, List.flatMap_nil] at hflat
      simpa using hflat.symm
    · intro hnone
      have hempty : (wordsOf name.toList).flatten = [] := by
        rw [hreads.flatten_eq]
        simpa using hnone
      have hwords : wordsOf name.toList = [] :=
        List.eq_nil_iff_forall_not_mem.2 fun word hword =>
          (hreads.isWord word hword).ne_nil (List.flatten_eq_nil_iff.1 hempty word hword)
      rw [splitIdentifier, hwords, List.map_nil]
  · rw [reads_iff, splitIdentifier]
    have hinj : Function.Injective String.ofList := fun _ _ => String.ofList_injective
    exact (List.map_injective_iff.2 hinj).eq_iff.symm

end Lineage.Source
