/-
The verb at the beginning of a name.

The verb is looked for in the small form of the name but cut off from the name itself, by its
length.  The two agree although a small form may be longer than the letter it comes from: only the
capital I with a dot becomes two characters, the second of them is in no verb, and no verb ends
between the two (`lowerAfter_take_eq`).  The main statement is `verb_matched_and_cut`.
-/
import Mathlib.Data.List.Basic
import Lineage.Dna.Fingerprint

namespace Lineage

/-! ### Small forms and the letters they come from -/

namespace Text

/-- The first character of a small form, if it is an ASCII one, is all of the small form of the
first letter, or what the capital I with a dot begins with. -/
lemma lowerAfter_cons_cases {before cs word : List Char} {c x : Char} (hx : x.toNat < 128)
    (h : x :: word <+: lowerAfter before (c :: cs)) :
    (c ≠ 'Σ' ∧ lowerChar c = [x] ∧ word <+: lowerAfter (c :: before) cs) ∨
      (x = 'i' ∧ word <+: Char.ofNat 0x307 :: lowerAfter (c :: before) cs) := by
  rw [lowerAfter] at h
  by_cases hsigma : c = 'Σ'
  · -- neither of the two small sigmas is an ASCII character
    rw [if_pos hsigma, List.singleton_append, List.cons_prefix_cons] at h
    have hlarge : ¬x.toNat < 128 := by
      rw [h.1]
      split <;> decide
    exact absurd hx hlarge
  · rw [if_neg hsigma] at h
    by_cases hdot : c.toNat = 0x130
    · rw [lowerChar, if_pos hdot, List.cons_append, List.cons_prefix_cons] at h
      exact Or.inr h
    · have hone : lowerChar c = [Char.ofNat (CaseRun.shift lowerRuns c.toNat)] := if_neg hdot
      rw [hone, List.singleton_append, List.cons_prefix_cons] at h
      exact Or.inl ⟨hsigma, by rw [hone, h.1], h.2⟩

/-- An ASCII word that does not end in `i`, at the beginning of a small form, is the small form of
as many characters, whatever stands around them. -/
lemma lowerAfter_take_eq {word : List Char} (hascii : ∀ c ∈ word, c.toNat < 128)
    (hend : word.getLast? ≠ some 'i') {before cs : List Char} (h : word <+: lowerAfter before cs)
    (before' : List Char) :
    word.length ≤ cs.length ∧ lowerAfter before' (cs.take word.length) = word := by
  induction word generalizing before before' cs with
  | nil => exact ⟨Nat.zero_le _, rfl⟩
  | cons x word ih =>
      obtain ⟨hx, hword⟩ := List.forall_mem_cons.1 hascii
      cases cs with
      | nil => exact absurd (List.prefix_nil.1 h) (List.cons_ne_nil _ _)
      | cons c cs =>
          rcases lowerAfter_cons_cases hx h with ⟨hsigma, hone, hrest⟩ | ⟨rfl, hrest⟩
          · have hend' : word.getLast? ≠ some 'i' := by
              cases word with
              | nil => simp
              | cons y word => simpa using hend
            obtain ⟨hlength, htake⟩ := ih hword hend' hrest (c :: before')
            refine ⟨Nat.succ_le_succ hlength, ?_⟩
            rw [List.length_cons, List.take_succ_cons, lowerAfter, if_neg hsigma, hone, htake]
            rfl
          · -- the word goes on with the dot, or ends in `i`
            cases word with
            | nil => exact absurd rfl hend
            | cons y word =>
                have hy : y = Char.ofNat 0x307 := (List.cons_prefix_cons.1 hrest).1
                have hlarge : ¬(Char.ofNat 0x307).toNat < 128 := by decide
                exact absurd (hy ▸ hword y List.mem_cons_self) hlarge

end Text

namespace Source

/-! ### The longest verb -/

/-- The name begins with the verb, in small letters. -/
def Begins (verb name : String) : Prop :=
  verb.toList <+: Text.lower name.toList

/-- The verb is the longest of those that the name begins with. -/
structure IsLongest (verb name : String) : Prop where
  listed : verb ∈ verbs
  begins : Begins verb name
  longest : ∀ other ∈ verbs, Begins other name → other.length ≤ verb.length

lemma foldl_longer (best : String) (found : List String) :
    ∃ verb, found.foldl longer (some best) = some verb ∧ verb ∈ best :: found ∧
      ∀ other ∈ best :: found, other.length ≤ verb.length := by
  induction found generalizing best with
  | nil => exact ⟨best, rfl, List.mem_singleton_self best, by simp⟩
  | cons next found ih =>
      rw [List.foldl_cons, longer]
      by_cases hlonger : best.length < next.length
      · obtain ⟨verb, hfold, hmem, hlongest⟩ := ih next
        have hnext : next.length ≤ verb.length := hlongest next List.mem_cons_self
        refine ⟨verb, by rw [if_pos hlonger, hfold], List.mem_cons_of_mem best hmem, ?_⟩
        exact List.forall_mem_cons.2 ⟨by omega, hlongest⟩
      · obtain ⟨verb, hfold, hmem, hlongest⟩ := ih best
        have hbest : best.length ≤ verb.length := hlongest best List.mem_cons_self
        refine ⟨verb, by rw [if_neg hlonger, hfold], ?_, ?_⟩
        · rcases List.mem_cons.1 hmem with rfl | hmem
          · exact List.mem_cons_self
          · exact List.mem_cons_of_mem _ (List.mem_cons_of_mem _ hmem)
        · intro other hother
          rcases List.mem_cons.1 hother with rfl | hother
          · exact hbest
          · rcases List.mem_cons.1 hother with rfl | hother
            · omega
            · exact hlongest other (List.mem_cons_of_mem _ hother)

lemma mem_found_iff {verb name : String} :
    verb ∈ (verbs.filter fun verb => verb.toList.isPrefixOf (Text.lower name.toList)) ↔
      verb ∈ verbs ∧ Begins verb name := by
  rw [List.mem_filter, List.isPrefixOf_iff_prefix, Begins]

lemma matchVerb_cases (name : String) :
    (matchVerb name = none ∧ ∀ verb ∈ verbs, ¬Begins verb name) ∨
      ∃ verb, matchVerb name = some verb ∧ IsLongest verb name := by
  rw [matchVerb]
  cases hfound : verbs.filter fun verb => verb.toList.isPrefixOf (Text.lower name.toList) with
  | nil =>
      refine Or.inl ⟨rfl, fun verb hverb hbegins => ?_⟩
      have hmem := mem_found_iff.2 ⟨hverb, hbegins⟩
      rw [hfound] at hmem
      exact absurd hmem List.not_mem_nil
  | cons best found =>
      obtain ⟨verb, hfold, hmem, hlongest⟩ := foldl_longer best found
      rw [← hfound] at hmem hlongest
      obtain ⟨hlisted, hbegins⟩ := mem_found_iff.1 hmem
      refine Or.inr ⟨verb, hfold, hlisted, hbegins, fun other hother hbegins' => ?_⟩
      exact hlongest other (mem_found_iff.2 ⟨hother, hbegins'⟩)

/-- Two verbs that a name begins with are equal if they are equally long. -/
lemma IsLongest.unique {verb verb' name : String} (h : IsLongest verb name)
    (h' : IsLongest verb' name) : verb = verb' := by
  have hle : verb.length ≤ verb'.length := h'.longest verb h.listed h.begins
  have hge : verb'.length ≤ verb.length := h.longest verb' h'.listed h'.begins
  rw [← String.length_toList, ← String.length_toList] at hle hge
  have hfront := List.prefix_of_prefix_length_le h.begins h'.begins hle
  exact String.toList_injective (hfront.eq_of_length_le hge)

lemma matchVerb_eq_some_iff {verb name : String} :
    matchVerb name = some verb ↔ IsLongest verb name := by
  rcases matchVerb_cases name with ⟨hmatch, hnone⟩ | ⟨best, hmatch, hbest⟩
  · rw [hmatch]
    exact iff_of_false (by simp) fun h => hnone verb h.listed h.begins
  · rw [hmatch, Option.some.injEq]
    exact ⟨fun h => h ▸ hbest, fun h => hbest.unique h⟩

lemma matchVerb_eq_none_iff {name : String} :
    matchVerb name = none ↔ ∀ verb ∈ verbs, ¬Begins verb name := by
  rcases matchVerb_cases name with ⟨hmatch, hnone⟩ | ⟨best, hmatch, hbest⟩
  · exact iff_of_true hmatch hnone
  · rw [hmatch]
    exact iff_of_false (by simp) fun h => h best hbest.listed hbest.begins

/-! ### The verb and the rest of the name -/

/-- The verbs are written in ASCII, and none of them ends in `i`. -/
lemma verbs_plain : ∀ verb ∈ verbs,
    (verb.toList.all fun c => c.toNat < 128) = true ∧ verb.toList.getLast? ≠ some 'i' := by
  decide

lemma IsLongest.lower_take {verb name : String} (h : IsLongest verb name) :
    verb.length ≤ name.length ∧ Text.lower (name.toList.take verb.length) = verb.toList := by
  obtain ⟨hall, hend⟩ := verbs_plain verb h.listed
  have hascii : ∀ c ∈ verb.toList, c.toNat < 128 := by simpa using hall
  have haligned := Text.lowerAfter_take_eq hascii hend h.begins []
  rwa [String.length_toList, String.length_toList] at haligned

lemma entityOf_some (name verb : String) :
    Dna.entityOf name (some verb) =
      Dna.entityOf (String.ofList (name.toList.drop verb.length)) none := by
  simp [Dna.entityOf]

/-- **The verb that is found is the verb that is cut off.**  No verb is found exactly if the name
begins with none, in small letters; otherwise it is the longest that the name begins with.  The name
is at least as long as the verb, its first characters, as many as the verb has, are the verb in
small letters, and the entity of a fingerprint comes from the characters behind them. -/
theorem verb_matched_and_cut (name : String) :
    (matchVerb name = none ↔ ∀ verb ∈ verbs, ¬Begins verb name) ∧
    ∀ verb, (matchVerb name = some verb ↔ IsLongest verb name) ∧
      (matchVerb name = some verb →
        verb.length ≤ name.length ∧
        Text.lower (name.toList.take verb.length) = verb.toList ∧
        ∀ (a : Atom) (flow : FlowType), a.name = name →
          Dna.inferredFingerprint a flow = Dna.fingerprintText verb (Dna.inferDomain a.purpose flow)
            (Dna.entityOf (String.ofList (name.toList.drop verb.length)) none)) := by
  refine ⟨matchVerb_eq_none_iff, fun verb => ⟨matchVerb_eq_some_iff, fun hmatch => ?_⟩⟩
  obtain ⟨hlength, hlower⟩ := (matchVerb_eq_some_iff.1 hmatch).lower_take
  refine ⟨hlength, hlower, ?_⟩
  rintro a flow rfl
  rw [Dna.inferredFingerprint, hmatch, ← entityOf_some, Option.getD_some]

/-- A check with the sign of the unit kelvin, whose small form is the letter k, for its k. -/
def kelvinCheck : String := "Chec\u212aState"

/-- The sign is found and cut off as the letter that it stands for. -/
theorem verb_matched_and_cut_kelvin :
    matchVerb kelvinCheck = some "check" ∧
      Text.lower (kelvinCheck.toList.take 5) = "check".toList :=
  have hmatch : matchVerb kelvinCheck = some "check" := by decide
  ⟨hmatch, (((verb_matched_and_cut kelvinCheck).2 "check").2 hmatch).2.1⟩

end Source

end Lineage
