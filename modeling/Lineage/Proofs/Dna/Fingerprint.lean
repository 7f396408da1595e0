/-
The characters of fingerprints.

A fingerprint joins a verb, a domain and an entity by colons.  What is inferred brings small letters
and digits only: the verbs and the domains are listed, and the entity is a word of an identifier in
small letters.  So a fingerprint has more colons than the two that join it exactly if an analysis
that came with the atom brings one (`count_colon_fingerprint_eq_two_iff`).
-/
import Lineage.Proofs.Source.Identifier
import Lineage.Proofs.Source.Verb

namespace Lineage

/-! ### Words of identifiers -/

namespace Source

lemma toNat_lt_of_isWordChar {c : Char} (h : isWordChar c = true) : c.toNat < 123 := by
  simp only [isWordChar, isCapital, isBody, isSmall, Bool.or_eq_true, Bool.and_eq_true,
    decide_eq_true_eq] at h
  omega

/-- The small form of a letter or digit is a small letter or a digit. -/
lemma isBody_of_mem_lowerChar {c d : Char} (hc : isWordChar c = true) (hd : d ∈ Text.lowerChar c) :
    isBody d = true := by
  have hall : ∀ n < 123, isWordChar (Char.ofNat n) = true →
      (Text.lowerChar (Char.ofNat n)).all isBody = true := by decide
  have hlower := hall c.toNat (toNat_lt_of_isWordChar hc)
  rw [Char.ofNat_toNat] at hlower
  exact List.all_eq_true.1 (hlower hc) d hd

lemma isBody_of_mem_lowerAfter {before cs : List Char} (hcs : ∀ c ∈ cs, isWordChar c = true) :
    ∀ d ∈ Text.lowerAfter before cs, isBody d = true := by
  induction cs generalizing before with
  | nil => simp [Text.lowerAfter]
  | cons c cs ih =>
      obtain ⟨hc, hrest⟩ := List.forall_mem_cons.1 hcs
      -- no letter of a word is the sigma whose small form depends on its neighbours
      have hsigma : c ≠ 'Σ' := by
        rintro rfl
        exact absurd hc (by decide)
      intro d hd
      rw [Text.lowerAfter, if_neg hsigma, List.mem_append] at hd
      rcases hd with hd | hd
      · exact isBody_of_mem_lowerChar hc hd
      · exact ih hrest d hd

end Source

namespace Dna

/-! ### What is inferred -/

lemma isBody_of_mem_verb (name : String) :
    ∀ c ∈ ((Source.matchVerb name).getD "process").toList, Source.isBody c = true := by
  have hverbs : ∀ verb ∈ Source.verbs, verb.toList.all Source.isBody = true := by decide
  cases hverb : Source.matchVerb name with
  | none => exact List.all_eq_true.1 (by decide)
  | some verb =>
      exact List.all_eq_true.1 (hverbs verb (Source.matchVerb_eq_some_iff.1 hverb).listed)

lemma isBody_of_mem_inferDomain (purpose : Option String) (flow : FlowType) :
    ∀ c ∈ (inferDomain purpose flow).toList, Source.isBody c = true := by
  have hknown : ∀ entry ∈ purposeDomains, entry.2.toList.all Source.isBody = true := by decide
  have hnamed : ∀ domain ∈ namedDomains, domain.toList.all Source.isBody = true := by decide
  have hflow : flow.domain.toList.all Source.isBody = true := by cases flow <;> decide
  rw [← List.all_eq_true, inferDomain]
  cases hpurpose : purpose.bind fun s =>
      purposeDomains.lookup (String.ofList (Text.upper s.toList)) with
  | some domain =>
      obtain ⟨s, -, hlookup⟩ := Option.bind_eq_some_iff.1 hpurpose
      obtain ⟨front, back, hsplit, -⟩ := List.lookup_eq_some_iff.1 hlookup
      have hmem : (String.ofList (Text.upper s.toList), domain) ∈ purposeDomains := by
        rw [hsplit]
        exact List.mem_append_right front List.mem_cons_self
      exact hknown _ hmem
  | none =>
      cases hfind : namedDomains.find? (purposeWords purpose).contains with
      | some domain => exact hnamed domain (List.mem_of_find?_eq_some hfind)
      | none => exact hflow

lemma isBody_of_mem_entityOf (name : String) (verb : Option String) :
    ∀ c ∈ (entityOf name verb).toList, Source.isBody c = true := by
  rw [entityOf]
  split
  · next word hlast =>
      obtain ⟨chars, hchars, rfl⟩ := List.mem_map.1 (List.mem_of_getLast? hlast)
      have hword := (Source.reads_wordsOf _).isWord chars hchars
      rw [String.toList_ofList, String.toList_ofList]
      exact Source.isBody_of_mem_lowerAfter hword.forall_isWordChar
  · exact List.all_eq_true.1 (by decide)

lemma colon_notMem_of_isBody {cs : List Char} (h : ∀ c ∈ cs, Source.isBody c = true) :
    ':' ∉ cs := fun hcolon =>
  absurd (h ':' hcolon) (by decide)

/-- An inferred fingerprint has small letters and digits, and colons that join them. -/
lemma isBody_or_colon_of_mem_inferredFingerprint (a : Atom) (flow : FlowType) :
    ∀ c ∈ (inferredFingerprint a flow).toList, Source.isBody c = true ∨ c = ':' := by
  intro c hc
  simp only [inferredFingerprint, fingerprintText, String.toList_append, List.mem_append] at hc
  rcases hc with (((hc | hc) | hc) | hc) | hc
  · exact Or.inl (isBody_of_mem_verb _ c hc)
  · exact Or.inr (by simpa using hc)
  · exact Or.inl (isBody_of_mem_inferDomain _ _ c hc)
  · exact Or.inr (by simpa using hc)
  · exact Or.inl (isBody_of_mem_entityOf _ _ c hc)

/-! ### Fingerprints -/

lemma count_colon_fingerprintText_eq_two_iff (verb domain entity : String) :
    (fingerprintText verb domain entity).toList.count ':' = 2 ↔
      ':' ∉ verb.toList ∧ ':' ∉ domain.toList ∧ ':' ∉ entity.toList := by
  have hcount : (fingerprintText verb domain entity).toList.count ':' =
      verb.toList.count ':' + domain.toList.count ':' + entity.toList.count ':' + 2 := by
    have hcolon : (":" : String).toList.count ':' = 1 := by decide
    simp only [fingerprintText, String.toList_append, List.count_append, hcolon]
    omega
  rw [hcount, ← List.count_eq_zero, ← List.count_eq_zero, ← List.count_eq_zero]
  omega

lemma colon_mem_givenOr_iff (part : Option String) {other : String} (hother : ':' ∉ other.toList) :
    ':' ∈ (givenOr part other).toList ↔ ∃ s, part = some s ∧ ':' ∈ s.toList := by
  cases part with
  | none => simpa [givenOr, given, isGiven] using hother
  | some s =>
      by_cases hs : s = ""
      · subst hs
        simpa [givenOr, given, isGiven] using hother
      · simp [givenOr, given, isGiven, hs]

/-- An analysis that names a verb came with the atom, and its verb, its domain or its entity has a
colon. -/
def BringsColon (a : Atom) : Prop :=
  ∃ m verb, a.semantic = some m ∧ m.verb = some verb ∧ verb ≠ "" ∧ verb ≠ "unknown" ∧
    (':' ∈ verb.toList ∨ (∃ domain, m.domain = some domain ∧ ':' ∈ domain.toList) ∨
      ∃ entity, m.entity = some entity ∧ ':' ∈ entity.toList)

lemma namedVerb?_eq_some_iff {m : Meaning} {verb : String} :
    namedVerb? m = some verb ↔ m.verb = some verb ∧ verb ≠ "" ∧ verb ≠ "unknown" := by
  rw [namedVerb?]
  cases m.verb with
  | none => simp
  | some v => grind

/-- An inferred fingerprint has the two colons that join it and no other. -/
lemma count_colon_inferredFingerprint (a : Atom) (flow : FlowType) :
    (inferredFingerprint a flow).toList.count ':' = 2 :=
  (count_colon_fingerprintText_eq_two_iff _ _ _).2
    ⟨colon_notMem_of_isBody (isBody_of_mem_verb a.name),
      colon_notMem_of_isBody (isBody_of_mem_inferDomain a.purpose flow),
      colon_notMem_of_isBody (isBody_of_mem_entityOf a.name _)⟩

/-- A fingerprint is the one that an analysis gives, if one came with the atom and names a verb, and
is inferred otherwise. -/
lemma fingerprint_cases (a : Atom) (flow : FlowType) :
    (∃ m verb, a.semantic = some m ∧ m.verb = some verb ∧ verb ≠ "" ∧ verb ≠ "unknown" ∧
      fingerprint a flow =
        fingerprintText verb (givenOr m.domain "core") (givenOr m.entity "unknown")) ∨
    (∀ m verb, a.semantic = some m → m.verb = some verb → verb ≠ "" → verb = "unknown") ∧
      fingerprint a flow = inferredFingerprint a flow := by
  rw [fingerprint]
  cases a.semantic with
  | none => exact Or.inr ⟨by simp, rfl⟩
  | some m =>
      cases hnamed : namedVerb? m with
      | some verb =>
          obtain ⟨hverb, hempty, hunknown⟩ := namedVerb?_eq_some_iff.1 hnamed
          exact Or.inl ⟨m, verb, rfl, hverb, hempty, hunknown, by simp only [hnamed]⟩
      | none =>
          refine Or.inr ⟨?_, by simp only [hnamed]⟩
          rintro _ verb ⟨⟩ hverb hempty
          by_cases hunknown : verb = "unknown"
          · exact hunknown
          · rw [namedVerb?_eq_some_iff.2 ⟨hverb, hempty, hunknown⟩] at hnamed
            cases hnamed

lemma bringsColon_iff {a : Atom} {m : Meaning} {verb : String} (hm : a.semantic = some m)
    (hverb : m.verb = some verb) (hempty : verb ≠ "") (hunknown : verb ≠ "unknown") :
    BringsColon a ↔ ':' ∈ verb.toList ∨ ':' ∈ (givenOr m.domain "core").toList ∨
      ':' ∈ (givenOr m.entity "unknown").toList := by
  rw [colon_mem_givenOr_iff _ (by decide), colon_mem_givenOr_iff _ (by decide)]
  constructor
  · rintro ⟨m', verb', hm', hverb', -, -, hcolon⟩
    obtain rfl := Option.some.inj (hm.symm.trans hm')
    obtain rfl := Option.some.inj (hverb.symm.trans hverb')
    exact hcolon
  · intro hcolon
    exact ⟨m, verb, hm, hverb, hempty, hunknown, hcolon⟩

lemma count_colon_fingerprint_eq_two_iff (a : Atom) (flow : FlowType) :
    (fingerprint a flow).toList.count ':' = 2 ↔ ¬BringsColon a := by
  rcases fingerprint_cases a flow with ⟨m, verb, hm, hverb, hempty, hunknown, hgiven⟩ |
    ⟨hunnamed, hinferred⟩
  · rw [hgiven, count_colon_fingerprintText_eq_two_iff, bringsColon_iff hm hverb hempty hunknown,
      not_or, not_or]
  · rw [hinferred]
    refine iff_of_true (count_colon_inferredFingerprint a flow) ?_
    rintro ⟨m, verb, hm, hverb, hempty, hunknown, -⟩
    exact hunknown (hunnamed m verb hm hverb hempty)

end Dna

end Lineage
