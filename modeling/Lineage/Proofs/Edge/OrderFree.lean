/-
Edges that do not depend on the order of the atoms.

Of the three rules that choose the callee of a call, the first and the last look at the order of the
candidates.  The candidates for a call are unambiguous if one of the rules is decided by a single
candidate.  Of unambiguous candidates the same one is chosen in every order (`choose_eq_of_perm`),
so the edges of a caller whose calls are all unambiguous depend on nothing but which candidates
there are (`leaving_order_free`).
-/
import Mathlib.Data.List.Count
import Lineage.Proofs.Edge.Resolution

namespace Lineage.Edge

/-- Candidates of which one stands out in any order: the only imported one, or without imported ones
the only exported one, or the only one of all. -/
def Unambiguous (caller : Atom) (candidates : List Atom) : Prop :=
  candidates.countP (isImported caller) = 1 ∨
    candidates.countP (isImported caller) = 0 ∧ candidates.countP Atom.isExported = 1 ∨
      candidates.length ≤ 1

instance (caller : Atom) (candidates : List Atom) : Decidable (Unambiguous caller candidates) :=
  inferInstanceAs (Decidable (_ ∨ _))

/-- An atom that some call of the caller may mean. -/
def Concerns (caller a : Atom) : Prop :=
  ∃ call ∈ caller.calls, Meant caller call a

instance (caller : Atom) : DecidablePred (Concerns caller) :=
  fun a => inferInstanceAs (Decidable (∃ call ∈ caller.calls, Meant caller call a))

/-! ### One call -/

/-- A single member with a property is the single member with it in every order. -/
lemma exists_filter_eq_of_perm {p : Atom → Bool} {as bs : List Atom} (hperm : as.Perm bs)
    (hone : as.countP p = 1) : ∃ a, as.filter p = [a] ∧ bs.filter p = [a] := by
  rw [List.countP_eq_length_filter, List.length_eq_one_iff] at hone
  obtain ⟨a, ha⟩ := hone
  have hfilter := hperm.filter p
  rw [ha] at hfilter
  exact ⟨a, ha, (List.singleton_perm.1 hfilter).symm⟩

variable {caller : Atom}

/-- Of unambiguous candidates the same one is chosen in every order, without a remark. -/
lemma choose_eq_of_perm {first first' : Atom} {others others' : List Atom}
    (hperm : (first :: others).Perm (first' :: others'))
    (h : Unambiguous caller (first :: others)) :
    choose caller first others = choose caller first' others' := by
  rcases h with himported | ⟨hnone, hexported⟩ | hshort
  · obtain ⟨a, ha, ha'⟩ := exists_filter_eq_of_perm hperm himported
    have hfind : (first :: others).find? (isImported caller) = some a := by
      rw [← List.head?_filter, ha, List.head?_cons]
    have hfind' : (first' :: others').find? (isImported caller) = some a := by
      rw [← List.head?_filter, ha', List.head?_cons]
    simp only [choose, hfind, hfind']
  · obtain ⟨a, ha, ha'⟩ := exists_filter_eq_of_perm hperm hexported
    have hnone' : (first' :: others').countP (isImported caller) = 0 :=
      (hperm.countP_eq _).symm.trans hnone
    rw [List.countP_eq_zero, ← List.find?_eq_none] at hnone hnone'
    simp only [choose, hnone, hnone', ha, ha']
  · -- a list of one has no other order
    have hnil : others = [] := List.length_eq_zero_iff.1 (by simpa using hshort)
    subst hnil
    have hsame := List.singleton_perm.1 hperm
    cases hsame
    rfl

/-- The edge of a call does not depend on the order of unambiguous candidates. -/
lemma ofCall_eq_of_perm {A B : List Atom} {call : CallSite}
    (hperm : (A.filter (Meant caller call ·)).Perm (B.filter (Meant caller call ·)))
    (h : Unambiguous caller (A.filter (Meant caller call ·))) :
    ofCall (.ofAtoms A) caller call = ofCall (.ofAtoms B) caller call := by
  rw [ofCall, ofCall, candidates_ofAtoms, candidates_ofAtoms]
  generalize A.filter (Meant caller call ·) = as at hperm h ⊢
  generalize B.filter (Meant caller call ·) = bs at hperm ⊢
  cases as with
  | nil => rw [List.nil_perm.1 hperm]
  | cons first others =>
      cases bs with
      | nil => exact absurd (List.perm_nil.1 hperm) (List.cons_ne_nil first others)
      | cons first' others' => simp only [choose_eq_of_perm hperm h]

/-! ### All calls of a caller -/

lemma fromCalls_congr {index index' : NameIndex} {calls : List CallSite}
    (h : ∀ call ∈ calls, ofCall index caller call = ofCall index' caller call) :
    fromCalls index caller calls = fromCalls index' caller calls := by
  induction calls with
  | nil => rfl
  | cons call calls ih =>
      rw [fromCalls, fromCalls, h call List.mem_cons_self,
        ih fun call' hcall => h call' (List.mem_cons_of_mem call hcall)]

lemma leaving_eq_of_perm {A B : List Atom}
    (hone : ∀ call ∈ caller.calls, Unambiguous caller (A.filter (Meant caller call ·)))
    (hperm : ∀ call ∈ caller.calls,
      (A.filter (Meant caller call ·)).Perm (B.filter (Meant caller call ·))) :
    leaving A caller = leaving B caller :=
  fromCalls_congr fun call hcall => ofCall_eq_of_perm (hperm call hcall) (hone call hcall)

/-- The atoms that a call means are among those that concern its caller. -/
lemma filter_meant_filter_concerns (atoms : List Atom) {call : CallSite}
    (hcall : call ∈ caller.calls) :
    (atoms.filter (Concerns caller ·)).filter (Meant caller call ·) =
      atoms.filter (Meant caller call ·) := by
  rw [List.filter_filter]
  refine List.filter_congr fun a _ => ?_
  have hconcerns : Meant caller call a → Concerns caller a := fun hmeant => ⟨call, hcall, hmeant⟩
  rw [← Bool.decide_and, decide_eq_decide]
  exact and_iff_left_of_imp hconcerns

/-- **The edges of an unambiguous caller do not depend on the order of the atoms.**  They are the
same, and come with the same notices, for all lists that have the same candidates for each call; so
for the atoms in another order, and with atoms added or removed that do not concern the caller. -/
theorem leaving_order_free (caller : Atom) (A B : List Atom)
    (hone : ∀ call ∈ caller.calls, Unambiguous caller (A.filter (Meant caller call ·))) :
    ((∀ call ∈ caller.calls,
        (A.filter (Meant caller call ·)).Perm (B.filter (Meant caller call ·))) →
      leaving A caller = leaving B caller) ∧
    (A.Perm B → leaving A caller = leaving B caller) ∧
    (A.filter (Concerns caller ·) = B.filter (Concerns caller ·) →
      leaving A caller = leaving B caller) := by
  refine ⟨leaving_eq_of_perm hone, fun hperm => ?_, fun hsame => ?_⟩
  · exact leaving_eq_of_perm hone fun call _ => hperm.filter _
  · refine leaving_eq_of_perm hone fun call hcall => ?_
    rw [← filter_meant_filter_concerns A hcall, hsame, filter_meant_filter_concerns B hcall]

/-- Each rule gives the caller one edge, in either order of the atoms. -/
theorem leaving_order_free_hub :
    (∀ call ∈ hub.calls, Unambiguous hub (hubAtoms.filter (Meant hub call ·))) ∧
      (leaving hubAtoms hub).value.map Edge.calleeId = ["lib/b.js::f", "d.js::g", "d.js::h"] ∧
      leaving hubAtoms hub = leaving hubAtoms.reverse hub := by
  have hone : ∀ call ∈ hub.calls, Unambiguous hub (hubAtoms.filter (Meant hub call ·)) := by
    decide +kernel
  exact ⟨hone, by decide +kernel,
    (leaving_order_free hub hubAtoms hubAtoms.reverse hone).2.1 (List.reverse_perm hubAtoms).symm⟩

end Lineage.Edge
