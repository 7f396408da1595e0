/-
Journeys under two depth limits.

A deeper limit does not only add to a journey.  The walk goes on from an atom once, at the first
arrival there, and under a deeper limit another arrival may come first: one with another name for
the variable, or one that is further from the start.  This file shows that a hop can be lost in this
way (`link_lost_twoWays`) and that it can be lost in no other (`link_lost_only_by_diversion`).
-/
import Mathlib.Tactic.ByContra
import Lineage.Proofs.Journey.FirstArrival

namespace Lineage

/-- What a hop says of the program, whatever way the journey came: who calls whom, on which line,
and what the variable is called on both sides. -/
structure Link where
  callerId : String
  calleeId : String
  callSite : Int
  variableIn : String
  parameterIn : String
deriving DecidableEq, Repr

/-- The link of a hop. -/
def Hop.link (h : Hop) : Link :=
  ⟨h.callerId, h.calleeId, h.callSite, h.variableIn, h.parameterIn⟩

namespace Journey

/-- The links of steps, in order. -/
def links (steps : List JourneyStep) : List Link :=
  steps.map fun s => s.hop.link

/-- The journey along the calls between the given atoms. -/
def among (atoms : List Atom) (start var : String) (maxDepth : Int) : List JourneyStep :=
  trace (EdgeMap.ofAtoms atoms) (Atom.index atoms) start var maxDepth

/-- The first arrival at an atom on the journey along the calls between the given atoms. -/
def arrivalAmong? (atoms : List Atom) (start var : String) (maxDepth : Int) (id : String) :
    Option Arrival :=
  firstArrival? start var maxDepth (among atoms start var maxDepth) id

/-- A deeper limit loses a link: under two levels `c` is reached as `q` and leads on to `d`, and
under three it is reached as `r` first. -/
theorem link_lost_twoWays :
    ¬ ∀ (atoms : List Atom) (start var : String) (k k' : Int), k ≤ k' →
      ∀ l ∈ links (among atoms start var k), l ∈ links (among atoms start var k') := by
  intro h
  have hlost := h twoWays "a" "x" 2 3 (by decide) ⟨"c", "d", 1, "q", "z"⟩ (by decide +kernel)
  exact absurd hlost (by decide +kernel)

/-! ### The arrival at the caller of a step -/

section Arrivals

variable {edges : EdgeMap} {known : List (String × Atom)} {start var : String} {maxDepth : Int}

lemma firstArrival?_start (limit : Int) (steps : List JourneyStep) :
    firstArrival? start var limit steps start = some ⟨start, var, 1, []⟩ := by
  simp [firstArrival?]

/-- A first arrival other than at the start is behind a step. -/
lemma exists_step_of_firstArrival? {limit : Int} {steps : List JourneyStep} {id : String}
    {a : Arrival} (h : firstArrival? start var limit steps id = some a) (hid : id ≠ start) :
    ∃ s ∈ steps, s.hop.depth < limit ∧ Arrival.behind s = a := by
  have hne : ¬ start = id := fun h => hid h.symm
  rw [firstArrival?, List.find?_cons_of_neg (by simpa using hne)] at h
  exact mem_arrivals.1 (List.mem_of_find?_eq_some h)

end Arrivals

/-! ### Two limits -/

/-- Whether the journey under the limit `k'` first arrives at an atom in a worse way than under `k`:
under another name, or with fewer levels left below it. -/
def Diverted (atoms : List Atom) (start var : String) (k k' : Int) (id : String) : Prop :=
  ∃ a a', arrivalAmong? atoms start var k id = some a ∧
    arrivalAmong? atoms start var k' id = some a' ∧
      (a'.var ≠ a.var ∨ k' - a'.depth < k - a.depth)

variable {atoms : List Atom} {start var : String} {k k' : Int}

/-- The first arrival at the caller of a step, and what the step takes from it. -/
lemma exists_arrivalAmong? {s : JourneyStep} (hs : s ∈ among atoms start var k) :
    ∃ a, arrivalAmong? atoms start var k s.hop.callerId = some a ∧ s.hop.variableIn = a.var ∧
      s.hop.depth = a.depth ∧ s.path = a.path ++ [s.hop.callerId] := by
  obtain ⟨a, ha, p, hp, rfl⟩ := exists_arrival_of_mem_trace (EdgeMap.filed_ofAtoms atoms) hs
  exact ⟨a, ha, rfl, rfl, rfl⟩

/-- Where the other journey goes on from the caller of a step under the same name, it has a step
with the same link. -/
lemma exists_same_link {s : JourneyStep} (hs : s ∈ among atoms start var k) (hk : 1 ≤ k')
    {a' : Arrival} (ha' : arrivalAmong? atoms start var k' s.hop.callerId = some a')
    (hvar : a'.var = s.hop.variableIn) :
    ∃ t ∈ among atoms start var k', t.hop.link = s.hop.link ∧ t.hop.depth = a'.depth := by
  have hfiled := EdgeMap.filed_ofAtoms atoms
  obtain ⟨a, ha, p, hp, rfl⟩ := exists_arrival_of_mem_trace hfiled hs
  have hp' : p ∈ passages (EdgeMap.ofAtoms atoms) (Atom.index atoms) p.1.callerId a'.var := by
    rw [hvar]
    exact hp
  refine ⟨_, step_mem_trace hfiled hk ha' hp', ?_, rfl⟩
  rw [hvar]
  rfl

/-- A link is kept exactly where the other journey goes on from its caller under the same name. -/
lemma link_mem_links_iff {s : JourneyStep} (hs : s ∈ among atoms start var k) (hk : 1 ≤ k') :
    s.hop.link ∈ links (among atoms start var k') ↔
      ∃ a', arrivalAmong? atoms start var k' s.hop.callerId = some a' ∧
        a'.var = s.hop.variableIn := by
  constructor
  · intro h
    obtain ⟨t, ht, hlink⟩ := List.mem_map.1 h
    obtain ⟨a', ha', hvar, -, -⟩ := exists_arrivalAmong? ht
    have hcaller : t.hop.callerId = s.hop.callerId := congrArg Link.callerId hlink
    have hin : t.hop.variableIn = s.hop.variableIn := congrArg Link.variableIn hlink
    exact ⟨a', hcaller ▸ ha', hvar ▸ hin⟩
  · rintro ⟨a', ha', hvar⟩
    obtain ⟨t, ht, hlink, -⟩ := exists_same_link hs hk ha' hvar
    exact List.mem_map.2 ⟨t, ht, hlink⟩

/-- Where the journey is not diverted at an atom, it arrives there under the same name and with no
fewer levels left. -/
lemma var_eq_of_not_diverted {id : String} (h : ¬ Diverted atoms start var k k' id) {a a' : Arrival}
    (ha : arrivalAmong? atoms start var k id = some a)
    (ha' : arrivalAmong? atoms start var k' id = some a') :
    a'.var = a.var ∧ k - a.depth ≤ k' - a'.depth := by
  constructor
  · by_contra hne
    exact h ⟨a, a', ha, ha', Or.inl hne⟩
  · by_contra hlt
    exact h ⟨a, a', ha, ha', Or.inr (by omega)⟩

/-- Without a diversion on its path, the caller of a step is reached under the deeper limit too,
under the same name and with no fewer levels left. -/
lemma arrival_kept (hk : k ≤ k') {s : JourneyStep} (hs : s ∈ among atoms start var k)
    (hpath : ∀ id ∈ s.path, ¬ Diverted atoms start var k k' id) :
    ∃ a', arrivalAmong? atoms start var k' s.hop.callerId = some a' ∧
      a'.var = s.hop.variableIn ∧ k - s.hop.depth ≤ k' - a'.depth := by
  -- induction on the path: the step by which its caller was reached has a shorter one
  induction hn : s.path.length using Nat.strongRecOn generalizing s with
  | _ n ih =>
      obtain ⟨a, ha, hvar, hdepth, hspath⟩ := exists_arrivalAmong? hs
      by_cases hstart : s.hop.callerId = start
      · -- both journeys are at the start first of all
        rw [hstart, arrivalAmong?, firstArrival?_start] at ha
        cases ha
        rw [hstart, arrivalAmong?, firstArrival?_start]
        exact ⟨_, rfl, hvar.symm, by simp only at hdepth ⊢; omega⟩
      · obtain ⟨t, ht, htlt, rfl⟩ := exists_step_of_firstArrival? ha hstart
        have htpath : s.path = t.path ++ [s.hop.callerId] := hspath
        have htcallee : t.hop.calleeId = s.hop.callerId := id_of_firstArrival? ha
        have hlen : t.path.length < n := by
          rw [← hn, htpath, List.length_append, List.length_singleton]
          omega
        obtain ⟨b', hb', hbvar, hbdepth⟩ := ih _ hlen ht
          (fun id hid => hpath id (htpath ▸ List.mem_append_left _ hid)) rfl
        -- the step is there under the deeper limit too, and not on the last level
        obtain ⟨t', ht', hlink, ht'depth⟩ :=
          exists_same_link ht (Int.le_trans (one_le_of_mem_trace hs) hk) hb' hbvar
        have ht'callee : t'.hop.calleeId = s.hop.callerId :=
          (congrArg Link.calleeId hlink).trans htcallee
        have harrived : Expanded start k' (among atoms start var k') s.hop.callerId :=
          Or.inr ⟨t', ht', ht'callee, by omega⟩
        rw [← firstArrival?_isSome_iff start var] at harrived
        obtain ⟨a', ha'⟩ := Option.isSome_iff_exists.1 harrived
        have hsame : ¬ Diverted atoms start var k k' s.hop.callerId :=
          hpath _ (by rw [htpath]; simp)
        obtain ⟨hvar', hroom⟩ := var_eq_of_not_diverted hsame ha ha'
        exact ⟨a', ha', hvar'.trans hvar.symm, by rw [hdepth]; exact hroom⟩

/-- **What a deeper limit can lose.**  A link of a journey is a link of the journey under a deeper
limit exactly where that journey goes on from its caller under the same name; and where it is lost,
the deeper journey was diverted at an atom on the way to it: it first arrives there under another
name, or with fewer levels left below. -/
theorem link_lost_only_by_diversion (atoms : List Atom) (start var : String) (k k' : Int)
    (hk : k ≤ k') (s : JourneyStep) (hs : s ∈ among atoms start var k) :
    (s.hop.link ∈ links (among atoms start var k') ↔
      ∃ a', arrivalAmong? atoms start var k' s.hop.callerId = some a' ∧
        a'.var = s.hop.variableIn) ∧
    (s.hop.link ∉ links (among atoms start var k') →
      ∃ id ∈ s.path, Diverted atoms start var k k' id) := by
  have hkept := link_mem_links_iff hs (Int.le_trans (one_le_of_mem_trace hs) hk)
  refine ⟨hkept, fun hlost => ?_⟩
  by_contra hnone
  have hpath : ∀ id ∈ s.path, ¬ Diverted atoms start var k k' id :=
    fun id hid hdiv => hnone ⟨id, hid, hdiv⟩
  obtain ⟨a', ha', hvar, -⟩ := arrival_kept hk hs hpath
  exact hlost (hkept.2 ⟨a', ha', hvar⟩)

/-- The link that three levels lose is one behind `c`, where the journey is diverted. -/
theorem link_lost_only_by_diversion_twoWays :
    (2 : Int) ≤ 3 ∧ ∃ s ∈ among twoWays "a" "x" 2,
      s.hop.link ∉ links (among twoWays "a" "x" 3) ∧
        ∃ id ∈ s.path, Diverted twoWays "a" "x" 2 3 id := by
  have hmem : (⟨"c", "d", 1, "q", "z"⟩ : Link) ∈ links (among twoWays "a" "x" 2) := by
    decide +kernel
  have hlost : (⟨"c", "d", 1, "q", "z"⟩ : Link) ∉ links (among twoWays "a" "x" 3) := by
    decide +kernel
  obtain ⟨s, hs, hlink⟩ := List.mem_map.1 hmem
  rw [← hlink] at hlost
  exact ⟨by decide, s, hs, hlost,
    (link_lost_only_by_diversion twoWays "a" "x" 2 3 (by decide) s hs).2 hlost⟩

end Journey

end Lineage
