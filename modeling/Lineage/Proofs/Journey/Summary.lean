/-
The summary of a journey.

The table of a summary is filled step by step, and a key comes where its depth is first met.  That
the keys are the levels of the journey, in ascending order and with no gap, is not the table's
doing: the walk goes down one level at a time, so each step is on the first level or one level below
a step before it (`climbs_depths`), and numbers that climb like this first come in their natural
order (`Climbs.exists_distinct`).  The summary then tells of every step once, under its level
(`ofSteps_partitions_trace`).
-/
import Mathlib.Order.Bounds.Basic
import Lineage.Journey.Summary
import Lineage.Proofs.Journey.Chain

namespace Lineage

namespace Journey

/-! ### Levels -/

/-- The levels of a journey that is `n` levels deep, from the first on. -/
def levels (n : Nat) : List Int := (List.range' 1 n).map Nat.cast

lemma mem_levels {n : Nat} {d : Int} : d ∈ levels n ↔ 1 ≤ d ∧ d ≤ n := by
  simp only [levels, List.mem_map, List.mem_range'_1]
  constructor
  · rintro ⟨i, hi, rfl⟩
    omega
  · intro hd
    exact ⟨d.toNat, by omega, by omega⟩

lemma levels_succ (n : Nat) : levels (n + 1) = levels n ++ [(n + 1 : Int)] := by
  simp [levels, List.range'_1_concat, Int.add_comm]

/-- Depths that climb from the first level: each is one, or one more than a depth before it. -/
def Climbs (ds : List Int) : Prop :=
  ∀ front d back, ds = front ++ d :: back → d = 1 ∨ ∃ e ∈ front, d = e + 1

lemma Climbs.of_append {ds more : List Int} (h : Climbs (ds ++ more)) : Climbs ds := by
  intro front d back hsplit
  exact h front d (back ++ more) (by simp [hsplit])

/-- Depths that climb are first met in ascending order, with no gap. -/
lemma Climbs.exists_distinct {ds : List Int} (h : Climbs ds) :
    ∃ n, Assoc.distinct ds = levels n := by
  induction ds using List.reverseRecOn with
  | nil => exact ⟨0, rfl⟩
  | append_singleton ds d ih =>
      obtain ⟨n, hn⟩ := ih h.of_append
      have hmem : ∀ e, e ∈ ds ↔ 1 ≤ e ∧ e ≤ n := by
        intro e
        rw [← Assoc.mem_distinct, hn, mem_levels]
      have hlast : Assoc.distinct (ds ++ [d]) =
          if d ∈ ds then Assoc.distinct ds else Assoc.distinct ds ++ [d] :=
        Assoc.distinct_append_same ds [d] (by simp) (by simp)
      by_cases hd : d ∈ ds
      · exact ⟨n, by rw [hlast, if_pos hd, hn]⟩
      · -- a depth that is new is the next one
        have hnext : d = n + 1 := by
          rw [hmem] at hd
          rcases h ds d [] rfl with hone | ⟨e, he, hde⟩
          · omega
          · rw [hmem] at he
            omega
        exact ⟨n + 1, by rw [hlast, if_neg hd, hn, hnext, levels_succ]⟩

/-- The depths of a journey climb: each step leaves the start or goes on from a step before it. -/
lemma climbs_depths (atoms : List Atom) (known : List (String × Atom)) (start var : String)
    (maxDepth : Int) :
    Climbs ((trace (EdgeMap.ofAtoms atoms) known start var maxDepth).map (·.hop.depth)) := by
  have hfiled := EdgeMap.filed_ofAtoms atoms
  intro front d back hsplit
  obtain ⟨before, rest, hsteps, rfl, hrest⟩ := List.map_eq_append_iff.1 hsplit
  obtain ⟨s, after, rfl, rfl, rfl⟩ := List.map_eq_cons_iff.1 hrest
  obtain ⟨a, ha, -, hsa⟩ := exists_onCourse hfiled hsteps
  have hdepth : s.hop.depth = a.depth := depth_stepsFrom hsa
  rcases start_or_behind hfiled hsteps ha with rfl | ⟨p, hp, -, -, hpdepth⟩
  · exact Or.inl hdepth
  · exact Or.inr ⟨p.hop.depth, List.mem_map.2 ⟨p, hp, rfl⟩, hdepth.trans hpdepth⟩

end Journey

namespace JourneySummary

open Journey (levels mem_levels Climbs climbs_depths)

/-! ### The fields of a summary -/

lemma isGreatest_greatestDepth (first : Hop) (others : List Hop) :
    IsGreatest {d | ∃ h ∈ first :: others, h.depth = d} (greatestDepth first others) := by
  induction others using List.reverseRecOn with
  | nil => simp [greatestDepth, IsGreatest, upperBounds]
  | append_singleton others h ih =>
      obtain ⟨⟨g, hg, hgdepth⟩, hbound⟩ := ih
      have hlast : greatestDepth first (others ++ [h]) =
          max (greatestDepth first others) h.depth := by
        simp [greatestDepth]
      rw [hlast, ← List.cons_append]
      constructor
      · rcases le_total h.depth (greatestDepth first others) with hle | hle
        · exact ⟨g, List.mem_append_left [h] hg, by rw [max_eq_left hle, hgdepth]⟩
        · exact ⟨h, by simp, (max_eq_right hle).symm⟩
      · rintro d ⟨k, hk, rfl⟩
        rcases List.mem_append.1 hk with hk | hk
        · exact le_max_of_le_left (hbound ⟨k, hk, rfl⟩)
        · obtain rfl := List.mem_singleton.1 hk
          exact le_max_right _ _

lemma isGreatest_maxDepthReached {hops : List Hop} (hne : hops ≠ []) :
    IsGreatest {d | ∃ h ∈ hops, h.depth = d} (ofHops hops).maxDepthReached := by
  cases hops with
  | nil => exact absurd rfl hne
  | cons first others => exact isGreatest_greatestDepth first others

lemma totalSteps_ofHops (hops : List Hop) : (ofHops hops).totalSteps = hops.length := by
  cases hops <;> rfl

lemma byDepth_ofHops (hops : List Hop) :
    (ofHops hops).byDepth =
      (Assoc.groups Hop.depth hops).map fun entry => (entry.1, entry.2.map Hop.line) := by
  have hlines : (ofHops hops).byDepth = linesByDepth hops := by cases hops <;> rfl
  rw [hlines]
  exact Assoc.foldl_append_eq_groups Hop.line hops

lemma keys_byDepth (hops : List Hop) :
    (ofHops hops).byDepth.map Prod.fst = Assoc.distinct (hops.map Hop.depth) := by
  rw [byDepth_ofHops, List.map_map, ← Assoc.keys_groups]
  rfl

lemma sum_length_byDepth (hops : List Hop) :
    ((ofHops hops).byDepth.map fun entry => entry.2.length).sum = hops.length := by
  have hlength : (ofHops hops).byDepth.map (fun entry => entry.2.length) =
      (Assoc.groups Hop.depth hops).map fun entry => entry.2.length := by
    simp [byDepth_ofHops, Function.comp_def]
  rw [hlength, Assoc.sum_length_groups]

lemma uniqueFunctions_ofHops (hops : List Hop) :
    (ofHops hops).uniqueFunctions = (hops.map Hop.calleeId).toFinset.card := by
  rw [← Assoc.length_distinct]
  cases hops <;> rfl

lemma uniqueFiles_ofHops (hops : List Hop) :
    (ofHops hops).uniqueFiles = (hops.map Hop.calleeFile).toFinset.card := by
  rw [← Assoc.length_distinct]
  cases hops <;> rfl

/-- Where the depths climb, the keys of the table are the levels down to the deepest. -/
lemma keys_byDepth_of_climbs {hops : List Hop} (h : Climbs (hops.map Hop.depth)) :
    (ofHops hops).byDepth.map Prod.fst = levels (ofHops hops).maxDepthReached.toNat := by
  obtain ⟨n, hn⟩ := h.exists_distinct
  have hmem : ∀ d, (∃ h ∈ hops, h.depth = d) ↔ 1 ≤ d ∧ d ≤ n := by
    intro d
    rw [← List.mem_map, ← Assoc.mem_distinct, hn, mem_levels]
  have hdeepest : (ofHops hops).maxDepthReached.toNat = n := by
    cases hops with
    | nil =>
        have hnone : ¬ (1 ≤ (n : Int) ∧ (n : Int) ≤ n) := by
          rw [← hmem]
          simp
        show 0 = n
        omega
    | cons first others =>
        obtain ⟨hreached, hbound⟩ := isGreatest_maxDepthReached (List.cons_ne_nil first others)
        have hrange := (hmem _).1 hreached
        have hlevel := hbound ((hmem n).2 (by omega))
        omega
  rw [keys_byDepth, hn, hdeepest]

/-! ### The steps of a journey, level by level -/

/-- A summary that tells of each step once, under its level.  The levels are those from the first
down to the deepest that was reached, in ascending order; under each stand the lines of its steps,
in their order; and the steps, the functions and the files that they lead to are counted. -/
structure Partitions (s : JourneySummary) (steps : List JourneyStep) : Prop where
  totalSteps : s.totalSteps = steps.length
  deepest_of_nil : steps = [] → s.maxDepthReached = 0
  deepest : steps ≠ [] → IsGreatest {d | ∃ t ∈ steps, t.hop.depth = d} s.maxDepthReached
  keys : s.byDepth.map Prod.fst = levels s.maxDepthReached.toNat
  entry : ∀ entry ∈ s.byDepth,
    entry.2 = (steps.filter (·.hop.depth = entry.1)).map (·.hop.line)
  sum_length : (s.byDepth.map fun entry => entry.2.length).sum = s.totalSteps
  uniqueFunctions : s.uniqueFunctions = (steps.map (·.hop.calleeId)).toFinset.card
  uniqueFunctions_le : s.uniqueFunctions ≤ s.totalSteps
  uniqueFiles : s.uniqueFiles = (steps.map (·.hop.calleeFile)).toFinset.card
  uniqueFiles_le : s.uniqueFiles ≤ s.totalSteps

/-- **The summary of a journey partitions its steps by their level**, for every journey along the
calls between any atoms, whichever of them are known. -/
theorem ofSteps_partitions_trace (atoms : List Atom) (known : List (String × Atom))
    (start var : String) (maxDepth : Int) :
    Partitions (ofSteps (Journey.trace (EdgeMap.ofAtoms atoms) known start var maxDepth))
      (Journey.trace (EdgeMap.ofAtoms atoms) known start var maxDepth) := by
  have hclimbs := climbs_depths atoms known start var maxDepth
  generalize Journey.trace (EdgeMap.ofAtoms atoms) known start var maxDepth = steps at hclimbs ⊢
  have htotal : (ofSteps steps).totalSteps = steps.length := by
    rw [ofSteps, totalSteps_ofHops, List.length_map]
  have hfunctions : (ofSteps steps).uniqueFunctions =
      (steps.map (·.hop.calleeId)).toFinset.card := by
    rw [ofSteps, uniqueFunctions_ofHops, List.map_map]
    rfl
  have hfiles : (ofSteps steps).uniqueFiles = (steps.map (·.hop.calleeFile)).toFinset.card := by
    rw [ofSteps, uniqueFiles_ofHops, List.map_map]
    rfl
  constructor
  case totalSteps => exact htotal
  case deepest_of_nil =>
    rintro rfl
    rfl
  case deepest =>
    intro hne
    have hgreatest : IsGreatest {d | ∃ h ∈ steps.map JourneyStep.hop, h.depth = d}
        (ofSteps steps).maxDepthReached :=
      isGreatest_maxDepthReached (by simpa using hne)
    simpa using hgreatest
  case keys =>
    refine keys_byDepth_of_climbs ?_
    rw [List.map_map]
    exact hclimbs
  case entry =>
    intro entry hentry
    rw [ofSteps, byDepth_ofHops] at hentry
    obtain ⟨group, hgroup, rfl⟩ := List.mem_map.1 hentry
    rw [Assoc.snd_of_mem_groups hgroup, List.filter_map, List.map_map]
    rfl
  case sum_length =>
    rw [htotal, ofSteps, sum_length_byDepth, List.length_map]
  case uniqueFunctions => exact hfunctions
  case uniqueFunctions_le =>
    rw [hfunctions, htotal]
    simpa using List.toFinset_card_le (steps.map (·.hop.calleeId))
  case uniqueFiles => exact hfiles
  case uniqueFiles_le =>
    rw [hfiles, htotal]
    simpa using List.toFinset_card_le (steps.map (·.hop.calleeFile))

end JourneySummary

end Lineage
