/-
Test scaffolding scores lower than other code.

The duplicability of an atom is a sum of penalties and rewards, brought into the range from zero to
a hundred.  All that a test callback changes in the sum is a penalty of its own
(`duplicability_eq`).
The rewards can bring the rest to a hundred and fifty (`plainSum_le`), of which the range cuts off
fifty; but a test loses sixty, so the difference always shows, unless nothing was left to lose.
-/
import Mathlib.Tactic.SplitIfs
import Lineage.Dna.Extract
import Lineage.Proofs.Schema.RoundTrip

namespace Lineage

/-- The atom as a test callback of the given type, or as none; all else stays as it is. -/
def Atom.asCallback (a : Atom) (isTest : Bool) (type : Option String) : Atom :=
  { a with isTestCallback := isTest, testCallbackType := type }

namespace Dna.Score

/-! ### The sum behind the score -/

/-- What an atom loses for being small and of a kind that repeats by nature. -/
def penalties (a : Atom) : Int :=
  weight (isGiven a.className && a.complexity == 1 && a.linesOfCode ≤ 5) 40
    + weight (isAccessorName a.name && a.complexity ≤ 1 && a.linesOfCode ≤ 3) 50
    + weight (constructorNames.contains a.name && a.complexity ≤ 2 && a.linesOfCode ≤ 5) 45
    + weight ((purposeWords a.purpose).contains "test" &&
        (purposeWords a.purpose).contains "helper") 35

/-- What an atom gains for its use and its size. -/
def rewards (a : Atom) (d : DataFlow) : Int :=
  weight (a.isExported && (purposeWords a.purpose).contains "api") 15
    + weight (5 ≤ a.complexity) 10 + weight (20 < a.linesOfCode) 15 + weight d.hasSideEffect 10

/-- The score before it is brought into its range, if the atom is no test callback. -/
def plainSum (a : Atom) (d : DataFlow) : Int := 100 - penalties a + rewards a d

/-- What a test callback of the given type loses. -/
def testPenalty (isTest : Bool) (type : Option String) : Int :=
  weight isTest 60 + weight (isTest && type.any setupCallbacks.contains) 20

/-- Being a test callback matters by its penalty only. -/
lemma duplicability_eq (a : Atom) (d : DataFlow) :
    duplicability a d =
      clamp 0 100 (plainSum a d - testPenalty a.isTestCallback a.testCallbackType) := by
  unfold duplicability plainSum penalties rewards testPenalty
  dsimp only
  congr 1
  omega

lemma penalties_nonneg (a : Atom) : 0 ≤ penalties a := by
  unfold penalties weight
  split_ifs <;> omega

lemma rewards_le (a : Atom) (d : DataFlow) : rewards a d ≤ 50 := by
  unfold rewards weight
  split_ifs <;> omega

lemma plainSum_le (a : Atom) (d : DataFlow) : plainSum a d ≤ 150 := by
  have hpenalties := penalties_nonneg a
  have hrewards := rewards_le a d
  unfold plainSum
  omega

/-! ### Test callbacks -/

/-- The types of the callbacks that run before or after each test. -/
def IsSetup (type : Option String) : Prop :=
  type = some "beforeEach" ∨ type = some "afterEach"

lemma any_setupCallbacks_iff (type : Option String) :
    type.any setupCallbacks.contains = true ↔ IsSetup type := by
  cases type with
  | none => simp [IsSetup]
  | some s => simp [IsSetup, setupCallbacks]

lemma testPenalty_of_isSetup {type : Option String} (h : IsSetup type) :
    testPenalty true type = 80 := by
  simp [testPenalty, weight, (any_setupCallbacks_iff type).2 h]

lemma testPenalty_of_not_isSetup {type : Option String} (h : ¬ IsSetup type) :
    testPenalty true type = 60 := by
  have hany : type.any setupCallbacks.contains = false := by
    rw [Bool.eq_false_iff, ne_eq, any_setupCallbacks_iff]
    exact h
  simp [testPenalty, weight, hany]

/-- The score of an atom as a test callback, or as none. -/
lemma duplicability_asCallback (a : Atom) (d : DataFlow) (isTest : Bool) (type : Option String) :
    duplicability (a.asCallback isTest type) d =
      clamp 0 100 (plainSum a d - testPenalty isTest type) :=
  duplicability_eq (a.asCallback isTest type) d

/-- **Test scaffolding always ranks lower.**  Of one atom as no test callback, as a callback of a
test and as one that sets tests up or tears them down, each scores less than the one before, unless
that one scores nothing already. -/
theorem scaffolding_ranks_lower (a : Atom) (d : DataFlow) (other test setup : Option String)
    (htest : ¬ IsSetup test) (hsetup : IsSetup setup) :
    let plain := duplicability (a.asCallback false other) d
    let callback := duplicability (a.asCallback true test) d
    let scaffold := duplicability (a.asCallback true setup) d
    0 ≤ scaffold ∧ scaffold ≤ callback ∧ callback ≤ plain ∧ plain ≤ 100 ∧
      (0 < plain → callback < plain) ∧ (0 < callback → scaffold < callback) := by
  have hnone : testPenalty false other = 0 := rfl
  have hsum := plainSum_le a d
  rw [duplicability_asCallback, duplicability_asCallback, duplicability_asCallback, hnone,
    testPenalty_of_not_isSetup htest, testPenalty_of_isSetup hsetup]
  unfold clamp
  omega

/-- The sketch of a function with a side effect and nothing else. -/
def emitting : DataFlow := ⟨[], [.sideEffect ⟨none, none, none⟩], []⟩

/-- A function that earns every reward. -/
def exportedRoute : Atom :=
  { Atom.ofRequired "api.js::route" "route" "api.js" with
    isExported := true
    purpose := some "API_EXPORT"
    complexity := 5
    linesOfCode := 21
    dataFlow := some emitting }

/-- Even where the sum exceeds a hundred by half, the penalties of a test are not swallowed. -/
theorem scaffolding_ranks_lower_route :
    plainSum exportedRoute emitting = 150 ∧ ¬ IsSetup (some "it") ∧ IsSetup (some "afterEach") ∧
      duplicability (exportedRoute.asCallback false none) emitting = 100 ∧
      duplicability (exportedRoute.asCallback true (some "it")) emitting < 100 ∧
      duplicability (exportedRoute.asCallback true (some "afterEach")) emitting <
        duplicability (exportedRoute.asCallback true (some "it")) emitting := by
  have htest : ¬ IsSetup (some "it") := by simp [IsSetup]
  have hsetup : IsSetup (some "afterEach") := Or.inr rfl
  have hplain : duplicability (exportedRoute.asCallback false none) emitting = 100 := by
    decide +kernel
  have hcallback : 0 < duplicability (exportedRoute.asCallback true (some "it")) emitting := by
    decide +kernel
  obtain ⟨-, -, -, -, hlower, hlowest⟩ :=
    scaffolding_ranks_lower exportedRoute emitting none (some "it") (some "afterEach") htest hsetup
  refine ⟨by decide +kernel, htest, hsetup, hplain, ?_, hlowest hcallback⟩
  rw [← hplain]
  exact hlower (by omega)

end Dna.Score

end Lineage
