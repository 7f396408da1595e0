/-
Pairs of atoms that may be duplicates of each other.
-/
import Lineage.Dna.Basic
import Lineage.Dna.Cache

namespace Lineage

/-- Two atoms whose DNAs are similar enough to be looked at. -/
structure Duplicate where
  firstId : String
  secondId : String
  similarity : Hundredths
  firstDuplicability : Int
  secondDuplicability : Int
deriving DecidableEq, Repr

namespace Duplicate

/-- The record of a pair. -/
def toJson (d : Duplicate) : Json :=
  .obj [("first_id", .str d.firstId), ("second_id", .str d.secondId),
    ("similarity", .score d.similarity), ("first_duplicability", .int d.firstDuplicability),
    ("second_duplicability", .int d.secondDuplicability)]

/-- Which pairs are wanted: those at least this similar, of atoms that score at least so much. -/
structure Filter where
  threshold : Number
  minDuplicability : Int

/-- The filter that is used where none is given. -/
def Filter.standard : Filter := ⟨.real (Double.ofDecimal false 9 (-1)), 50⟩

/-- Whether a pair is similar enough; a threshold that is not a number lets every pair pass. -/
def Filter.admits (f : Filter) (similarity : Hundredths) : Bool :=
  !similarity.toNumber.lt f.threshold

/-- The atoms with a data-flow sketch, each with its DNA, that score high enough. -/
def eligible (f : Filter) (cache : DnaCache) :
    List Atom → Noted (List (String × Dna) × DnaCache)
  | [] => .plain ([], cache)
  | a :: atoms =>
      if a.dataFlow.isNone then eligible f cache atoms
      else do
        let (dna, cache) ← cache.get a
        let (rest, cache) ← eligible f cache atoms
        return (if f.minDuplicability ≤ dna.duplicabilityScore then (a.id, dna) :: rest else rest,
          cache)

/-- The pair of two atoms. -/
def ofPair (first second : String × Dna) : Duplicate :=
  ⟨first.1, second.1, first.2.similarity second.2, first.2.duplicabilityScore,
    second.2.duplicabilityScore⟩

/-- All pairs of a list, in the order of the first and then of the second member. -/
def pairs : List (String × Dna) → List Duplicate
  | [] => []
  | a :: rest => rest.map (ofPair a) ++ pairs rest

/-- The wanted pairs, the most similar first; equally similar ones in the order of the list. -/
def ofEligible (f : Filter) (atoms : List (String × Dna)) : List Duplicate :=
  ((pairs atoms).filter fun d => f.admits d.similarity).mergeSort fun a b =>
    b.similarity.count ≤ a.similarity.count

/-- The wanted pairs of a list of atoms, with their DNAs from the cache. -/
def find (f : Filter) (cache : DnaCache) (atoms : List Atom) :
    Noted (List Duplicate × DnaCache) :=
  (eligible f cache atoms).map fun (found, cache) => (ofEligible f found, cache)

end Duplicate

end Lineage
