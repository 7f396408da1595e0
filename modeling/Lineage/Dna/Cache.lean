/-
A cache of DNAs.

An entry belongs to an atom id and remembers the atom it was made from as a snapshot: the text of
the atom's record.  An atom whose snapshot differs from the remembered one is fingerprinted anew.
-/
import Lineage.Assoc
import Lineage.Dna.Extract
import Lineage.Notice

namespace Lineage

/-- A DNA and the snapshot of the atom that it was made from. -/
structure CacheEntry where
  snapshot : String
  dna : Dna
deriving DecidableEq, Repr

/-- The entries by atom id, and how many lookups found theirs and how many did not. -/
structure DnaCache where
  entries : List (String × CacheEntry)
  hits : Nat
  misses : Nat
deriving Repr

namespace DnaCache

/-- The cache without entries. -/
def empty : DnaCache := ⟨[], 0, 0⟩

mutual

/-- A value with null for every number that is not finite. -/
def settle : Json → Json
  | .num (.real x) => if x.isFinite then .num (.real x) else .null
  | .arr items => .arr (settleItems items)
  | .obj fields => .obj (settleFields fields)
  | v => v

/-- The same for each item. -/
def settleItems : List Json → List Json
  | [] => []
  | item :: items => settle item :: settleItems items

/-- The same for each field. -/
def settleFields : List (String × Json) → List (String × Json)
  | [] => []
  | (key, item) :: fields => (key, settle item) :: settleFields fields

end

/-- The text by which a later look at an atom tells whether it has changed. -/
def snapshot (a : Atom) : String := (settle a.toJson).compact

/-- The DNA of an atom, from the cache if the atom has not changed. -/
def get (cache : DnaCache) (a : Atom) : Noted (Dna × DnaCache) :=
  let snapshot := snapshot a
  let cached := Assoc.find? a.id cache.entries
  let recompute : Dna × DnaCache :=
    let dna := Dna.extract a
    (dna, { cache with
      entries := Assoc.insert a.id ⟨snapshot, dna⟩ cache.entries
      misses := cache.misses + 1 })
  match cached with
  | none => .plain recompute
  | some entry =>
      if entry.snapshot = snapshot then .plain (entry.dna, { cache with hits := cache.hits + 1 })
      else ⟨recompute, [.atomChanged a.id]⟩

/-- The DNAs of several atoms, looked up one after the other; of atoms with one id the last
counts. -/
def getMany (cache : DnaCache) : List Atom → Noted (List (String × Dna) × DnaCache)
  | atoms => atoms.foldl
      (fun state a =>
        let step := get state.value.2 a
        ⟨(Assoc.insert a.id step.value.1 state.value.1, step.value.2),
          state.notices ++ step.notices⟩)
      (.plain ([], cache))

/-- Whether there is an entry for an id. -/
def contains (cache : DnaCache) (id : String) : Bool :=
  (Assoc.find? id cache.entries).isSome

/-- The cache without the entry for an id, and whether there was one. -/
def invalidate (cache : DnaCache) (id : String) : Bool × DnaCache :=
  (cache.contains id, { cache with entries := Assoc.erase id cache.entries })

/-- How many entries there are. -/
def size (cache : DnaCache) : Nat := cache.entries.length

end DnaCache

end Lineage
