/-
A cache answers as if there were none.

Every entry of a cache is the snapshot and the DNA of one atom (`Sound`).  A lookup that finds the
snapshot of its own atom therefore finds that atom's DNA, whichever atom the entry was made from.
Each request keeps the entries sound, so along a run of requests every reply is the one that fresh
extractions give (`replies_as_uncached`), and no atom that shares its id with another is mistaken
for it.
-/
import Lineage.Dna.Duplicates
import Lineage.Notice
import Lineage.Proofs.Assoc
import Lineage.Proofs.Dna.Snapshot

namespace Lineage

namespace DnaCache

/-! ### Lookups -/

/-- The cache after a lookup that found its entry. -/
def hit (cache : DnaCache) : DnaCache :=
  { cache with hits := cache.hits + 1 }

/-- The cache after a lookup that made the entry of its atom anew. -/
def miss (cache : DnaCache) (a : Atom) : DnaCache :=
  { cache with
    entries := Assoc.insert a.id ⟨snapshot a, Dna.extract a⟩ cache.entries
    misses := cache.misses + 1 }

/-- An entry of the cache was made from an atom with this id and this snapshot. -/
def Knows (cache : DnaCache) (a : Atom) : Prop :=
  ∃ entry, Assoc.find? a.id cache.entries = some entry ∧ entry.snapshot = snapshot a

/-- All that a lookup can do. -/
lemma get_cases (cache : DnaCache) (a : Atom) :
    (∃ entry, Assoc.find? a.id cache.entries = some entry ∧ entry.snapshot = snapshot a ∧
        (cache.get a).value = (entry.dna, cache.hit)) ∨
      (¬cache.Knows a ∧ (cache.get a).value = (Dna.extract a, cache.miss a)) := by
  cases hfind : Assoc.find? a.id cache.entries with
  | none =>
      refine Or.inr ⟨?_, by simp only [get, hfind, Noted.value_plain, miss]⟩
      rintro ⟨entry, hentry, -⟩
      rw [hfind] at hentry
      cases hentry
  | some entry =>
      by_cases hsnapshot : entry.snapshot = snapshot a
      · refine Or.inl ⟨entry, rfl, hsnapshot, ?_⟩
        simp only [get, hfind, if_pos hsnapshot, Noted.value_plain, hit]
      · refine Or.inr ⟨?_, by simp only [get, hfind, if_neg hsnapshot, miss]⟩
        rintro ⟨entry', hentry', hsame⟩
        rw [hfind] at hentry'
        cases hentry'
        exact hsnapshot hsame

/-! ### Sound entries -/

/-- Each entry is what some atom with its id leaves behind. -/
def Sound (cache : DnaCache) : Prop :=
  ∀ id entry, Assoc.find? id cache.entries = some entry →
    ∃ a : Atom, a.id = id ∧ entry = ⟨snapshot a, Dna.extract a⟩

lemma sound_empty : empty.Sound := by
  intro id entry hfind
  cases hfind

lemma Sound.hit {cache : DnaCache} (h : cache.Sound) : cache.hit.Sound := h

lemma Sound.miss {cache : DnaCache} (h : cache.Sound) (a : Atom) : (cache.miss a).Sound := by
  intro id entry hfind
  rw [DnaCache.miss, Assoc.find?_insert] at hfind
  by_cases hid : a.id = id
  · rw [if_pos hid] at hfind
    exact ⟨a, hid, (Option.some.inj hfind).symm⟩
  · rw [if_neg hid] at hfind
    exact h id entry hfind

lemma Sound.invalidate {cache : DnaCache} (h : cache.Sound) (id : String) :
    (cache.invalidate id).2.Sound := by
  intro k entry hfind
  rw [DnaCache.invalidate, Assoc.find?_erase] at hfind
  by_cases hid : id = k
  · rw [if_pos hid] at hfind
    cases hfind
  · rw [if_neg hid] at hfind
    exact h k entry hfind

/-- A sound cache gives an atom its own DNA, and stays sound. -/
lemma Sound.get {cache : DnaCache} (h : cache.Sound) (a : Atom) :
    (cache.get a).value.1 = Dna.extract a ∧ (cache.get a).value.2.Sound := by
  rcases get_cases cache a with ⟨entry, hfind, hsnapshot, hget⟩ | ⟨-, hget⟩
  · -- the entry may come from another atom, but from one with the same snapshot
    obtain ⟨b, -, rfl⟩ := h a.id entry hfind
    rw [hget]
    exact ⟨extract_eq_of_snapshot_eq hsnapshot, h.hit⟩
  · rw [hget]
    exact ⟨rfl, h.miss a⟩

/-- The table of several atoms is the one that fresh extractions fill. -/
lemma Sound.getMany {cache : DnaCache} (h : cache.Sound) (atoms : List Atom) :
    (cache.getMany atoms).value.1 = Assoc.ofList (atoms.map fun a => (a.id, Dna.extract a)) ∧
      (cache.getMany atoms).value.2.Sound := by
  -- the table is filled from the left, so the last atom comes on top of what the others left
  induction atoms using List.reverseRecOn with
  | nil => exact ⟨rfl, h⟩
  | append_singleton atoms a ih =>
      obtain ⟨htable, hsound⟩ := ih
      obtain ⟨hdna, hsound'⟩ := hsound.get a
      rw [DnaCache.getMany] at htable hsound hdna hsound' ⊢
      rw [List.foldl_append, List.map_append, List.map_singleton, Assoc.ofList_append_singleton]
      refine ⟨?_, hsound'⟩
      simp only [List.foldl_cons, List.foldl_nil, htable, hdna]

/-- The table of several atoms gives an id the DNA of the last atom that has it. -/
lemma Sound.find?_getMany {cache : DnaCache} (h : cache.Sound) (atoms : List Atom) (id : String) :
    Assoc.find? id (cache.getMany atoms).value.1 =
      (atoms.reverse.find? (·.id = id)).map Dna.extract := by
  rw [(h.getMany atoms).1, Assoc.find?_ofList, ← List.map_reverse, List.find?_map, Option.map_map]
  rfl

/-- The atoms with a sketch that score high enough, each with a fresh DNA. -/
def freshEligible (f : Duplicate.Filter) (atoms : List Atom) : List (String × Dna) :=
  ((atoms.filter (·.dataFlow.isSome)).map fun a => (a.id, Dna.extract a)).filter
    fun found => f.minDuplicability ≤ found.2.duplicabilityScore

lemma Sound.eligible {cache : DnaCache} (h : cache.Sound) (f : Duplicate.Filter)
    (atoms : List Atom) :
    (Duplicate.eligible f cache atoms).value.1 = freshEligible f atoms ∧
      (Duplicate.eligible f cache atoms).value.2.Sound := by
  induction atoms generalizing cache with
  | nil => exact ⟨rfl, h⟩
  | cons a atoms ih =>
      rw [Duplicate.eligible]
      by_cases hflow : a.dataFlow.isNone
      · rw [if_pos hflow, freshEligible, List.filter_cons_of_neg (by simpa using hflow)]
        exact ih h
      · -- the rest is looked up in the cache that this lookup leaves, which is sound too
        obtain ⟨hdna, hsound⟩ := h.get a
        obtain ⟨hrest, hsound'⟩ := ih hsound
        rw [if_neg hflow]
        refine ⟨?_, hsound'⟩
        simp only [Noted.value_bind, Noted.value_pure, hdna, hrest, freshEligible]
        rw [List.filter_cons_of_pos (by simpa [Option.isSome_iff_ne_none] using hflow),
          List.map_cons, List.filter_cons]
        simp only [decide_eq_true_eq]

lemma Sound.find {cache : DnaCache} (h : cache.Sound) (f : Duplicate.Filter) (atoms : List Atom) :
    (Duplicate.find f cache atoms).value.1 = Duplicate.ofEligible f (freshEligible f atoms) ∧
      (Duplicate.find f cache atoms).value.2.Sound := by
  obtain ⟨hfound, hsound⟩ := h.eligible f atoms
  rw [Duplicate.find, Noted.value_map]
  exact ⟨congrArg (Duplicate.ofEligible f) hfound, hsound⟩

/-! ### Runs of requests -/

/-- What is asked of a cache. -/
inductive Request where
  | get (a : Atom)
  | getMany (atoms : List Atom)
  | invalidate (id : String)
  | clear
  | duplicates (f : Duplicate.Filter) (atoms : List Atom)

/-- What a cache replies. -/
inductive Reply where
  | dna (d : Dna)
  | table (t : List (String × Dna))
  | dropped (found : Bool)
  | cleared
  | duplicates (found : List Duplicate)

/-- The reply to a request, and the cache after it. -/
def serve (cache : DnaCache) : Request → Reply × DnaCache
  | .get a => (cache.get a).value.map .dna id
  | .getMany atoms => (cache.getMany atoms).value.map .table id
  | .invalidate key => (cache.invalidate key).map .dropped id
  | .clear => (.cleared, empty)
  | .duplicates f atoms => (Duplicate.find f cache atoms).value.map .duplicates id

/-- The replies to requests that come one after the other. -/
def replies (cache : DnaCache) : List Request → List Reply
  | [] => []
  | request :: requests => (cache.serve request).1 :: replies (cache.serve request).2 requests

/-- A reply that tells what extractions without any cache tell.  Whether an entry was dropped is not
theirs to tell. -/
def Uncached : Request → Reply → Prop
  | .get a, .dna d => d = Dna.extract a
  | .getMany atoms, .table t =>
      (t.map Prod.fst).Nodup ∧
        ∀ id, Assoc.find? id t = (atoms.reverse.find? (·.id = id)).map Dna.extract
  | .invalidate _, .dropped _ => True
  | .clear, .cleared => True
  | .duplicates f atoms, .duplicates found => found = (Duplicate.find f empty atoms).value.1
  | _, _ => False

lemma Sound.serve {cache : DnaCache} (h : cache.Sound) (request : Request) :
    Uncached request (cache.serve request).1 ∧ (cache.serve request).2.Sound := by
  cases request with
  | get a => exact h.get a
  | getMany atoms =>
      obtain ⟨htable, hsound⟩ := h.getMany atoms
      refine ⟨⟨?_, h.find?_getMany atoms⟩, hsound⟩
      rw [htable]
      exact Assoc.nodup_keys_ofList _
  | invalidate id => exact ⟨trivial, h.invalidate id⟩
  | clear => exact ⟨trivial, sound_empty⟩
  | duplicates f atoms =>
      obtain ⟨hfound, hsound⟩ := h.find f atoms
      exact ⟨hfound.trans (sound_empty.find f atoms).1.symm, hsound⟩

lemma Sound.replies {cache : DnaCache} (h : cache.Sound) (requests : List Request) :
    List.Forall₂ Uncached requests (cache.replies requests) := by
  induction requests generalizing cache with
  | nil => exact .nil
  | cons request requests ih =>
      obtain ⟨hreply, hsound⟩ := h.serve request
      exact .cons hreply (ih hsound)

/-- **A cache is transparent.**  Whatever was looked up, dropped or cleared before, each atom gets
its own DNA, each id of a list the DNA of the last atom that has it, and the duplicates are those
that an empty cache finds. -/
theorem replies_as_uncached (requests : List Request) :
    List.Forall₂ Uncached requests (empty.replies requests) :=
  sound_empty.replies requests

end DnaCache

end Lineage
