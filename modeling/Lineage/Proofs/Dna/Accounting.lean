/-
The books of a cache.

To the entries and the counters of a cache, a run of requests is a sequence of single lookups, drops
of one id and clearings.  Its journal lists them, the latest first, and tells everything that the
cache shows: an id has an entry exactly if the latest action that affects it is a lookup, and a
lookup finds its entry exactly if that latest lookup was of an atom with the same snapshot.  Each
action keeps the cache in step with the journal (`InStep`), so a run does; the main statement is
`books_after`.
-/
import Mathlib.Data.Set.Card
import Lineage.Proofs.Dna.Cache

namespace Lineage.DnaCache

/-! ### Journals -/

/-- One thing that is done to a cache. -/
inductive Action where
  | lookup (a : Atom)
  | drop (id : String)
  | clear

namespace Action

/-- Whether the action decides anew what the cache holds for an id. -/
def affects (id : String) : Action → Bool
  | lookup a => a.id = id
  | drop key => key = id
  | clear => true

def isLookup : Action → Bool
  | lookup _ => true
  | _ => false

def isClear : Action → Bool
  | clear => true
  | _ => false

end Action

/-- The actions that make up a request, in order. -/
def Request.actions : Request → List Action
  | get a => [.lookup a]
  | getMany atoms => atoms.map .lookup
  | invalidate id => [.drop id]
  | clear => [.clear]
  | duplicates _ atoms => (atoms.filter (·.dataFlow.isSome)).map .lookup

/-- The actions of a run of requests, the latest first. -/
def journal (requests : List Request) : List Action :=
  (requests.flatMap Request.actions).reverse

/-- The atom that was looked up, if the latest action that affects an id is a lookup. -/
def latest? (id : String) (journal : List Action) : Option Atom :=
  match journal.find? (·.affects id) with
  | some (.lookup a) => some a
  | _ => none

/-- Whether the latest action that affects the atom's id is a lookup of an atom with the same
snapshot. -/
def recalls (journal : List Action) (a : Atom) : Bool :=
  (latest? a.id journal).any fun b => snapshot b = snapshot a

/-- How many lookups there were since the last clearing. -/
def lookupsSinceClear (journal : List Action) : Nat :=
  (journal.takeWhile (!·.isClear)).countP Action.isLookup

/-- How many lookups since the last clearing recalled their atom, each from the actions before
it. -/
def hitsSinceClear : List Action → Nat
  | [] => 0
  | .lookup a :: earlier => hitsSinceClear earlier + if recalls earlier a then 1 else 0
  | .drop _ :: earlier => hitsSinceClear earlier
  | .clear :: _ => 0

section Latest

variable (id : String) (earlier : List Action)

lemma latest?_lookup (a : Atom) :
    latest? id (.lookup a :: earlier) = if a.id = id then some a else latest? id earlier := by
  by_cases hid : a.id = id <;> simp [latest?, Action.affects, hid]

lemma latest?_drop (key : String) :
    latest? id (.drop key :: earlier) = if key = id then none else latest? id earlier := by
  by_cases hid : key = id <;> simp [latest?, Action.affects, hid]

lemma latest?_clear : latest? id (.clear :: earlier) = none := by
  simp [latest?, Action.affects]

end Latest

/-! ### Requests as actions -/

/-- The cache after an action. -/
def act (cache : DnaCache) : Action → DnaCache
  | .lookup a => (cache.get a).value.2
  | .drop id => (cache.invalidate id).2
  | .clear => empty

/-- The cache after a run of requests. -/
def after (cache : DnaCache) (requests : List Request) : DnaCache :=
  requests.foldl (fun cache request => (cache.serve request).2) cache

lemma getMany_append_singleton (cache : DnaCache) (atoms : List Atom) (a : Atom) :
    (cache.getMany (atoms ++ [a])).value.2 = ((cache.getMany atoms).value.2.get a).value.2 := by
  rw [getMany, List.foldl_append]
  rfl

lemma getMany_eq_foldl_act (cache : DnaCache) (atoms : List Atom) :
    (cache.getMany atoms).value.2 = (atoms.map Action.lookup).foldl act cache := by
  induction atoms using List.reverseRecOn with
  | nil => rfl
  | append_singleton atoms a ih =>
      rw [getMany_append_singleton, List.map_append, List.foldl_append, ← ih]
      rfl

lemma eligible_eq_foldl_act (f : Duplicate.Filter) (cache : DnaCache) (atoms : List Atom) :
    (Duplicate.eligible f cache atoms).value.2 =
      ((atoms.filter (·.dataFlow.isSome)).map Action.lookup).foldl act cache := by
  induction atoms generalizing cache with
  | nil => rfl
  | cons a atoms ih =>
      rw [Duplicate.eligible]
      by_cases hflow : a.dataFlow.isNone
      · rw [if_pos hflow, List.filter_cons_of_neg (by simpa using hflow), ih]
      · rw [if_neg hflow,
          List.filter_cons_of_pos (by simpa [Option.isSome_iff_ne_none] using hflow)]
        exact ih (cache.get a).value.2

/-- A request does to the cache what its actions do, one after the other. -/
lemma serve_eq_foldl_act (cache : DnaCache) (request : Request) :
    (cache.serve request).2 = request.actions.foldl act cache := by
  cases request with
  | get a => rfl
  | getMany atoms => exact getMany_eq_foldl_act cache atoms
  | invalidate id => rfl
  | clear => rfl
  | duplicates f atoms => exact eligible_eq_foldl_act f cache atoms

lemma after_eq_foldl_act (cache : DnaCache) (requests : List Request) :
    cache.after requests = (requests.flatMap Request.actions).foldl act cache := by
  induction requests generalizing cache with
  | nil => rfl
  | cons request requests ih =>
      rw [List.flatMap_cons, List.foldl_append, ← serve_eq_foldl_act, ← ih]
      rfl

/-! ### Caches in step with a journal -/

/-- The cache remembers and has counted what the journal tells. -/
structure InStep (cache : DnaCache) (journal : List Action) : Prop where
  nodup : (cache.entries.map Prod.fst).Nodup
  remembered : ∀ id, (Assoc.find? id cache.entries).map CacheEntry.snapshot =
    (latest? id journal).map snapshot
  lookups : cache.hits + cache.misses = lookupsSinceClear journal
  hits : cache.hits = hitsSinceClear journal
  size_le_misses : cache.size ≤ cache.misses

lemma inStep_clear (journal : List Action) : InStep empty (.clear :: journal) where
  nodup := List.nodup_nil
  remembered id := by rw [latest?_clear]; rfl
  lookups := rfl
  hits := rfl
  size_le_misses := Nat.le_refl 0

lemma inStep_nil : InStep empty [] where
  nodup := List.nodup_nil
  remembered _ := rfl
  lookups := rfl
  hits := rfl
  size_le_misses := Nat.le_refl 0

namespace InStep

variable {cache : DnaCache} {journal : List Action}

/-- The journal tells which lookups the cache can answer from an entry. -/
lemma knows_iff (h : InStep cache journal) (a : Atom) :
    cache.Knows a ↔ recalls journal a = true := by
  have hentry := h.remembered a.id
  rw [Knows, recalls]
  cases hlatest : latest? a.id journal with
  | none =>
      rw [hlatest, Option.map_none, Option.map_eq_none_iff] at hentry
      simp [hentry]
  | some b =>
      rw [hlatest, Option.map_some, Option.map_eq_some_iff] at hentry
      obtain ⟨entry, hfind, hsnapshot⟩ := hentry
      simp [hfind, hsnapshot]

lemma get_eq (h : InStep cache journal) (a : Atom) :
    (cache.get a).value.2 = if recalls journal a then cache.hit else cache.miss a := by
  rcases get_cases cache a with ⟨entry, hfind, hsnapshot, hget⟩ | ⟨hunknown, hget⟩
  · rw [if_pos ((h.knows_iff a).1 ⟨entry, hfind, hsnapshot⟩), hget]
  · rw [if_neg fun hrecalls => hunknown ((h.knows_iff a).2 hrecalls), hget]

lemma contains_iff (h : InStep cache journal) (id : String) :
    cache.contains id = true ↔ (latest? id journal).isSome = true := by
  have hentry := congrArg Option.isSome (h.remembered id)
  rw [Option.isSome_map, Option.isSome_map] at hentry
  rw [contains, hentry]

lemma hit (h : InStep cache journal) {a : Atom} (hrecalls : recalls journal a = true) :
    InStep cache.hit (.lookup a :: journal) where
  nodup := h.nodup
  remembered id := by
    rw [latest?_lookup]
    by_cases hid : a.id = id
    · -- the entry stays as it was, and so does the snapshot that it was made from
      subst hid
      rw [if_pos rfl]
      obtain ⟨entry, hfind, hsnapshot⟩ := (h.knows_iff a).2 hrecalls
      exact (congrArg (Option.map CacheEntry.snapshot) hfind).trans (congrArg some hsnapshot)
    · rw [if_neg hid]
      exact h.remembered id
  lookups := by
    have hlookups := h.lookups
    simp only [DnaCache.hit, lookupsSinceClear, List.takeWhile_cons, Action.isClear, Bool.not_false,
      if_true, List.countP_cons, Action.isLookup] at hlookups ⊢
    omega
  hits := by
    rw [hitsSinceClear, if_pos hrecalls, ← h.hits]
    rfl
  size_le_misses := h.size_le_misses

lemma miss (h : InStep cache journal) {a : Atom} (hrecalls : recalls journal a = false) :
    InStep (cache.miss a) (.lookup a :: journal) where
  nodup := Assoc.nodup_keys_insert h.nodup _ _
  remembered id := by
    rw [latest?_lookup, DnaCache.miss, Assoc.find?_insert]
    by_cases hid : a.id = id
    · rw [if_pos hid, if_pos hid]
      rfl
    · rw [if_neg hid, if_neg hid]
      exact h.remembered id
  lookups := by
    have hlookups := h.lookups
    simp only [DnaCache.miss, lookupsSinceClear, List.takeWhile_cons, Action.isClear,
      Bool.not_false, if_true, List.countP_cons, Action.isLookup] at hlookups ⊢
    omega
  hits := by
    rw [hitsSinceClear, hrecalls]
    exact h.hits
  size_le_misses :=
    (Assoc.length_insert_le _ _ _).trans (Nat.succ_le_succ h.size_le_misses)

lemma drop (h : InStep cache journal) (id : String) :
    InStep (cache.invalidate id).2 (.drop id :: journal) where
  nodup := Assoc.nodup_keys_erase h.nodup id
  remembered k := by
    rw [latest?_drop, invalidate, Assoc.find?_erase]
    by_cases hid : id = k
    · rw [if_pos hid, if_pos hid]
      rfl
    · rw [if_neg hid, if_neg hid]
      exact h.remembered k
  lookups := h.lookups
  hits := h.hits
  size_le_misses := (List.length_filter_le _ _).trans h.size_le_misses

/-- Every action keeps the cache in step. -/
lemma act (h : InStep cache journal) (action : Action) :
    InStep (cache.act action) (action :: journal) := by
  cases action with
  | lookup a =>
      rw [DnaCache.act, h.get_eq a]
      cases hrecalls : recalls journal a with
      | true => exact h.hit hrecalls
      | false => exact h.miss hrecalls
  | drop id => exact h.drop id
  | clear => exact inStep_clear journal

lemma foldl_act (h : InStep cache journal) (actions : List Action) :
    InStep (actions.foldl DnaCache.act cache) (actions.reverse ++ journal) := by
  induction actions generalizing cache journal with
  | nil => exact h
  | cons action actions ih =>
      rw [List.reverse_cons, List.append_assoc]
      exact ih (h.act action)

/-- Within a request for many atoms, each lookup sees those before it. -/
lemma getMany_append_singleton_eq (h : InStep cache journal) (atoms : List Atom) (a : Atom) :
    (cache.getMany (atoms ++ [a])).value.2 =
      if recalls ((atoms.map Action.lookup).reverse ++ journal) a then
        (cache.getMany atoms).value.2.hit
      else (cache.getMany atoms).value.2.miss a := by
  rw [getMany_append_singleton, getMany_eq_foldl_act]
  exact (h.foldl_act _).get_eq a

/-- The entries are as many as the ids that were looked up and not dropped since. -/
lemma size_eq (h : InStep cache journal) :
    cache.size = {id | (latest? id journal).isSome = true}.ncard := by
  have hkeys : {id | (latest? id journal).isSome = true} =
      ((cache.entries.map Prod.fst).toFinset : Set String) := by
    ext id
    rw [Set.mem_ofPred_eq, ← h.contains_iff, contains, Finset.mem_coe, List.mem_toFinset,
      Assoc.isSome_find?_iff]
  rw [hkeys, Set.ncard_coe_finset, List.toFinset_card_of_nodup h.nodup, List.length_map, size]

end InStep

/-! ### The books after a run -/

/-- What a journal tells about the cache that it led to. -/
structure Books (cache : DnaCache) (journal : List Action) : Prop where
  /-- Every lookup since the last clearing is counted once. -/
  lookups : cache.hits + cache.misses = lookupsSinceClear journal
  /-- Those that recalled their atom are the hits. -/
  hits : cache.hits = hitsSinceClear journal
  /-- The next lookup is a hit if it recalls its atom, and a miss otherwise. -/
  next : ∀ a, (cache.get a).value.2 = if recalls journal a then cache.hit else cache.miss a
  /-- So is each lookup of a request for many, by the actions before it in the same request too. -/
  nextOfMany : ∀ atoms a, (cache.getMany (atoms ++ [a])).value.2 =
    if recalls ((atoms.map .lookup).reverse ++ journal) a then (cache.getMany atoms).value.2.hit
    else (cache.getMany atoms).value.2.miss a
  /-- There are as many entries as ids whose latest action is a lookup. -/
  size : cache.size = {id | (latest? id journal).isSome = true}.ncard
  size_le_misses : cache.size ≤ cache.misses
  /-- Dropping an id tells whether it is one of these. -/
  dropped : ∀ id, (cache.invalidate id).1 = true ↔ (latest? id journal).isSome = true

/-- **The journal of a run tells what its cache counts and holds.** -/
theorem books_after (requests : List Request) :
    Books (empty.after requests) (journal requests) := by
  have h : InStep (empty.after requests) (journal requests) := by
    rw [after_eq_foldl_act, journal, ← List.append_nil (List.reverse _)]
    exact inStep_nil.foldl_act _
  exact
    { lookups := h.lookups
      hits := h.hits
      next := h.get_eq
      nextOfMany := h.getMany_append_singleton_eq
      size := h.size_eq
      size_le_misses := h.size_le_misses
      dropped := h.contains_iff }

end Lineage.DnaCache
