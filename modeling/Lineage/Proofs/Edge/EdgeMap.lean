/-
The edge map and the list of all edges.

The map is made in a loop of its own, atom by atom, and atoms may share an id.  It files every edge
under its caller (`filed_ofAtoms`), and it is the list of all edges grouped by their callers, with
nothing lost, repeated or out of order (`ofAtoms_groups_all`).
-/
import Lineage.Edge.Basic
import Lineage.Notice
import Lineage.Proofs.Assoc.Groups

namespace Lineage

namespace Edge

variable {index : NameIndex} {caller : Atom}

lemma callerId_ofCall {call : CallSite} {e : Edge}
    (h : (ofCall index caller call).value = some e) : e.callerId = caller.id := by
  unfold ofCall at h
  split at h
  · simp at h
  · simp only [build, Noted.value_bind, Noted.value_pure, Option.some.injEq] at h
    rw [← h]

/-- The edges of the calls of an atom name it as their caller. -/
lemma callerId_fromCalls {calls : List CallSite} {e : Edge}
    (h : e ∈ (fromCalls index caller calls).value) : e.callerId = caller.id := by
  induction calls with
  | nil => simp [fromCalls] at h
  | cons call calls ih =>
      simp only [fromCalls, Noted.value_bind, Noted.value_pure, List.mem_append,
        Option.mem_toList] at h
      rcases h with h | h
      · exact callerId_ofCall h
      · exact ih h

end Edge

namespace EdgeMap

/-- Every edge stands under the id of its caller. -/
def Filed (m : EdgeMap) : Prop :=
  ∀ entry ∈ m, ∀ e ∈ entry.2, e.callerId = entry.1

/-- What leaves an id stands in the entry of the id. -/
lemma entry_mem_of_mem_leaving {m : EdgeMap} {id : String} {e : Edge} (he : e ∈ m.leaving id) :
    (id, m.leaving id) ∈ m := by
  unfold leaving at he ⊢
  cases hfind : Assoc.find? id m with
  | none => simp [hfind] at he
  | some es => exact Assoc.mem_of_find?_eq_some hfind

lemma Filed.callerId {m : EdgeMap} (h : m.Filed) {id : String} {e : Edge}
    (he : e ∈ m.leaving id) : e.callerId = id :=
  h _ (entry_mem_of_mem_leaving he) e he

/-! ### Groups of edges -/

/-- From the groups of the edges so far, the loop goes on to the groups of these and the edges that
leave the rest of the atoms. -/
lemma addAll_groups (index : NameIndex) (edges : List Edge) (callers : List Atom) :
    addAll index (Assoc.groups Edge.callerId edges) callers =
      Assoc.groups Edge.callerId (edges ++ (Edge.leavingAll index callers).value) := by
  induction callers generalizing edges with
  | nil => simp [addAll, Edge.leavingAll]
  | cons caller callers ih =>
      have hrest : (Edge.leavingAll index (caller :: callers)).value =
          (Edge.fromCalls index caller caller.calls).value ++
            (Edge.leavingAll index callers).value := rfl
      rw [addAll, hrest, ← List.append_assoc, ← ih]
      congr 1
      by_cases hnil : (Edge.fromCalls index caller caller.calls).value = []
      · -- an atom without edges makes no entry
        rw [hnil, List.isEmpty_nil, if_pos rfl, List.append_nil]
      · rw [if_neg (by simpa using hnil)]
        exact Assoc.append_groups edges hnil fun e he => Edge.callerId_fromCalls he

lemma ofAtoms_eq_groups (atoms : List Atom) :
    ofAtoms atoms = Assoc.groups Edge.callerId (Edge.all atoms).value :=
  addAll_groups (.ofAtoms atoms) [] atoms

/-- What leaves an id is all edges that name it as their caller, in their order. -/
lemma leaving_ofAtoms (atoms : List Atom) (id : String) :
    (ofAtoms atoms).leaving id = (Edge.all atoms).value.filter (·.callerId = id) := by
  rw [leaving, ofAtoms_eq_groups, Assoc.getD_find?_groups]

lemma mem_all_of_mem_ofAtoms {atoms : List Atom} {entry : String × List Edge}
    (hentry : entry ∈ ofAtoms atoms) {e : Edge} (he : e ∈ entry.2) :
    e ∈ (Edge.all atoms).value ∧ e.callerId = entry.1 := by
  rw [ofAtoms_eq_groups] at hentry
  rw [Assoc.snd_of_mem_groups hentry] at he
  simpa using he

/-- The map of all edges between atoms files every edge under its caller, also where atoms share
an id. -/
lemma filed_ofAtoms (atoms : List Atom) : Filed (ofAtoms atoms) :=
  fun _ hentry _ he => (mem_all_of_mem_ofAtoms hentry he).2

/-- The map is the grouping of the edges by caller: its keys are the ids of the callers, each once
and in the order in which they first come among the edges; under each key stand the edges of that
caller, of which there is at least one, in their order; and all edges are there. -/
structure Groups (m : EdgeMap) (edges : List Edge) : Prop where
  mem_keys : ∀ id, id ∈ m.map Prod.fst ↔ ∃ e ∈ edges, e.callerId = id
  nodup_keys : (m.map Prod.fst).Nodup
  keys_ordered : (m.map Prod.fst).Pairwise fun id id' =>
    edges.findIdx (·.callerId = id) < edges.findIdx (·.callerId = id')
  entry : ∀ entry ∈ m, entry.2 = edges.filter (·.callerId = entry.1)
  entry_ne_nil : ∀ entry ∈ m, entry.2 ≠ []
  sum_length : (m.map fun entry => entry.2.length).sum = edges.length

/-- **The edge map groups all edges by caller**, also where atoms share an id and the entry of that
id is added to more than once. -/
theorem ofAtoms_groups_all (atoms : List Atom) : Groups (ofAtoms atoms) (Edge.all atoms).value := by
  rw [ofAtoms_eq_groups]
  generalize (Edge.all atoms).value = edges
  have hidx : ∀ id, edges.findIdx (·.callerId = id) = (edges.map Edge.callerId).idxOf id := by
    intro id
    rw [List.idxOf, List.findIdx_map]
    rfl
  constructor
  case mem_keys =>
    intro id
    rw [Assoc.keys_groups, Assoc.mem_distinct, List.mem_map]
  case nodup_keys =>
    rw [Assoc.keys_groups]
    exact Assoc.nodup_distinct _
  case keys_ordered =>
    rw [Assoc.keys_groups]
    simp only [hidx]
    exact Assoc.pairwise_distinct _
  case entry => exact fun entry hentry => Assoc.snd_of_mem_groups hentry
  case entry_ne_nil => exact fun entry hentry => Assoc.snd_ne_nil_of_mem_groups hentry
  case sum_length => exact Assoc.sum_length_groups edges

end EdgeMap

end Lineage
