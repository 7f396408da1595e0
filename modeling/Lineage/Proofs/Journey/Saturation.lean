/-
How long a journey can get.

The walk goes on from an atom at most once, whatever the edges are and whichever way it comes.  So,
up to order, the steps of a walk are the steps from finitely many arrivals at different atoms
(`walk_unfolds`), and no binding of an edge gives more than one step.  For the same reason a level
is of use only while there is an id left that has edges and has not been visited, and once there are
as many levels as ids with edges, more of them change nothing (`Saturated.walk`).  The two are put
together in `trace_bounded_and_saturated`.  Nothing here asks that edges be filed under their
callers.
-/
import Mathlib.Data.List.Forall2
import Mathlib.Data.List.Perm.Basic
import Mathlib.Tactic.ByContra
import Lineage.Proofs.Journey.FirstArrival

namespace Lineage

/-! ### Bindings of an edge map -/

namespace EdgeMap

/-- The ids that have an entry, each once. -/
def ids (m : EdgeMap) : List String := Assoc.distinct (m.map Prod.fst)

/-- The edges that leave an id, each with each of its bindings, in order. -/
def crossings (m : EdgeMap) (id : String) : List (Edge × Binding) :=
  (m.leaving id).flatMap fun e => e.binding.bindings.map (e, ·)

/-- How many bindings all edges have together. -/
def bindingCount (m : EdgeMap) : Nat :=
  (m.ids.map fun id => ((m.leaving id).map fun e => e.binding.bindings.length).sum).sum

/-- The places of bindings: an id, and a number among the crossings from there. -/
def slots (m : EdgeMap) : List (String × Nat) :=
  m.ids.flatMap fun id => (List.range (m.crossings id).length).map (id, ·)

lemma length_slots (m : EdgeMap) : m.slots.length = m.bindingCount := by
  simp [slots, bindingCount, crossings, List.length_flatMap]

lemma mem_ids_of_leaving_ne_nil {m : EdgeMap} {id : String} (h : m.leaving id ≠ []) :
    id ∈ m.ids := by
  obtain ⟨e, he⟩ := List.exists_mem_of_ne_nil _ h
  exact Assoc.mem_distinct.2 (List.mem_map.2 ⟨_, entry_mem_of_mem_leaving he, rfl⟩)

lemma mem_slots_of_getElem? {m : EdgeMap} {id : String} {i : Nat} {x : Edge × Binding}
    (h : (m.crossings id)[i]? = some x) : (id, i) ∈ m.slots := by
  obtain ⟨hi, -⟩ := List.getElem?_eq_some_iff.1 h
  have hid : m.leaving id ≠ [] := by
    intro hnil
    simp [crossings, hnil] at hi
  refine List.mem_flatMap.2 ⟨id, mem_ids_of_leaving_ne_nil hid, ?_⟩
  exact List.mem_map.2 ⟨i, List.mem_range.2 hi, rfl⟩

end EdgeMap

namespace Journey

variable {edges : EdgeMap} {known : List (String × Atom)}

/-! ### Each atom once -/

/-- What a stretch of the walk unfolds to.  Of the atoms that it visits, in the order of `entered`,
none was visited before it and none is visited twice; and up to order its steps are the steps `own`
that it was given and all steps from the arrivals `entered`. -/
structure Unfolds (edges : EdgeMap) (known : List (String × Atom)) (before after : List String)
    (own : List JourneyStep) (entered : List Arrival) (steps : List JourneyStep) : Prop where
  after_eq : after = (entered.map Arrival.id).reverse ++ before
  nodup : before.Nodup → after.Nodup
  perm : steps.Perm (own ++ entered.flatMap fun a => departures edges known (some a))

namespace Unfolds

lemma nil (v : List String) : Unfolds edges known v v [] [] [] :=
  ⟨rfl, fun h => h, .refl []⟩

/-- A step, the stretch behind it, and the stretch after that. -/
lemma cons {s : JourneyStep} {rest behind others : List JourneyStep} {v v₁ v₂ : List String}
    {entered₁ entered₂ : List Arrival} (hbehind : Unfolds edges known v v₁ [] entered₁ behind)
    (hothers : Unfolds edges known v₁ v₂ rest entered₂ others) :
    Unfolds edges known v v₂ (s :: rest) (entered₁ ++ entered₂) (s :: behind ++ others) where
  after_eq := by
    rw [hothers.after_eq, hbehind.after_eq, List.map_append, List.reverse_append,
      List.append_assoc]
  nodup hv := hothers.nodup (hbehind.nodup hv)
  perm := by
    rw [List.flatMap_append, List.cons_append, List.cons_append]
    refine List.Perm.cons s ((hbehind.perm.append hothers.perm).trans ?_)
    rw [List.nil_append, ← List.append_assoc, ← List.append_assoc]
    exact List.perm_append_comm.append_right _

end Unfolds

lemma expand_unfolds (onward : JourneyStep → List String → List String × List JourneyStep)
    {own : List JourneyStep}
    (honward : ∀ s ∈ own, ∀ v, ∃ entered,
      Unfolds edges known v (onward s v).1 [] entered (onward s v).2) (v : List String) :
    ∃ entered,
      Unfolds edges known v (expand onward own v).1 own entered (expand onward own v).2 := by
  induction own generalizing v with
  | nil => exact ⟨[], .nil v⟩
  | cons s rest ih =>
      obtain ⟨entered₁, hbehind⟩ := honward s List.mem_cons_self v
      obtain ⟨entered₂, hothers⟩ :=
        ih (fun t ht => honward t (List.mem_cons_of_mem s ht)) (onward s v).1
      exact ⟨entered₁ ++ entered₂, hbehind.cons hothers⟩

/-- **A walk unfolds to the steps from arrivals at different atoms.** -/
lemma walk_unfolds (room : Nat) (id var : String) (depth : Nat) (path v : List String) :
    ∃ entered, Unfolds edges known v (walk edges known room id var depth path v).1 [] entered
      (walk edges known room id var depth path v).2 := by
  induction room generalizing id var depth path v with
  | zero => exact ⟨[], .nil v⟩
  | succ room ih =>
      rw [walk]
      by_cases hid : id ∈ v
      · rw [if_pos (List.contains_iff_mem.2 hid)]
        exact ⟨[], .nil v⟩
      · rw [if_neg fun h => hid (List.contains_iff_mem.1 h)]
        obtain ⟨entered, hown⟩ := expand_unfolds _ (fun s _ v => ih _ _ _ _ v) (id :: v)
        refine ⟨⟨id, var, depth, path⟩ :: entered, ?_, ?_, ?_⟩
        · rw [hown.after_eq]
          simp
        · exact fun hv => hown.nodup (List.nodup_cons.2 ⟨hid, hv⟩)
        · exact hown.perm

lemma subset_walk (room : Nat) (id var : String) (depth : Nat) (path v : List String) :
    v ⊆ (walk edges known room id var depth path v).1 := by
  obtain ⟨entered, h⟩ := @walk_unfolds edges known room id var depth path v
  rw [h.after_eq]
  exact List.subset_append_right _ _

/-! ### At most one step from each binding -/

/-- A slot holds an edge to a known atom with a binding that passes the variable of the step on, and
the step goes over that edge by that binding. -/
def Yields (edges : EdgeMap) (known : List (String × Atom)) (slot : String × Nat)
    (s : JourneyStep) : Prop :=
  ∃ e b depth path, (edges.crossings slot.1)[slot.2]? = some (e, b) ∧
    (Assoc.find? e.calleeId known).isSome ∧
    (b.var = some s.hop.variableIn ∨ b.code = s.hop.variableIn) ∧
    s = step known s.hop.variableIn depth path e b

/-- The slots of the steps from an arrival, in order. -/
def slotsFrom (edges : EdgeMap) (known : List (String × Atom)) (a : Arrival) :
    List (String × Nat) :=
  ((edges.crossings a.id).zipIdx.filter fun ((e, b), _) =>
    (Assoc.find? e.calleeId known).isSome ∧ (b.var = some a.var ∨ b.code = a.var)).map
      fun (_, i) => (a.id, i)

lemma fst_of_mem_slotsFrom {a : Arrival} {slot : String × Nat}
    (h : slot ∈ slotsFrom edges known a) : slot.1 = a.id := by
  obtain ⟨x, -, rfl⟩ := List.mem_map.1 h
  rfl

lemma nodup_slotsFrom (a : Arrival) : (slotsFrom edges known a).Nodup := by
  have hnumbers : ((edges.crossings a.id).zipIdx.map Prod.snd).Nodup := by
    rw [List.zipIdx_map_snd]
    exact List.nodup_range'
  refine List.Nodup.of_map Prod.snd ?_
  rw [slotsFrom, List.map_map]
  exact hnumbers.sublist (List.filter_sublist.map Prod.snd)

/-- Each step from an arrival is what its slot yields. -/
lemma yields_slotsFrom (a : Arrival) :
    List.Forall₂ (Yields edges known) (slotsFrom edges known a)
      (departures edges known (some a)) := by
  have hpassages : departures edges known (some a) =
      ((edges.crossings a.id).zipIdx.filter fun ((e, b), _) =>
        (Assoc.find? e.calleeId known).isSome ∧ (b.var = some a.var ∨ b.code = a.var)).map
          fun ((e, b), _) => step known a.var a.depth a.path e b := by
    rw [departures, stepsFrom, exits_eq_passages, passages]
    rw [show (edges.leaving a.id).flatMap (fun e => e.binding.bindings.map (e, ·)) =
      (edges.crossings a.id).zipIdx.map Prod.fst from (List.zipIdx_map_fst 0 _).symm,
      List.filter_map, List.map_map]
    rfl
  rw [hpassages, slotsFrom, List.forall₂_map_left_iff, List.forall₂_map_right_iff,
    List.forall₂_same]
  rintro ⟨⟨e, b⟩, i⟩ hmem
  obtain ⟨hget, hleads⟩ := List.mem_filter.1 hmem
  obtain ⟨hknown, hpasses⟩ := of_decide_eq_true hleads
  exact ⟨e, b, a.depth, a.path, List.mem_zipIdx_iff_getElem?.1 hget, hknown, hpasses, rfl⟩

/-- **No slot yields two steps of a walk.** -/
lemma exists_slots_walk (room : Nat) (id var : String) (depth : Nat) (path : List String) :
    ∃ slots : List (String × Nat), slots.Nodup ∧
      List.Forall₂ (Yields edges known) slots (walk edges known room id var depth path []).2 := by
  obtain ⟨entered, h⟩ := @walk_unfolds edges known room id var depth path []
  have hnodup : (entered.map Arrival.id).Nodup := by
    have hafter := h.nodup List.nodup_nil
    rw [h.after_eq, List.append_nil] at hafter
    exact List.nodup_reverse.1 hafter
  have hyields : List.Forall₂ (Yields edges known) (entered.flatMap (slotsFrom edges known))
      (entered.flatMap fun a => departures edges known (some a)) := by
    rw [List.flatMap_def, List.flatMap_def]
    refine List.rel_flatten ?_
    rw [List.forall₂_map_left_iff, List.forall₂_map_right_iff, List.forall₂_same]
    exact fun a _ => yields_slotsFrom a
  have hslots : (entered.flatMap (slotsFrom edges known)).Nodup := by
    refine List.nodup_flatMap.2 ⟨fun a _ => nodup_slotsFrom a, ?_⟩
    refine (List.pairwise_map.1 hnodup).imp fun {a b} hne => ?_
    intro slot ha hb
    exact hne ((fst_of_mem_slotsFrom ha).symm.trans (fst_of_mem_slotsFrom hb))
  -- the steps of the walk are these in another order, and their slots go with them
  obtain ⟨slots, hslots_yield, hperm⟩ := List.perm_comp_forall₂ h.perm hyields.flip
  exact ⟨slots, hperm.nodup_iff.2 hslots, hslots_yield.flip⟩

/-- So a walk has no more steps than there are bindings. -/
lemma length_walk_le (room : Nat) (id var : String) (depth : Nat) (path : List String) :
    (walk edges known room id var depth path []).2.length ≤ edges.bindingCount := by
  obtain ⟨slots, hnodup, hyields⟩ := @exists_slots_walk edges known room id var depth path
  have hin : List.Forall₂ (fun slot s => slot ∈ edges.slots ∧ Yields edges known slot s) slots
      (walk edges known room id var depth path []).2 := by
    refine hyields.imp fun slot s hslot => ⟨?_, hslot⟩
    obtain ⟨e, b, -, -, hget, -⟩ := hslot
    exact EdgeMap.mem_slots_of_getElem? hget
  have hsub : slots ⊆ edges.slots := ((List.forall₂_and_left slots _).1 hin).1
  calc (walk edges known room id var depth path []).2.length
      = slots.length := hyields.length_eq.symm
    _ ≤ edges.slots.length := (List.subperm_of_subset hnodup hsub).length_le
    _ = edges.bindingCount := edges.length_slots

/-! ### Enough levels -/

/-- How many ids with an entry have not been visited. -/
def unvisited (edges : EdgeMap) (v : List String) : Nat :=
  (edges.ids.filter (· ∉ v)).length

lemma unvisited_le_of_subset {v w : List String} (h : v ⊆ w) :
    unvisited edges w ≤ unvisited edges v := by
  refine (List.monotone_filter_right edges.ids fun id hid => ?_).length_le
  simp only [decide_eq_true_eq] at hid ⊢
  exact fun hmem => hid (h hmem)

lemma unvisited_cons_lt {id : String} {v : List String} (hid : edges.leaving id ≠ [])
    (hv : id ∉ v) : unvisited edges (id :: v) < unvisited edges v := by
  have hfilter : edges.ids.filter (· ∉ id :: v) = (edges.ids.filter (· ∉ v)).filter (· ≠ id) := by
    rw [List.filter_filter]
    refine List.filter_congr fun k _ => ?_
    simp
  have hmem : id ∈ edges.ids.filter (· ∉ v) :=
    List.mem_filter.2 ⟨EdgeMap.mem_ids_of_leaving_ne_nil hid, by simpa using hv⟩
  rw [unvisited, hfilter]
  exact List.length_filter_lt_length_iff_exists.2 ⟨id, hmem, by simp⟩

/-- Two runs of a walk, with `room` and `room'` levels left, that have visited the same of the ids
that have edges, and have a level for each id not visited. -/
structure Saturated (edges : EdgeMap) (room room' : Nat) (v v' : List String) : Prop where
  agree : ∀ id, edges.leaving id ≠ [] → (id ∈ v ↔ id ∈ v')
  unvisited_le : unvisited edges v ≤ room
  unvisited_le' : unvisited edges v' ≤ room'

/-- Where the runs of the walks behind each step give the same steps, so do those of the loop. -/
lemma expand_congr {R : List String → List String → Prop}
    (onward onward' : JourneyStep → List String → List String × List JourneyStep)
    {own : List JourneyStep}
    (honward : ∀ s ∈ own, ∀ v v', R v v' →
      R (onward s v).1 (onward' s v').1 ∧ (onward s v).2 = (onward' s v').2)
    {v v' : List String} (hv : R v v') :
    R (expand onward own v).1 (expand onward' own v').1 ∧
      (expand onward own v).2 = (expand onward' own v').2 := by
  induction own generalizing v v' with
  | nil => exact ⟨hv, rfl⟩
  | cons s rest ih =>
      obtain ⟨hv₁, hbehind⟩ := honward s List.mem_cons_self v v' hv
      obtain ⟨hv₂, hothers⟩ := ih (fun t ht => honward t (List.mem_cons_of_mem s ht)) hv₁
      refine ⟨hv₂, ?_⟩
      simp only [expand, hbehind, hothers]

/-- A walk from an atom without edges, or from one that was visited, reports nothing and visits no
atom with edges. -/
lemma walk_idle {id : String} {v : List String} (h : edges.leaving id ≠ [] → id ∈ v) (room : Nat)
    (var : String) (depth : Nat) (path : List String) :
    (walk edges known room id var depth path v).2 = [] ∧
      ∀ k, edges.leaving k ≠ [] →
        (k ∈ (walk edges known room id var depth path v).1 ↔ k ∈ v) := by
  cases room with
  | zero => exact ⟨rfl, fun _ _ => Iff.rfl⟩
  | succ room =>
      rw [walk]
      by_cases hid : id ∈ v
      · rw [if_pos (List.contains_iff_mem.2 hid)]
        exact ⟨rfl, fun _ _ => Iff.rfl⟩
      · have hnil : edges.leaving id = [] := by
          by_contra hne
          exact hid (h hne)
        have hsteps : stepsFrom edges known id var depth path = [] := by
          simp [stepsFrom, exits, hnil]
        rw [if_neg fun h => hid (List.contains_iff_mem.1 h), hsteps]
        refine ⟨rfl, fun k hk => ?_⟩
        -- the atom itself is visited now, but it has no edges
        have hne : k ≠ id := fun heq => hk (heq ▸ hnil)
        exact List.mem_cons.trans (or_iff_right hne)

namespace Saturated

variable {room room' : Nat} {v v' : List String}

/-- At a new atom with edges both runs have a level left, and after it one for each of the rest. -/
lemma enter {id : String} (h : Saturated edges room room' v v') (hid : edges.leaving id ≠ [])
    (hv : id ∉ v) :
    ∃ n n', room = n + 1 ∧ room' = n' + 1 ∧ Saturated edges n n' (id :: v) (id :: v') := by
  have hv' : id ∉ v' := fun hmem => hv ((h.agree id hid).2 hmem)
  have hlt := unvisited_cons_lt hid hv
  have hlt' := unvisited_cons_lt hid hv'
  have hle := h.unvisited_le
  have hle' := h.unvisited_le'
  refine ⟨room - 1, room' - 1, by omega, by omega, fun k hk => ?_, by omega, by omega⟩
  rw [List.mem_cons, List.mem_cons, h.agree k hk]

/-- The walks from an atom at which neither run has anything to do. -/
lemma idle {id : String} (h : Saturated edges room room' v v')
    (hidle : edges.leaving id ≠ [] → id ∈ v) (var : String) (depth : Nat) (path : List String) :
    Saturated edges room room' (walk edges known room id var depth path v).1
        (walk edges known room' id var depth path v').1 ∧
      (walk edges known room id var depth path v).2 =
        (walk edges known room' id var depth path v').2 := by
  have hidle' : edges.leaving id ≠ [] → id ∈ v' := fun hid => (h.agree id hid).1 (hidle hid)
  obtain ⟨hsteps, hvisited⟩ := @walk_idle edges known id v hidle room var depth path
  obtain ⟨hsteps', hvisited'⟩ := @walk_idle edges known id v' hidle' room' var depth path
  refine ⟨⟨fun k hk => ?_, ?_, ?_⟩, hsteps.trans hsteps'.symm⟩
  · rw [hvisited k hk, hvisited' k hk, h.agree k hk]
  · exact (unvisited_le_of_subset (subset_walk ..)).trans h.unvisited_le
  · exact (unvisited_le_of_subset (subset_walk ..)).trans h.unvisited_le'

/-- **Levels beyond the unvisited ids change nothing.** -/
lemma walk (h : Saturated edges room room' v v') (id var : String) (depth : Nat)
    (path : List String) :
    Saturated edges room room' (walk edges known room id var depth path v).1
        (walk edges known room' id var depth path v').1 ∧
      (walk edges known room id var depth path v).2 =
        (walk edges known room' id var depth path v').2 := by
  induction room generalizing room' v v' id var depth path with
  | zero =>
      by_cases hidle : edges.leaving id ≠ [] → id ∈ v
      · exact h.idle hidle var depth path
      · obtain ⟨hid, hv⟩ := Classical.not_imp.1 hidle
        obtain ⟨n, n', hroom, -⟩ := h.enter hid hv
        exact absurd hroom (Nat.zero_ne_add_one n)
  | succ room ih =>
      by_cases hidle : edges.leaving id ≠ [] → id ∈ v
      · exact h.idle hidle var depth path
      · obtain ⟨hid, hv⟩ := Classical.not_imp.1 hidle
        have hv' : id ∉ v' := fun hmem => hv ((h.agree id hid).2 hmem)
        obtain ⟨n, n', hroom, rfl, hnext⟩ := h.enter hid hv
        obtain rfl : room = n := Nat.succ.inj hroom
        rw [Journey.walk, Journey.walk, if_neg fun h => hv (List.contains_iff_mem.1 h),
          if_neg fun h => hv' (List.contains_iff_mem.1 h)]
        obtain ⟨hafter, hsteps⟩ := @expand_congr (Saturated edges room n')
          (fun s =>
            Journey.walk edges known room s.hop.calleeId s.hop.parameterIn (depth + 1) s.path)
          (fun s =>
            Journey.walk edges known n' s.hop.calleeId s.hop.parameterIn (depth + 1) s.path)
          (stepsFrom edges known id var depth path)
          (fun s _ w w' hw => ih hw s.hop.calleeId s.hop.parameterIn (depth + 1) s.path) _ _ hnext
        exact ⟨⟨hafter.agree, Nat.le_succ_of_le hafter.unvisited_le,
          Nat.le_succ_of_le hafter.unvisited_le'⟩, hsteps⟩

end Saturated

/-- **A journey is bounded by the bindings and saturates at the ids.**  For any edges, filed or not,
each step comes from a binding of its own, so there are no more steps than bindings; and a journey
with at least as many levels as there are ids with edges is the same for all such limits. -/
theorem trace_bounded_and_saturated (edges : EdgeMap) (known : List (String × Atom))
    (start var : String) :
    (∀ maxDepth : Int, ∃ slots : List (String × Nat), slots.Nodup ∧
      List.Forall₂ (Yields edges known) slots (trace edges known start var maxDepth)) ∧
    (∀ maxDepth : Int, (trace edges known start var maxDepth).length ≤ edges.bindingCount) ∧
    ∀ maxDepth : Int, edges.ids.length ≤ maxDepth →
      trace edges known start var maxDepth = trace edges known start var edges.ids.length := by
  refine ⟨fun maxDepth => exists_slots_walk maxDepth.toNat start var 1 [],
    fun maxDepth => length_walk_le maxDepth.toNat start var 1 [], fun maxDepth hdepth => ?_⟩
  have hall : unvisited edges [] = edges.ids.length := by simp [unvisited]
  have hstart : Saturated edges maxDepth.toNat (edges.ids.length : Int).toNat [] [] :=
    ⟨fun _ _ => Iff.rfl, by omega, by omega⟩
  exact (hstart.walk start var 1 []).2

/-- The two ways from `a` to `c` and the way back from `b` make three ids with edges; seven levels
give the journey that three give. -/
theorem trace_bounded_and_saturated_twoWays :
    ((EdgeMap.ofAtoms twoWays).ids.length : Int) = 3 ∧ (3 : Int) ≤ 7 ∧
      trace (EdgeMap.ofAtoms twoWays) (Atom.index twoWays) "a" "x" 7 =
        trace (EdgeMap.ofAtoms twoWays) (Atom.index twoWays) "a" "x" 3 := by
  have hids : ((EdgeMap.ofAtoms twoWays).ids.length : Int) = 3 := by decide +kernel
  obtain ⟨-, -, hsaturated⟩ :=
    trace_bounded_and_saturated (EdgeMap.ofAtoms twoWays) (Atom.index twoWays) "a" "x"
  have hseven := hsaturated 7 (by rw [hids]; decide)
  rw [hids] at hseven
  exact ⟨hids, by decide, hseven⟩

end Journey

end Lineage
