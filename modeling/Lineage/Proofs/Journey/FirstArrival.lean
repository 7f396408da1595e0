/-
The walk of a journey, read off its own steps.

The walk carries the atoms visited so far through two nested loops, so what it does at an atom
depends on everything it did before.  What comes out needs no such state.  An arrival at an atom is
the start itself, or a step to the atom that is not on the last level.  The walk goes on from an
atom at the first arrival there and never again, so the steps that leave the atom are those by which
the variable of that first arrival leaves it.  The main results are

* `Account`: what a stretch of the walk reports, in terms of the arrivals along it;
* `walk_account`: every walk gives such an account;
* `trace_first_arrival`: the meaning of a whole journey.
-/
import Lineage.Journey.Trace
import Lineage.Proofs.Edge.EdgeMap

namespace Lineage.Journey

/-! ### Arrivals -/

/-- An arrival at an atom. -/
structure Arrival where
  /-- The atom. -/
  id : String
  /-- The name that the variable has there. -/
  var : String
  /-- How many hops a step from there is from the start. -/
  depth : Nat
  /-- The ids of the callers on the way. -/
  path : List String
deriving DecidableEq, Repr

/-- The arrival at the callee of a step. -/
def Arrival.behind (s : JourneyStep) : Arrival :=
  ⟨s.hop.calleeId, s.hop.parameterIn, s.hop.depth.toNat + 1, s.path⟩

/-- The arrivals behind steps, in order, except behind those on the last level. -/
def arrivals (limit : Int) (steps : List JourneyStep) : List Arrival :=
  (steps.filter fun s => s.hop.depth < limit).map Arrival.behind

/-- The first arrival at an atom, the start being where the variable is first of all. -/
def firstArrival? (start var : String) (limit : Int) (steps : List JourneyStep) (id : String) :
    Option Arrival :=
  (⟨start, var, 1, []⟩ :: arrivals limit steps).find? fun a => a.id = id

/-- The steps that leave an atom. -/
def leaving (id : String) (steps : List JourneyStep) : List JourneyStep :=
  steps.filter fun s => s.hop.callerId = id

/-- Whether the walk goes on from an atom: from the start, and from the callee of every step that is
not on the last level. -/
def Expanded (start : String) (limit : Int) (steps : List JourneyStep) (id : String) : Prop :=
  id = start ∨ ∃ s ∈ steps, s.hop.calleeId = id ∧ s.hop.depth < limit

/-- The edges that leave an atom, each with each of its bindings, as far as the edge leads to a
known atom and the binding passes the variable on. -/
def passages (edges : EdgeMap) (known : List (String × Atom)) (id var : String) :
    List (Edge × Binding) :=
  ((edges.leaving id).flatMap fun e => e.binding.bindings.map (e, ·)).filter fun (e, b) =>
    (Assoc.find? e.calleeId known).isSome ∧ (b.var = some var ∨ b.code = var)

variable {edges : EdgeMap} {known : List (String × Atom)}

lemma exits_eq_passages (id var : String) :
    exits edges known id var = passages edges known id var := by
  unfold exits passages
  rw [List.filter_flatMap]
  congr 1
  funext e
  rw [List.filter_map]
  by_cases h : (Assoc.find? e.calleeId known).isSome
  · simp [h, Function.comp_def]
  · simp [h, Function.comp_def]

lemma callerId_of_mem_passages (hfiled : edges.Filed) {id var : String} {p : Edge × Binding}
    (hp : p ∈ passages edges known id var) : p.1.callerId = id := by
  obtain ⟨e, b⟩ := p
  simp only [passages, List.mem_filter, List.mem_flatMap, List.mem_map] at hp
  obtain ⟨⟨e', he', b', -, hb'⟩, -⟩ := hp
  cases hb'
  exact hfiled.callerId he'

@[simp] lemma arrivals_nil (limit : Int) : arrivals limit [] = [] := rfl

@[simp] lemma arrivals_append (limit : Int) (l₁ l₂ : List JourneyStep) :
    arrivals limit (l₁ ++ l₂) = arrivals limit l₁ ++ arrivals limit l₂ := by
  simp [arrivals]

lemma arrivals_cons (limit : Int) (s : JourneyStep) (l : List JourneyStep) :
    arrivals limit (s :: l) = arrivals limit [s] ++ arrivals limit l :=
  arrivals_append limit [s] l

lemma mem_arrivals {limit : Int} {steps : List JourneyStep} {a : Arrival} :
    a ∈ arrivals limit steps ↔ ∃ s ∈ steps, s.hop.depth < limit ∧ Arrival.behind s = a := by
  simp [arrivals, and_assoc]

@[simp] lemma leaving_nil (id : String) : leaving id [] = [] := rfl

@[simp] lemma leaving_append (id : String) (l₁ l₂ : List JourneyStep) :
    leaving id (l₁ ++ l₂) = leaving id l₁ ++ leaving id l₂ :=
  List.filter_append ..

lemma leaving_cons_of_ne {id : String} {s : JourneyStep} (h : s.hop.callerId ≠ id)
    (l : List JourneyStep) : leaving id (s :: l) = leaving id l := by
  simp [leaving, h]

lemma leaving_eq_nil {id : String} {l : List JourneyStep} (h : ∀ s ∈ l, s.hop.callerId ≠ id) :
    leaving id l = [] := by
  simpa [leaving] using h

lemma leaving_eq_self {id : String} {l : List JourneyStep} (h : ∀ s ∈ l, s.hop.callerId = id) :
    leaving id l = l := by
  simpa [leaving] using h

lemma firstArrival?_isSome_iff (start var : String) (limit : Int) (steps : List JourneyStep)
    (id : String) :
    (firstArrival? start var limit steps id).isSome ↔ Expanded start limit steps id := by
  simp only [firstArrival?, List.find?_isSome, List.mem_cons, decide_eq_true_eq, Expanded]
  constructor
  · rintro ⟨a, rfl | ha, rfl⟩
    · exact Or.inl rfl
    · obtain ⟨s, hs, hdepth, rfl⟩ := mem_arrivals.1 ha
      exact Or.inr ⟨s, hs, rfl, hdepth⟩
  · rintro (rfl | ⟨s, hs, rfl, hdepth⟩)
    · exact ⟨_, Or.inl rfl, rfl⟩
    · exact ⟨Arrival.behind s, Or.inr (mem_arrivals.2 ⟨s, hs, hdepth, rfl⟩), rfl⟩

/-! ### What a stretch of the walk reports -/

/-- The steps from an arrival. -/
def departures (edges : EdgeMap) (known : List (String × Atom)) : Option Arrival → List JourneyStep
  | none => []
  | some a => stepsFrom edges known a.id a.var a.depth a.path

/-- The account of a stretch of the walk: `before` and `after` are the atoms visited before and
after it, `arrived` are the arrivals that it follows up, in order, and `steps` is what it reports.
The steps that leave an atom visited before are `own`, and an atom that is new is left by the steps
from the first arrival there. -/
structure Account (edges : EdgeMap) (known : List (String × Atom)) (before after : List String)
    (own : List JourneyStep) (arrived : List Arrival) (steps : List JourneyStep) : Prop where
  mem_after : ∀ id, id ∈ after ↔ id ∈ before ∨ ∃ a ∈ arrived, a.id = id
  leaving_old : ∀ id ∈ before, leaving id steps = leaving id own
  leaving_new : ∀ id ∉ before,
    leaving id steps = departures edges known (arrived.find? fun a => a.id = id)

namespace Account

variable {limit : Int} {v v₁ v₂ : List String}

lemma nil (limit : Int) (v : List String) : Account edges known v v [] (arrivals limit []) [] where
  mem_after := by simp
  leaving_old := by simp
  leaving_new := by simp [departures]

/-- A step, the stretch behind it, and the stretch after that. -/
lemma cons {s : JourneyStep} {rest behind others : List JourneyStep}
    (hs : s.hop.callerId ∈ v) (hrest : ∀ t ∈ rest, t.hop.callerId ∈ v)
    (hbehind : Account edges known v v₁ [] (arrivals limit (s :: behind)) behind)
    (hothers : Account edges known v₁ v₂ rest (arrivals limit others) others) :
    Account edges known v v₂ (s :: rest) (arrivals limit (s :: behind ++ others))
      (s :: behind ++ others) where
  mem_after id := by
    rw [hothers.mem_after, hbehind.mem_after, arrivals_append]
    simp only [List.mem_append, or_and_right, exists_or, or_assoc]
  leaving_old id hid := by
    have hbefore : id ∈ v₁ := (hbehind.mem_after id).2 (Or.inl hid)
    have hnone : leaving id behind = [] := hbehind.leaving_old id hid
    calc leaving id (s :: behind ++ others)
        = leaving id [s] ++ leaving id behind ++ leaving id others := by
          rw [← leaving_append, ← leaving_append, List.singleton_append]
      _ = leaving id [s] ++ leaving id rest := by
          rw [hnone, hothers.leaving_old id hbefore, List.append_nil]
      _ = leaving id (s :: rest) := by
          rw [← leaving_append, List.singleton_append]
  leaving_new id hid := by
    have hsid : s.hop.callerId ≠ id := fun h => hid (h ▸ hs)
    have hbehind_id := hbehind.leaving_new id hid
    rw [List.cons_append, leaving_cons_of_ne hsid, leaving_append, ← List.cons_append,
      arrivals_append, List.find?_append]
    by_cases hnew : id ∈ v₁
    · -- the atom is new before the stretch behind the step and no longer after it
      have hnone : leaving id others = [] := by
        rw [hothers.leaving_old id hnew]
        exact leaving_eq_nil fun t ht h => hid (h ▸ hrest t ht)
      have hsome : ((arrivals limit (s :: behind)).find? fun a => a.id = id).isSome := by
        rw [List.find?_isSome]
        rcases (hbehind.mem_after id).1 hnew with h | ⟨a, ha, haid⟩
        · exact absurd h hid
        · exact ⟨a, ha, by simpa using haid⟩
      obtain ⟨a, ha⟩ := Option.isSome_iff_exists.1 hsome
      rw [hbehind_id, hnone, ha, Option.some_or, List.append_nil]
    · -- the atom is still new then, so no arrival behind the step was at it
      have hnone : (arrivals limit (s :: behind)).find? (fun a => a.id = id) = none := by
        rw [List.find?_eq_none]
        intro a ha haid
        exact hnew ((hbehind.mem_after id).2 (Or.inr ⟨a, ha, by simpa using haid⟩))
      rw [hbehind_id, hothers.leaving_new id hnew, hnone, Option.none_or]
      rfl

end Account

/-! ### The walk -/

/-- The loop over the steps that leave visited atoms, from the account of the walk behind each. -/
lemma expand_account {limit : Int}
    (onward : JourneyStep → List String → List String × List JourneyStep) {own : List JourneyStep}
    (honward : ∀ s ∈ own, ∀ v, Account edges known v (onward s v).1 []
      (arrivals limit (s :: (onward s v).2)) (onward s v).2)
    {v : List String} (hown : ∀ s ∈ own, s.hop.callerId ∈ v) :
    Account edges known v (expand onward own v).1 own (arrivals limit (expand onward own v).2)
      (expand onward own v).2 := by
  -- the visited atoms grow along the loop, so the induction is over all of them
  induction own generalizing v with
  | nil => exact Account.nil limit v
  | cons s rest ih =>
      have hbehind := honward s List.mem_cons_self v
      have hsub : ∀ id ∈ v, id ∈ (onward s v).1 :=
        fun id hid => (hbehind.mem_after id).2 (Or.inl hid)
      have hrest : ∀ t ∈ rest, t.hop.callerId ∈ v :=
        fun t ht => hown t (List.mem_cons_of_mem _ ht)
      have hothers := ih (fun t ht => honward t (List.mem_cons_of_mem _ ht))
        fun t ht => hsub _ (hrest t ht)
      exact Account.cons (hown s List.mem_cons_self) hrest hbehind hothers

lemma callerId_stepsFrom (hfiled : edges.Filed) {id var : String} {depth : Nat} {path : List String}
    {s : JourneyStep} (hs : s ∈ stepsFrom edges known id var depth path) :
    s.hop.callerId = id := by
  rw [stepsFrom, exits_eq_passages] at hs
  obtain ⟨p, hp, rfl⟩ := List.mem_map.1 hs
  exact callerId_of_mem_passages hfiled hp

lemma depth_stepsFrom {id var : String} {depth : Nat} {path : List String} {s : JourneyStep}
    (hs : s ∈ stepsFrom edges known id var depth path) : s.hop.depth = depth := by
  simp only [stepsFrom, List.mem_map] at hs
  obtain ⟨p, -, rfl⟩ := hs
  rfl

/-- The arrival from which a walk of `room` levels starts, if it has a level at all. -/
def startOf (room : Nat) (a : Arrival) : List Arrival :=
  if room = 0 then [] else [a]

lemma arrivals_singleton {limit : Int} {s : JourneyStep} {room depth : Nat}
    (hdepth : s.hop.depth = depth) (hroom : (depth + (room + 1) : Int) = limit + 1) :
    arrivals limit [s] = startOf room ⟨s.hop.calleeId, s.hop.parameterIn, depth + 1, s.path⟩ := by
  unfold arrivals startOf
  by_cases h : room = 0
  · have hge : ¬ s.hop.depth < limit := by omega
    simp [h, hge]
  · have hlt : s.hop.depth < limit := by omega
    have hkept : [s].filter (fun s => s.hop.depth < limit) = [s] := by simp [hlt]
    rw [hkept, if_neg h, List.map_singleton, Arrival.behind, hdepth, Int.toNat_natCast]

/-- An arrival at a visited atom: nothing is reported, and no other atom is arrived at. -/
lemma Account.again {v : List String} {a : Arrival} (ha : a.id ∈ v) :
    Account edges known v v [] [a] [] where
  mem_after id := by
    simp only [List.mem_singleton, exists_eq_left]
    exact ⟨Or.inl, fun h => h.elim (fun h => h) fun h => h ▸ ha⟩
  leaving_old _ _ := rfl
  leaving_new id hid := by
    have hne : a.id ≠ id := fun h => hid (h ▸ ha)
    simp [departures, hne]

/-- An arrival at a new atom: the stretch that follows up its own steps comes behind it. -/
lemma Account.enter (hfiled : edges.Filed) {v v' : List String} {a : Arrival}
    {arrived : List Arrival} {steps : List JourneyStep} (ha : a.id ∉ v)
    (hacc : Account edges known (a.id :: v) v' (stepsFrom edges known a.id a.var a.depth a.path)
      arrived steps) :
    Account edges known v v' [] (a :: arrived) steps where
  mem_after id := by
    rw [hacc.mem_after, List.mem_cons, or_assoc, or_left_comm]
    simp only [List.mem_cons, exists_eq_or_imp, @eq_comm _ id]
  leaving_old id hid := by
    rw [hacc.leaving_old id (List.mem_cons_of_mem _ hid)]
    exact leaving_eq_nil fun s hs h => ha ((callerId_stepsFrom hfiled hs).symm.trans h ▸ hid)
  leaving_new id hid := by
    by_cases heq : a.id = id
    · subst heq
      rw [hacc.leaving_old a.id List.mem_cons_self,
        leaving_eq_self fun s hs => callerId_stepsFrom hfiled hs]
      simp [departures]
    · rw [hacc.leaving_new id (by simp [Ne.symm heq, hid])]
      simp [heq]

/-- **The account of a walk.**  A walk that ends `room` levels below its start, at the limit,
follows up the arrival at its start and the arrivals behind its own steps. -/
lemma walk_account (hfiled : edges.Filed) {limit : Int} (room : Nat) (id var : String) (depth : Nat)
    (path v : List String) (hroom : (depth + room : Int) = limit + 1) :
    Account edges known v (walk edges known room id var depth path v).1 []
      (startOf room ⟨id, var, depth, path⟩ ++
        arrivals limit (walk edges known room id var depth path v).2)
      (walk edges known room id var depth path v).2 := by
  -- the room is what the recursion goes down by; the depth grows as it shrinks
  induction room generalizing id var depth path v with
  | zero => exact Account.nil limit v
  | succ room ih =>
      rw [startOf, if_neg (Nat.add_one_ne_zero room), walk]
      by_cases hid : id ∈ v
      · rw [if_pos (List.contains_iff_mem.2 hid)]
        exact Account.again hid
      · rw [if_neg fun h => hid (List.contains_iff_mem.1 h)]
        refine Account.enter hfiled hid (expand_account _ (fun s hs v => ?_) fun s hs => ?_)
        · rw [arrivals_cons, arrivals_singleton (depth_stepsFrom hs) (by push_cast at hroom; omega)]
          exact ih s.hop.calleeId s.hop.parameterIn (depth + 1) s.path v
            (by push_cast at hroom ⊢; omega)
        · rw [callerId_stepsFrom hfiled hs]
          exact List.mem_cons_self

/-! ### The journey -/

variable {start var : String} {maxDepth : Int}

/-- The steps of a journey that leave an atom are those from the first arrival there. -/
lemma leaving_trace (hfiled : edges.Filed) (hdepth : 1 ≤ maxDepth) (id : String) :
    leaving id (trace edges known start var maxDepth) =
      departures edges known
        (firstArrival? start var maxDepth (trace edges known start var maxDepth) id) := by
  have hroom : ((1 : Nat) + (maxDepth.toNat : Int)) = maxDepth + 1 := by omega
  have hacc : Account edges known [] _ [] _ _ :=
    walk_account hfiled maxDepth.toNat start var 1 [] [] hroom
  have hstart : startOf maxDepth.toNat ⟨start, var, 1, []⟩ = [⟨start, var, 1, []⟩] :=
    if_neg (by omega)
  have hnew := hacc.leaving_new id List.not_mem_nil
  rw [hstart, List.singleton_append] at hnew
  exact hnew

lemma id_of_firstArrival? {limit : Int} {steps : List JourneyStep} {id : String} {a : Arrival}
    (h : firstArrival? start var limit steps id = some a) : a.id = id := by
  simpa using List.find?_some h

lemma departures_firstArrival? {limit : Int} {steps : List JourneyStep} {id : String} {a : Arrival}
    (h : firstArrival? start var limit steps id = some a) :
    departures edges known (some a) =
      (passages edges known id a.var).map fun (e, b) => step known a.var a.depth a.path e b := by
  simp only [departures, stepsFrom, id_of_firstArrival? h, exits_eq_passages]

lemma one_le_of_mem_trace {s : JourneyStep} (hs : s ∈ trace edges known start var maxDepth) :
    1 ≤ maxDepth := by
  by_cases h : 1 ≤ maxDepth
  · exact h
  · have hroom : maxDepth.toNat = 0 := by omega
    simp [trace, hroom, walk] at hs

/-- Every step of a journey is one of those from the first arrival at its caller. -/
lemma exists_arrival_of_mem_trace (hfiled : edges.Filed) {s : JourneyStep}
    (hs : s ∈ trace edges known start var maxDepth) :
    ∃ a, firstArrival? start var maxDepth (trace edges known start var maxDepth)
        s.hop.callerId = some a ∧
      ∃ p ∈ passages edges known s.hop.callerId a.var,
        step known a.var a.depth a.path p.1 p.2 = s := by
  have hmem : s ∈ leaving s.hop.callerId (trace edges known start var maxDepth) :=
    List.mem_filter.2 ⟨hs, by simp⟩
  rw [leaving_trace hfiled (one_le_of_mem_trace hs)] at hmem
  cases h : firstArrival? start var maxDepth (trace edges known start var maxDepth)
      s.hop.callerId with
  | none => rw [h] at hmem; exact absurd hmem List.not_mem_nil
  | some a =>
      rw [h, departures_firstArrival? h] at hmem
      exact ⟨a, rfl, List.mem_map.1 hmem⟩

/-- Every passage from a first arrival is a step of the journey. -/
lemma step_mem_trace (hfiled : edges.Filed) (hdepth : 1 ≤ maxDepth) {id : String} {a : Arrival}
    (ha : firstArrival? start var maxDepth (trace edges known start var maxDepth) id = some a)
    {p : Edge × Binding} (hp : p ∈ passages edges known id a.var) :
    step known a.var a.depth a.path p.1 p.2 ∈ trace edges known start var maxDepth := by
  have hmem : step known a.var a.depth a.path p.1 p.2 ∈
      leaving id (trace edges known start var maxDepth) := by
    rw [leaving_trace hfiled hdepth, ha, departures_firstArrival? ha]
    exact List.mem_map_of_mem hp
  exact (List.mem_filter.1 hmem).1

/-- **The meaning of a journey.**  Where every edge is filed under its caller, the steps of a
journey that leave an atom from which it goes on are, in order, one for each edge and binding by
which the variable of the first arrival there leaves the atom, at the depth of that arrival; and no
step leaves any other atom. -/
theorem trace_first_arrival (edges : EdgeMap) (known : List (String × Atom)) (start var : String)
    (maxDepth : Int) (hfiled : edges.Filed) (hdepth : 1 ≤ maxDepth) :
    (∀ id, Expanded start maxDepth (trace edges known start var maxDepth) id →
      ∃ a, firstArrival? start var maxDepth (trace edges known start var maxDepth) id = some a ∧
        leaving id (trace edges known start var maxDepth) =
          (passages edges known id a.var).map fun (e, b) => step known a.var a.depth a.path e b) ∧
    ∀ s ∈ trace edges known start var maxDepth,
      Expanded start maxDepth (trace edges known start var maxDepth) s.hop.callerId := by
  constructor
  · intro id hid
    rw [← firstArrival?_isSome_iff start var] at hid
    obtain ⟨a, ha⟩ := Option.isSome_iff_exists.1 hid
    exact ⟨a, ha, by rw [leaving_trace hfiled hdepth, ha, departures_firstArrival? ha]⟩
  · intro s hs
    obtain ⟨a, ha, -⟩ := exists_arrival_of_mem_trace hfiled hs
    rw [← firstArrival?_isSome_iff start var, ha]
    rfl

/-! ### An example -/

/-- An atom that stands alone in its file, with the given parameters and calls. -/
def soloAtom (id : String) (params : List String) (calls : List CallSite) : Atom where
  id
  name := id
  filePath := id
  line := 1
  isExported := false
  isAsync := false
  imports := []
  calls
  dataFlow := some ⟨params.map fun p => ⟨p, .simple, 0, false, none, [], none⟩, [], []⟩
  archetype := none
  purpose := none
  complexity := 1
  linesOfCode := 0
  isTestCallback := false
  testCallbackType := none
  className := none
  semantic := none
  code := ""

/-- A call that passes variables on. -/
def passing (callee : String) (vars : List String) : CallSite :=
  ⟨callee, 1, some (vars.map fun v => .obj [("type", .str "Identifier"), ("name", .str v)])⟩

/-- Two ways from `a` to `c`: at once, as `q`, and over `b`, as `r`.  Only `q` leads on to `d`; from
`b` a call leads back to `a`. -/
def twoWays : List Atom :=
  [soloAtom "a" ["x"] [passing "b" ["x"], passing "c" ["x"]],
    soloAtom "b" ["p"] [passing "c" ["k", "p"], passing "a" ["p"]],
    soloAtom "c" ["q", "r"] [passing "d" ["q"]],
    soloAtom "d" ["z"] []]

/-- Two levels deep the journey goes on from `c` under the name `q`. -/
theorem trace_first_arrival_twoWays :
    (EdgeMap.ofAtoms twoWays).Filed ∧ (1 : Int) ≤ 2 ∧
      Expanded "a" 2 (trace (EdgeMap.ofAtoms twoWays) (Atom.index twoWays) "a" "x" 2) "c" ∧
      ∃ a, firstArrival? "a" "x" 2
          (trace (EdgeMap.ofAtoms twoWays) (Atom.index twoWays) "a" "x" 2) "c" = some a ∧
        a = ⟨"c", "q", 2, ["a"]⟩ ∧
        leaving "c" (trace (EdgeMap.ofAtoms twoWays) (Atom.index twoWays) "a" "x" 2) =
          (passages (EdgeMap.ofAtoms twoWays) (Atom.index twoWays) "c" a.var).map
            fun (e, b) => step (Atom.index twoWays) a.var a.depth a.path e b := by
  have hexp : Expanded "a" 2 (trace (EdgeMap.ofAtoms twoWays) (Atom.index twoWays) "a" "x" 2) "c" :=
    (firstArrival?_isSome_iff "a" "x" 2 _ "c").1 (by decide +kernel)
  have hfirst : firstArrival? "a" "x" 2
      (trace (EdgeMap.ofAtoms twoWays) (Atom.index twoWays) "a" "x" 2) "c" =
        some ⟨"c", "q", 2, ["a"]⟩ := by decide +kernel
  obtain ⟨a, ha, hleaving⟩ := (trace_first_arrival (EdgeMap.ofAtoms twoWays) (Atom.index twoWays)
    "a" "x" 2 (EdgeMap.filed_ofAtoms twoWays) (by decide)).1 "c" hexp
  have haeq : a = ⟨"c", "q", 2, ["a"]⟩ := Option.some.inj (ha.symm.trans hfirst)
  exact ⟨EdgeMap.filed_ofAtoms twoWays, by decide, hexp, a, ha, haeq, hleaving⟩

end Lineage.Journey
