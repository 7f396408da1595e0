/-
The chain of callers behind a step.

A step of a journey departs from an arrival, and the arrival is the start or lies behind a step
that was reported before (`Linked`).  Following the arrivals back therefore gives, for every step, a
chain of steps that begins at the start.  Along the chain the depth grows by one with each step.
Since the walk goes on from an atom once only, the depth at which it leaves an atom is fixed, and so
no atom comes twice on a chain.  The main results are

* `walk_linked`: the steps of a walk are linked;
* `OnCourse.behind`: what holds of the arrival that a step departs from holds of the one behind it;
* `steps_justified`: what every step of a journey along the calls between atoms tells of its chain.
-/
import Lineage.Proofs.Edge.Resolution
import Lineage.Proofs.Journey.DepthLimit

namespace Lineage.Journey

variable {edges : EdgeMap} {known : List (String × Atom)} {limit : Int}

/-! ### Linked steps -/

/-- Each step departs from one of the arrivals `arrived`, or from one behind a step before it. -/
inductive Linked (edges : EdgeMap) (known : List (String × Atom)) (limit : Int) :
    List Arrival → List JourneyStep → Prop
  | nil (arrived : List Arrival) : Linked edges known limit arrived []
  | cons {arrived : List Arrival} {a : Arrival} {s : JourneyStep} {rest : List JourneyStep} :
      a ∈ arrived → s ∈ departures edges known (some a) →
      Linked edges known limit (arrivals limit [s] ++ arrived) rest →
      Linked edges known limit arrived (s :: rest)

namespace Linked

lemma mono {arrived arrived' : List Arrival} {steps : List JourneyStep}
    (h : Linked edges known limit arrived steps) (hsub : arrived ⊆ arrived') :
    Linked edges known limit arrived' steps := by
  induction h generalizing arrived' with
  | nil => exact .nil arrived'
  | cons ha hs _ ih =>
      refine .cons (hsub ha) hs (ih (List.append_subset.2 ⟨?_, ?_⟩))
      · exact List.subset_append_left _ _
      · exact List.subset_append_of_subset_right _ hsub

lemma append {arrived : List Arrival} {steps more : List JourneyStep}
    (hsteps : Linked edges known limit arrived steps)
    (hmore : Linked edges known limit arrived more) :
    Linked edges known limit arrived (steps ++ more) := by
  induction hsteps with
  | nil => exact hmore
  | cons ha hs _ ih =>
      exact .cons ha hs (ih (hmore.mono (List.subset_append_right _ _)))

/-- A property of arrivals that goes over to the arrival behind each step holds of all arrivals that
the steps depart from. -/
lemma exists_arrival {P : Arrival → Prop} {arrived : List Arrival} {steps : List JourneyStep}
    (h : Linked edges known limit arrived steps) (hP : ∀ a ∈ arrived, P a)
    (hbehind : ∀ a s, s ∈ steps → s ∈ departures edges known (some a) → s.hop.depth < limit →
      P a → P (Arrival.behind s))
    {front back : List JourneyStep} {s : JourneyStep} (hsplit : steps = front ++ s :: back) :
    ∃ a ∈ arrived ++ arrivals limit front, P a ∧ s ∈ departures edges known (some a) := by
  induction h generalizing front with
  | nil => simp at hsplit
  | @cons arrived a t rest ha ht _ ih =>
      cases front with
      | nil =>
          rw [List.nil_append, List.cons.injEq] at hsplit
          exact ⟨a, by simpa using ha, hP a ha, hsplit.1 ▸ ht⟩
      | cons t' front =>
          rw [List.cons_append, List.cons.injEq] at hsplit
          obtain ⟨rfl, hrest⟩ := hsplit
          have hP' : ∀ b ∈ arrivals limit [t] ++ arrived, P b := by
            intro b hb
            rcases List.mem_append.1 hb with hb | hb
            · obtain ⟨u, hu, hdepth, rfl⟩ := mem_arrivals.1 hb
              obtain rfl := List.mem_singleton.1 hu
              exact hbehind a u List.mem_cons_self ht hdepth (hP a ha)
            · exact hP b hb
          obtain ⟨b, hb, hPb, hs⟩ := ih hP'
            (fun b u hu => hbehind b u (List.mem_cons_of_mem t hu)) hrest
          refine ⟨b, ?_, hPb, hs⟩
          rw [arrivals_cons]
          simp only [List.mem_append] at hb ⊢
          tauto

end Linked

/-- The loop over steps from one arrival, from what links the steps behind each. -/
lemma expand_linked (onward : JourneyStep → List String → List String × List JourneyStep)
    {a : Arrival} {own : List JourneyStep} (hown : ∀ s ∈ own, s ∈ departures edges known (some a))
    (honward : ∀ s ∈ own, ∀ v, Linked edges known limit (arrivals limit [s]) (onward s v).2)
    (v : List String) : Linked edges known limit [a] (expand onward own v).2 := by
  induction own generalizing v with
  | nil => exact .nil [a]
  | cons s rest ih =>
      have hbehind := honward s List.mem_cons_self v
      have hothers := ih (fun t ht => hown t (List.mem_cons_of_mem s ht))
        (fun t ht => honward t (List.mem_cons_of_mem s ht)) (onward s v).1
      exact .cons List.mem_cons_self (hown s List.mem_cons_self)
        ((hbehind.mono (List.subset_append_left _ _)).append
          (hothers.mono (List.subset_append_right _ _)))

/-- The steps of a walk are linked to the arrival at its start. -/
lemma walk_linked (room : Nat) (id var : String) (depth : Nat) (path v : List String)
    (hroom : (depth + room : Int) = limit + 1) :
    Linked edges known limit (startOf room ⟨id, var, depth, path⟩)
      (walk edges known room id var depth path v).2 := by
  induction room generalizing id var depth path v with
  | zero => exact .nil _
  | succ room ih =>
      rw [startOf, if_neg (Nat.add_one_ne_zero room), walk]
      by_cases hid : id ∈ v
      · rw [if_pos (List.contains_iff_mem.2 hid)]
        exact .nil _
      · rw [if_neg fun h => hid (List.contains_iff_mem.1 h)]
        refine expand_linked _ (fun s hs => hs) (fun s hs v => ?_) _
        have hdepth := depth_stepsFrom hs
        rw [arrivals_singleton hdepth (by push_cast at hroom; omega)]
        exact ih s.hop.calleeId s.hop.parameterIn (depth + 1) s.path v
          (by push_cast at hroom ⊢; omega)

/-! ### Arrivals on course -/

variable {start var : String}

/-- What a step takes from the arrival that it departs from. -/
lemma of_mem_departures (hfiled : edges.Filed) {a : Arrival} {s : JourneyStep}
    (hs : s ∈ departures edges known (some a)) :
    s.hop.callerId = a.id ∧ s.hop.variableIn = a.var ∧ s.hop.depth = a.depth ∧
      s.path = a.path ++ [a.id] := by
  have hcaller : s.hop.callerId = a.id := callerId_stepsFrom hfiled hs
  obtain ⟨p, -, rfl⟩ := List.mem_map.1 hs
  refine ⟨hcaller, rfl, rfl, ?_⟩
  rw [← hcaller]
  rfl

/-- An arrival within the limit, by a path of distinct atoms from the start, each of which the
journey `steps` leaves at a smaller depth. -/
structure OnCourse (start var : String) (limit : Int) (steps : List JourneyStep) (a : Arrival) :
    Prop where
  depth_le : a.depth ≤ limit
  depth_eq : a.depth = a.path.length + 1
  head_path : (a.path ++ [a.id]).head? = some start
  nodup_path : a.path.Nodup
  path_before : ∀ id ∈ a.path, ∃ b, firstArrival? start var limit steps id = some b ∧
    b.depth < a.depth

lemma onCourse_start (hlimit : 1 ≤ limit) (steps : List JourneyStep) :
    OnCourse start var limit steps ⟨start, var, 1, []⟩ where
  depth_le := hlimit
  depth_eq := rfl
  head_path := rfl
  nodup_path := List.nodup_nil
  path_before := by simp

/-- The depth at which a journey leaves an atom is that of the first arrival there. -/
lemma exists_firstArrival?_depth (hfiled : edges.Filed) {s : JourneyStep}
    (hs : s ∈ trace edges known start var limit) :
    ∃ b, firstArrival? start var limit (trace edges known start var limit) s.hop.callerId = some b ∧
      s.hop.depth = b.depth := by
  obtain ⟨b, hb, p, -, rfl⟩ := exists_arrival_of_mem_trace hfiled hs
  exact ⟨b, hb, rfl⟩

/-- An atom that a journey leaves is not on the way to it. -/
lemma OnCourse.nodup_concat (hfiled : edges.Filed) {a : Arrival} {s : JourneyStep}
    (h : OnCourse start var limit (trace edges known start var limit) a)
    (hs : s ∈ trace edges known start var limit) (hsa : s ∈ departures edges known (some a)) :
    (a.path ++ [a.id]).Nodup := by
  have hnotMem : a.id ∉ a.path := by
    intro hmem
    obtain ⟨hcaller, -, hdepth, -⟩ := of_mem_departures hfiled hsa
    obtain ⟨b, hb, hbdepth⟩ := exists_firstArrival?_depth hfiled hs
    -- it would be left at its own depth and at a smaller one
    obtain ⟨b', hb', hlt⟩ := h.path_before a.id hmem
    rw [hcaller, hb', Option.some.injEq] at hb
    subst hb
    omega
  rw [← List.concat_eq_append]
  exact h.nodup_path.concat hnotMem

/-- Behind a step from an arrival on course, not on the last level, is an arrival on course. -/
lemma OnCourse.behind (hfiled : edges.Filed) {a : Arrival} {s : JourneyStep}
    (h : OnCourse start var limit (trace edges known start var limit) a)
    (hs : s ∈ trace edges known start var limit) (hsa : s ∈ departures edges known (some a))
    (hlt : s.hop.depth < limit) :
    OnCourse start var limit (trace edges known start var limit) (Arrival.behind s) := by
  obtain ⟨hcaller, -, hdepth, hpath⟩ := of_mem_departures hfiled hsa
  have hdepth' : (Arrival.behind s).depth = a.depth + 1 := by
    rw [Arrival.behind, hdepth, Int.toNat_natCast]
  have hpath' : (Arrival.behind s).path = a.path ++ [a.id] := hpath
  constructor
  case depth_le => omega
  case depth_eq =>
    rw [hdepth', hpath', List.length_append, List.length_singleton, h.depth_eq]
  case head_path =>
    rw [hpath', List.head?_append, h.head_path, Option.some_or]
  case nodup_path =>
    rw [hpath']
    exact h.nodup_concat hfiled hs hsa
  case path_before =>
    intro id hid
    rw [hpath', List.mem_append, List.mem_singleton] at hid
    rcases hid with hid | rfl
    · obtain ⟨b, hb, hblt⟩ := h.path_before id hid
      exact ⟨b, hb, by omega⟩
    · obtain ⟨b, hb, hbdepth⟩ := exists_firstArrival?_depth hfiled hs
      exact ⟨b, hcaller ▸ hb, by omega⟩

/-- Every step of a journey departs from an arrival on course: the start, or an arrival behind a
step before it. -/
lemma exists_onCourse (hfiled : edges.Filed) {front back : List JourneyStep} {s : JourneyStep}
    (hsplit : trace edges known start var limit = front ++ s :: back) :
    ∃ a ∈ ⟨start, var, 1, []⟩ :: arrivals limit front,
      OnCourse start var limit (trace edges known start var limit) a ∧
        s ∈ departures edges known (some a) := by
  have hs : s ∈ trace edges known start var limit := by
    rw [hsplit]
    simp
  have hlimit : 1 ≤ limit := one_le_of_mem_trace hs
  have hlinked : Linked edges known limit (startOf limit.toNat ⟨start, var, 1, []⟩)
      (trace edges known start var limit) :=
    walk_linked limit.toNat start var 1 [] [] (by omega)
  rw [startOf, if_neg (by omega)] at hlinked
  refine hlinked.exists_arrival (fun a ha => ?_) (fun a t ht hta hlt ha => ?_) hsplit
  · rw [List.mem_singleton.1 ha]
    exact onCourse_start hlimit _
  · exact ha.behind hfiled ht hta hlt

lemma depth_of_mem_trace (hfiled : edges.Filed) {s : JourneyStep}
    (hs : s ∈ trace edges known start var limit) :
    1 ≤ s.hop.depth ∧ s.hop.depth = s.path.length := by
  obtain ⟨front, back, hsplit⟩ := List.append_of_mem hs
  obtain ⟨a, -, hcourse, hsa⟩ := exists_onCourse hfiled hsplit
  obtain ⟨-, -, hdepth, hpath⟩ := of_mem_departures hfiled hsa
  have hdepth_eq := hcourse.depth_eq
  rw [hpath, List.length_append, List.length_singleton]
  omega

/-- An arrival that a step can depart from is the start, at the first level, or lies one level
behind a step before it. -/
lemma start_or_behind (hfiled : edges.Filed) {front back : List JourneyStep} {a : Arrival}
    (hsplit : trace edges known start var limit = front ++ back)
    (ha : a ∈ ⟨start, var, 1, []⟩ :: arrivals limit front) :
    a = ⟨start, var, 1, []⟩ ∨
      ∃ p ∈ front, a = Arrival.behind p ∧ 1 ≤ p.hop.depth ∧ a.depth = p.hop.depth + 1 := by
  rcases List.mem_cons.1 ha with rfl | ha
  · exact Or.inl rfl
  · obtain ⟨p, hp, -, rfl⟩ := mem_arrivals.1 ha
    have hp_mem : p ∈ trace edges known start var limit := by
      rw [hsplit]
      exact List.mem_append_left _ hp
    have hone := (depth_of_mem_trace hfiled hp_mem).1
    refine Or.inr ⟨p, hp, rfl, hone, ?_⟩
    rw [Arrival.behind, Int.natCast_add, Int.toNat_of_nonneg (by omega)]
    rfl

/-! ### Journeys along calls between files -/

/-- A step `s` of a journey with the steps `front` before it is justified by a chain of steps from
the start: the callers on it are distinct, there is one for each level, and the last is the caller
of the step.  A step that leaves the start passes on the variable of the journey; any other is the
next one after a step before it, which brought the variable under its name. -/
structure Justified (start var : String) (maxDepth : Int) (front : List JourneyStep)
    (s : JourneyStep) : Prop where
  one_le_depth : 1 ≤ s.hop.depth
  depth_le : s.hop.depth ≤ maxDepth
  length_path : (s.path.length : Int) = s.hop.depth
  head_path : s.path.head? = some start
  last_path : s.path.getLast? = some s.hop.callerId
  nodup_path : s.path.Nodup
  files_differ : s.hop.callerFile ≠ s.hop.calleeFile
  variableIn_first : s.hop.depth = 1 → s.hop.variableIn = var
  exists_earlier : 1 < s.hop.depth → ∃ p ∈ front, p.hop.depth = s.hop.depth - 1 ∧
    p.hop.calleeId = s.hop.callerId ∧ p.hop.parameterIn = s.hop.variableIn ∧
    s.path = p.path ++ [s.hop.callerId]

lemma files_differ_of_mem_departures {atoms : List Atom} {a : Arrival} {s : JourneyStep}
    (hs : s ∈ departures (EdgeMap.ofAtoms atoms) known (some a)) :
    s.hop.callerFile ≠ s.hop.calleeFile := by
  obtain ⟨⟨e, b⟩, hp, rfl⟩ := List.mem_map.1 hs
  obtain ⟨e', he', hb⟩ := List.mem_flatMap.1 hp
  have heq : e = e' := by
    split at hb
    · obtain ⟨b', -, hpair⟩ := List.mem_map.1 hb
      exact (congrArg Prod.fst hpair).symm
    · cases hb
  subst heq
  exact Edge.files_differ_of_mem_all
    (EdgeMap.mem_all_of_mem_ofAtoms (EdgeMap.entry_mem_of_mem_leaving he') he').1

/-- **Every step is justified by a chain from the start**, on a journey along the calls between any
atoms, from any start and under any limit. -/
theorem steps_justified (atoms : List Atom) (start var : String) (maxDepth : Int)
    (front : List JourneyStep) (s : JourneyStep) (back : List JourneyStep)
    (hsplit : among atoms start var maxDepth = front ++ s :: back) :
    Justified start var maxDepth front s := by
  have hfiled := EdgeMap.filed_ofAtoms atoms
  have hs : s ∈ among atoms start var maxDepth := by
    rw [hsplit]
    simp
  obtain ⟨a, ha, hcourse, hsa⟩ := exists_onCourse hfiled hsplit
  obtain ⟨hcaller, hvar, hdepth, hpath⟩ := of_mem_departures hfiled hsa
  obtain ⟨hone, hlength⟩ := depth_of_mem_trace hfiled hs
  constructor
  case one_le_depth => exact hone
  case depth_le =>
    rw [hdepth]
    exact hcourse.depth_le
  case length_path => exact hlength.symm
  case head_path =>
    rw [hpath]
    exact hcourse.head_path
  case last_path =>
    rw [hpath, hcaller, List.getLast?_concat]
  case nodup_path =>
    rw [hpath]
    exact hcourse.nodup_concat hfiled hs hsa
  case files_differ => exact files_differ_of_mem_departures hsa
  case variableIn_first =>
    intro hfirst
    rcases start_or_behind hfiled hsplit ha with rfl | ⟨p, -, -, hp_one, hp_depth⟩
    · exact hvar
    · omega
  case exists_earlier =>
    intro hlater
    rcases start_or_behind hfiled hsplit ha with rfl | ⟨p, hp, rfl, -, hp_depth⟩
    · have hs_depth : s.hop.depth = 1 := hdepth
      omega
    · refine ⟨p, hp, by omega, hcaller.symm, hvar.symm, ?_⟩
      rw [hpath, hcaller]
      rfl

/-- The journey from `a` goes on from `b`, and the steps from there have a step before them. -/
theorem steps_justified_twoWays :
    ∃ front s back, among twoWays "a" "x" 3 = front ++ s :: back ∧ 1 < s.hop.depth ∧
      s.path = ["a", "b"] ∧ Justified "a" "x" 3 front s := by
  have hany : (among twoWays "a" "x" 3).any
      (fun s => 1 < s.hop.depth ∧ s.path = ["a", "b"]) = true := by decide +kernel
  obtain ⟨s, hs, hlater⟩ := List.any_eq_true.1 hany
  obtain ⟨hdepth, hpath⟩ := of_decide_eq_true hlater
  obtain ⟨front, back, hsplit⟩ := List.append_of_mem hs
  exact ⟨front, s, back, hsplit, hdepth, hpath,
    steps_justified twoWays "a" "x" 3 front s back hsplit⟩

end Lineage.Journey
