/-
The callee of a call, by a plain scan.

Calls are resolved through an index of the atoms by name, made once for all of them.  Under each
name the index holds the atoms of that name in the order of the list (`named_ofAtoms`), so the
candidates for a call are those that a scan of the whole list meets, in the order in which it meets
them.  The main statement, `leaving_agrees_with_scan`, gives the edges that leave an atom in terms
of such scans alone: one edge for each call that some atom of another file has the name of, in the
order of the calls, to the callee that the scans find.
-/
import Mathlib.Data.List.Forall2
import Lineage.Edge.Basic
import Lineage.Notice
import Lineage.Proofs.Assoc
import Lineage.Proofs.Schema.RoundTrip

namespace Lineage

/-! ### The index -/

namespace NameIndex

lemma named_append (index : NameIndex) (a : Atom) (name : String) :
    named (Assoc.append a.name [a] index) name =
      index.named name ++ if a.name = name then [a] else [] := by
  unfold named
  rw [Assoc.find?_append]
  by_cases h : a.name = name <;> simp [h]

lemma named_foldl (index : NameIndex) (atoms : List Atom) (name : String) :
    named (atoms.foldl (fun index a => Assoc.append a.name [a] index) index) name =
      index.named name ++ atoms.filter (·.name = name) := by
  induction atoms generalizing index with
  | nil => simp
  | cons a atoms ih =>
      rw [List.foldl_cons, ih, named_append, List.append_assoc, List.filter_cons]
      by_cases h : a.name = name <;> simp [h]

/-- The index holds the atoms of a name in the order of the list. -/
lemma named_ofAtoms (atoms : List Atom) (name : String) :
    (ofAtoms atoms).named name = atoms.filter (·.name = name) := by
  rw [ofAtoms, named_foldl]
  rfl

end NameIndex

namespace Edge

/-! ### Choosing among candidates -/

/-- All that the choice among candidates can do. -/
lemma choose_cases (caller first : Atom) (others : List Atom) :
    (∃ a, (first :: others).find? (isImported caller) = some a ∧
        choose caller first others = .plain a) ∨
      (first :: others).find? (isImported caller) = none ∧
        ((∃ a, (first :: others).filter Atom.isExported = [a] ∧
            choose caller first others = .plain a) ∨
          (∀ a, (first :: others).filter Atom.isExported ≠ [a]) ∧
            (choose caller first others).value = first ∧
            (others = [] → choose caller first others = .plain first)) := by
  unfold choose
  cases himported : (first :: others).find? (isImported caller) with
  | some a => exact Or.inl ⟨a, rfl, rfl⟩
  | none =>
      refine Or.inr ⟨rfl, ?_⟩
      -- without a single exported candidate the first is taken, however many there are
      rcases hexported : (first :: others).filter Atom.isExported with _ | ⟨a, _ | ⟨b, more⟩⟩
      · exact Or.inr ⟨by simp, by cases others <;> rfl, by rintro rfl; rfl⟩
      · exact Or.inl ⟨a, rfl, rfl⟩
      · exact Or.inr ⟨by simp, by cases others <;> rfl, by rintro rfl; rfl⟩

lemma choose_mem (caller first : Atom) (others : List Atom) :
    (choose caller first others).value ∈ first :: others := by
  rcases choose_cases caller first others with
    ⟨a, hfind, h⟩ | ⟨-, ⟨a, hfilter, h⟩ | ⟨-, h, -⟩⟩
  · rw [h, Noted.value_plain]
    exact List.mem_of_find?_eq_some hfind
  · rw [h, Noted.value_plain]
    exact List.mem_of_mem_filter (hfilter ▸ List.mem_singleton_self a)
  · rw [h]
    exact List.mem_cons_self

/-- The chosen candidate is imported exactly where some candidate is. -/
lemma isImported_choose (caller first : Atom) (others : List Atom) :
    isImported caller (choose caller first others).value = true ↔
      ∃ a ∈ first :: others, isImported caller a = true := by
  rcases choose_cases caller first others with ⟨a, hfind, h⟩ | ⟨hnone, -⟩
  · have ha := List.find?_some hfind
    rw [h, Noted.value_plain]
    exact ⟨fun _ => ⟨a, List.mem_of_find?_eq_some hfind, ha⟩, fun _ => ha⟩
  · rw [List.find?_eq_none] at hnone
    exact ⟨fun himported => absurd himported (hnone _ (choose_mem caller first others)),
      fun ⟨a, ha, himported⟩ => absurd himported (hnone a ha)⟩

/-! ### Scanning for the callee -/

/-- A call of the caller may mean an atom: one of its name, in another file. -/
def Meant (caller : Atom) (call : CallSite) (a : Atom) : Prop :=
  a.name = call.name ∧ a.filePath ≠ caller.filePath

instance (caller : Atom) (call : CallSite) : DecidablePred (Meant caller call) :=
  fun a => inferInstanceAs (Decidable (a.name = call.name ∧ a.filePath ≠ caller.filePath))

/-- The only member of a list. -/
def only? : List Atom → Option Atom
  | [a] => some a
  | _ => none

lemma only?_eq_none {as : List Atom} (h : ∀ a, as ≠ [a]) : only? as = none := by
  unfold only?
  split
  · next a => exact absurd rfl (h a)
  · rfl

/-- The callee that scans of the atoms find for a call: the first atom meant whose file an import of
the caller points at; if there is none, the only exported atom meant; if there is no such one, the
first atom meant. -/
def scan? (atoms : List Atom) (caller : Atom) (call : CallSite) : Option Atom :=
  ((atoms.find? fun a => Meant caller call a ∧ isImported caller a).or
    (only? (atoms.filter fun a => Meant caller call a ∧ a.isExported))).or
      (atoms.find? fun a => Meant caller call a)

variable {atoms : List Atom} {caller : Atom} {call : CallSite}

/-- The candidates that the index gives are the atoms meant. -/
lemma candidates_ofAtoms (atoms : List Atom) (caller : Atom) (call : CallSite) :
    candidates (.ofAtoms atoms) caller call = atoms.filter (Meant caller call ·) := by
  rw [candidates, NameIndex.named_ofAtoms, List.filter_filter]
  refine List.filter_congr fun a _ => ?_
  rw [Bool.and_comm, ← Bool.decide_and]
  rfl

lemma scan?_of_candidates {found : List Atom}
    (h : candidates (.ofAtoms atoms) caller call = found) :
    scan? atoms caller call =
      ((found.find? (isImported caller)).or (only? (found.filter Atom.isExported))).or
        found.head? := by
  rw [candidates_ofAtoms] at h
  subst h
  rw [scan?, List.find?_filter, List.filter_filter, List.head?_filter]
  simp only [Bool.decide_and, Bool.decide_eq_true, Bool.and_comm]

/-- What is chosen among the candidates is what the scans find. -/
lemma scan?_eq_choose {first : Atom} {others : List Atom}
    (h : candidates (.ofAtoms atoms) caller call = first :: others) :
    scan? atoms caller call = some (choose caller first others).value := by
  rw [scan?_of_candidates h]
  rcases choose_cases caller first others with ⟨a, hfind, h⟩ | ⟨hnone, ⟨a, hone, h⟩ | ⟨hmany, h, -⟩⟩
  · rw [hfind, h]
    rfl
  · rw [hnone, hone, h]
    rfl
  · rw [hnone, h, only?_eq_none hmany]
    rfl

/-- The scans find something exactly if some atom is meant. -/
lemma isSome_scan?_iff : (scan? atoms caller call).isSome ↔ ∃ a ∈ atoms, Meant caller call a := by
  cases h : candidates (.ofAtoms atoms) caller call with
  | nil =>
      rw [scan?_of_candidates h]
      rw [candidates_ofAtoms, List.filter_eq_nil_iff] at h
      simpa [only?] using h
  | cons first others =>
      have hfirst : first ∈ atoms.filter (Meant caller call ·) := by
        rw [← candidates_ofAtoms, h]
        exact List.mem_cons_self
      rw [scan?_eq_choose h]
      exact ⟨fun _ => ⟨first, by simpa using hfirst⟩, fun _ => rfl⟩

/-- The callee found is one of the atoms, and the call may mean it. -/
lemma meant_of_scan? {callee : Atom} (h : scan? atoms caller call = some callee) :
    callee ∈ atoms ∧ Meant caller call callee := by
  cases hfound : candidates (.ofAtoms atoms) caller call with
  | nil =>
      rw [scan?_of_candidates hfound] at h
      cases h
  | cons first others =>
      rw [scan?_eq_choose hfound, Option.some.injEq] at h
      have hmem := choose_mem caller first others
      rw [h, ← hfound, candidates_ofAtoms] at hmem
      simpa using hmem

/-- The callee found is imported exactly if any atom meant is. -/
lemma isImported_scan? {callee : Atom} (h : scan? atoms caller call = some callee) :
    isImported caller callee = true ↔ ∃ a ∈ atoms, Meant caller call a ∧ isImported caller a := by
  cases hfound : candidates (.ofAtoms atoms) caller call with
  | nil =>
      rw [scan?_of_candidates hfound] at h
      cases h
  | cons first others =>
      rw [scan?_eq_choose hfound, Option.some.injEq] at h
      rw [← h, isImported_choose, ← hfound, candidates_ofAtoms]
      simp [and_assoc]

/-! ### The edges of calls -/

/-- The edge of a call between the given atoms, if there is one. -/
def ofCall? (atoms : List Atom) (caller : Atom) (call : CallSite) : Option Edge :=
  (ofCall (.ofAtoms atoms) caller call).value

/-- A call has an edge to the callee that the scans find, if they find one. -/
lemma ofCall?_eq_scan (atoms : List Atom) (caller : Atom) (call : CallSite) :
    ofCall? atoms caller call =
      (scan? atoms caller call).map fun callee => (build caller callee call).value := by
  rw [ofCall?, ofCall]
  cases h : candidates (.ofAtoms atoms) caller call with
  | nil =>
      rw [scan?_of_candidates h]
      rfl
  | cons first others =>
      rw [scan?_eq_choose h]
      rfl

lemma isSome_ofCall?_iff :
    (ofCall? atoms caller call).isSome ↔ ∃ a ∈ atoms, Meant caller call a := by
  rw [ofCall?_eq_scan, Option.isSome_map, isSome_scan?_iff]

/-- The edges of calls are those of each call, in order. -/
lemma value_fromCalls (atoms : List Atom) (caller : Atom) (calls : List CallSite) :
    (fromCalls (.ofAtoms atoms) caller calls).value = calls.filterMap (ofCall? atoms caller) := by
  induction calls with
  | nil => rfl
  | cons call calls ih =>
      rw [fromCalls, Noted.value_bind, Noted.value_bind, Noted.value_pure, ih, List.filterMap_cons,
        ofCall?]
      cases (ofCall (.ofAtoms atoms) caller call).value <;> rfl

lemma value_leavingAll (atoms callers : List Atom) :
    (leavingAll (.ofAtoms atoms) callers).value =
      callers.flatMap fun caller => caller.calls.filterMap (ofCall? atoms caller) := by
  induction callers with
  | nil => rfl
  | cons caller callers ih =>
      rw [leavingAll, Noted.value_bind, Noted.value_bind, Noted.value_pure, ih, value_fromCalls,
        List.flatMap_cons]

/-- All edges are those of each call of each atom, in order. -/
lemma value_all (atoms : List Atom) :
    (all atoms).value =
      atoms.flatMap fun caller => caller.calls.filterMap (ofCall? atoms caller) :=
  value_leavingAll atoms atoms

/-- Every edge leads from one file into another. -/
lemma files_differ_of_mem_all {e : Edge} (he : e ∈ (all atoms).value) :
    e.callerFile ≠ e.calleeFile := by
  rw [value_all] at he
  obtain ⟨caller, -, he⟩ := List.mem_flatMap.1 he
  obtain ⟨call, -, hcall⟩ := List.mem_filterMap.1 he
  rw [ofCall?_eq_scan, Option.map_eq_some_iff] at hcall
  obtain ⟨callee, hscan, rfl⟩ := hcall
  obtain ⟨-, -, hfile⟩ := meant_of_scan? hscan
  exact Ne.symm hfile

/-- The edge tells its call, the two ends of it and how sure it is: fifty hundredths, twenty more
for a call with arguments, fifteen more for an exported callee, and fifteen more if any atom meant
is imported. -/
structure Tells (atoms : List Atom) (caller : Atom) (call : CallSite) (callee : Atom) (e : Edge) :
    Prop where
  callSite : e.callSite = call.line
  callerId : e.callerId = caller.id
  callerFile : e.callerFile = caller.filePath
  calleeId : e.calleeId = callee.id
  calleeFile : e.calleeFile = callee.filePath
  calleeName : e.calleeName = callee.name
  confidence : e.confidence.count =
    50 + (if call.arguments ≠ [] then 20 else 0) + (if callee.isExported then 15 else 0) +
      (if ∃ a ∈ atoms, Meant caller call a ∧ isImported caller a then 15 else 0)

lemma tells_build {callee : Atom} (h : scan? atoms caller call = some callee) :
    Tells atoms caller call callee (build caller callee call).value := by
  refine ⟨rfl, rfl, rfl, rfl, rfl, rfl, ?_⟩
  have hcount : (build caller callee call).value.confidence.count =
      min 100 (50 + (if call.arguments.isEmpty then 0 else 20) +
        (if callee.isExported then 15 else 0) + (if isImported caller callee then 15 else 0)) := rfl
  rw [hcount]
  simp only [isImported_scan? h, List.isEmpty_iff, ne_eq, ite_not]
  -- all four together are the full score, so the bound is never felt
  split <;> split <;> split <;> rfl

/-- **Calls are resolved as by a plain scan.**  The edges that leave an atom are, in the order of
its calls, one for each call that means some atom, to the callee that the scans find. -/
theorem leaving_agrees_with_scan (atoms : List Atom) (caller : Atom) :
    List.Forall₂
      (fun call e => ∃ callee, scan? atoms caller call = some callee ∧
        Tells atoms caller call callee e)
      (caller.calls.filter fun call => ∃ a ∈ atoms, Meant caller call a)
      (leaving atoms caller).value := by
  rw [leaving, value_fromCalls]
  induction caller.calls with
  | nil => exact .nil
  | cons call calls ih =>
      cases hscan : scan? atoms caller call with
      | none =>
          have hedge : ofCall? atoms caller call = none := by rw [ofCall?_eq_scan, hscan]; rfl
          have hmeant : ¬∃ a ∈ atoms, Meant caller call a := by
            rw [← isSome_scan?_iff, hscan]
            exact Bool.false_ne_true
          rw [List.filter_cons_of_neg (by simpa using hmeant), List.filterMap_cons_none hedge]
          exact ih
      | some callee =>
          have hedge : ofCall? atoms caller call = some (build caller callee call).value := by
            rw [ofCall?_eq_scan, hscan]
            rfl
          have hmeant : ∃ a ∈ atoms, Meant caller call a := by
            rw [← isSome_scan?_iff, hscan]
            rfl
          rw [List.filter_cons_of_pos (by simpa using hmeant), List.filterMap_cons_some hedge]
          exact .cons ⟨callee, hscan, tells_build hscan⟩ ih

/-- A function of the given name and file. -/
def fileAtom (name filePath : String) (isExported : Bool) : Atom :=
  { Atom.ofRequired (filePath ++ "::" ++ name) name filePath with isExported }

/-- A caller that imports `lib/b.js` and calls `f`, `g`, `h` and a function that is not known. -/
def hub : Atom :=
  { fileAtom "hub" "a.js" false with
    imports := [⟨"./lib/b", []⟩]
    calls := [⟨"f", 1, none⟩, ⟨"g", 2, none⟩, ⟨"h", 3, none⟩, ⟨"print", 4, none⟩] }

/-- Of two functions `f` one is in the imported file, of two functions `g` one is exported, and of
two functions `h` one is in the file of the caller. -/
def hubAtoms : List Atom :=
  [fileAtom "f" "c.js" true, fileAtom "f" "lib/b.js" false, fileAtom "g" "c.js" false,
    fileAtom "g" "d.js" true, fileAtom "h" "d.js" false, fileAtom "h" "a.js" false]

-- The three rules in turn, and a call that means no atom.
example : hub.calls.map (fun call => (scan? hubAtoms hub call).map Atom.id) =
    [some "lib/b.js::f", some "d.js::g", some "d.js::h", none] := by
  decide +kernel

end Edge

end Lineage
