/-
The report on the DNA of all atoms.

The report has an entry for each atom, in order, but takes the DNA from a table by id.  The table
holds one DNA for each id, that of the last atom that has it, so this is the DNA that every atom of
the id is reported with.  The main statement, `dna_entries_of_last`, says so, and says which entries
tell the DNA of their own atom.
-/
import Lineage.Command.Run
import Lineage.Proofs.Dna.Cache
import Lineage.Proofs.Schema.RoundTrip

namespace Lineage

/-! ### The record of a DNA -/

lemma FlowType.ofName?_name (flow : FlowType) : ofName? flow.name = some flow := by
  cases flow <;> rfl

lemma FlowType.name_injective : Function.Injective FlowType.name := by
  intro flow flow' h
  rw [← Option.some.injEq, ← ofName?_name flow, h, ofName?_name]

/-- The record of a DNA tells all of it. -/
lemma Dna.fields_injective : Function.Injective Dna.fields := by
  intro d e h
  simp only [fields, List.cons.injEq, Prod.mk.injEq, true_and, and_true, Json.str.injEq,
    Json.Faithful.int.injective.eq_iff, Json.Faithful.str.list.injective.eq_iff,
    FlowType.name_injective.eq_iff] at h
  cases d
  cases e
  simp_all

namespace Command

/-! ### The last atom of an id -/

/-- The last of the atoms that has the id. -/
def IsLast (atoms : List Atom) (id : String) (last : Atom) : Prop :=
  ∃ front back, atoms = front ++ last :: back ∧ last.id = id ∧ ∀ a ∈ back, a.id ≠ id

lemma isLast_iff_find? {atoms : List Atom} {id : String} {last : Atom} :
    IsLast atoms id last ↔ atoms.reverse.find? (·.id = id) = some last := by
  rw [List.find?_eq_some_iff_append]
  constructor
  · rintro ⟨front, back, rfl, hid, hback⟩
    refine ⟨decide_eq_true hid, back.reverse, front.reverse, by simp, fun a ha => ?_⟩
    simpa using hback a (List.mem_reverse.1 ha)
  · rintro ⟨hid, behind, before, hsplit, hbehind⟩
    refine ⟨before.reverse, behind.reverse, ?_, by simpa using hid, fun a ha => ?_⟩
    · rw [← List.reverse_reverse atoms, hsplit]
      simp
    · simpa using hbehind a (List.mem_reverse.1 ha)

/-- Each atom finds in the table the DNA of the last atom of its id. -/
lemma exists_isLast {atoms : List Atom} {a : Atom} (ha : a ∈ atoms) :
    ∃ last, IsLast atoms a.id last ∧
      Assoc.find? a.id (DnaCache.empty.getMany atoms).value.1 = some (Dna.extract last) := by
  have hsome : (atoms.reverse.find? (·.id = a.id)).isSome :=
    List.find?_isSome.2 ⟨a, List.mem_reverse.2 ha, decide_eq_true rfl⟩
  obtain ⟨last, hlast⟩ := Option.isSome_iff_exists.1 hsome
  refine ⟨last, isLast_iff_find?.2 hlast, ?_⟩
  rw [DnaCache.sound_empty.find?_getMany, hlast]
  rfl

/-! ### The entries -/

lemma dnaEntry_eq_iff {id : String} {d e : Dna} : dnaEntry id d = dnaEntry id e ↔ d = e := by
  refine ⟨fun h => ?_, fun h => h ▸ rfl⟩
  rw [dnaEntry, dnaEntry, Json.obj.injEq] at h
  exact Dna.fields_injective (List.append_inj_left h rfl)

/-- The DNA that an atom has in the table. -/
def dnaInTable (atoms : List Atom) (a : Atom) : Dna :=
  (Assoc.find? a.id (DnaCache.empty.getMany atoms).value.1).getD Dna.fallback

lemma exists_dnaInTable {atoms : List Atom} {a : Atom} (ha : a ∈ atoms) :
    ∃ last, IsLast atoms a.id last ∧ dnaInTable atoms a = Dna.extract last := by
  obtain ⟨last, hlast, hfind⟩ := exists_isLast ha
  exact ⟨last, hlast, by rw [dnaInTable, hfind, Option.getD_some]⟩

lemma IsLast.dnaInTable_eq {atoms : List Atom} {last : Atom} (h : IsLast atoms last.id last) :
    dnaInTable atoms last = Dna.extract last := by
  rw [dnaInTable, DnaCache.sound_empty.find?_getMany, isLast_iff_find?.1 h]
  rfl

/-- Every atom has its DNA in the table, so none is left out. -/
lemma withDna_getMany (atoms : List Atom) :
    withDna (DnaCache.empty.getMany atoms).value.1 atoms =
      atoms.map fun a => (a, dnaInTable atoms a) := by
  rw [withDna, ← List.filterMap_eq_map]
  refine List.filterMap_congr fun a ha => ?_
  obtain ⟨last, -, hfind⟩ := exists_isLast ha
  rw [Function.comp_apply, dnaInTable, hfind, Option.map_some, Option.getD_some]

lemma run_dna (settings : Settings) (file : String) (atoms : List Atom) :
    ∃ event, run settings (.dna file none true) (.ok atoms) =
      .ofData event (.arr (atoms.map fun a => dnaEntry a.id (dnaInTable atoms a))) := by
  refine ⟨.timed "dna.extract" [("atoms_file", .str file)]
    [("atoms", .int (DnaCache.empty.getMany atoms).value.1.length)] .success 0, ?_⟩
  rw [run, runOn, runDna]
  simp only [if_true, withDna_getMany, Json.list, List.map_map]
  rfl

/-- **Each atom is reported with the DNA of the last atom of its id.**  The report has an entry for
each atom, in order, which tells the id of the atom and the DNA of the last atom that has the id,
and whether that DNA is consistent.  So the entry of an atom is the one that it should have exactly
if the last atom of its id has the same DNA. -/
theorem dna_entries_of_last (settings : Settings) (file : String) (atoms : List Atom) :
    ∃ entries : List Json,
      (run settings (.dna file none true) (.ok atoms)).exitCode = 0 ∧
      (run settings (.dna file none true) (.ok atoms)).output =
        (Json.arr entries).pretty ++ "\n" ∧
      entries.length = atoms.length ∧
      ∀ (i : Nat) (a : Atom), atoms[i]? = some a → ∃ last, IsLast atoms a.id last ∧
        entries[i]? = some (dnaEntry a.id (Dna.extract last)) ∧
        (entries[i]? = some (dnaEntry a.id (Dna.extract a)) ↔
          Dna.extract last = Dna.extract a) := by
  obtain ⟨event, hrun⟩ := run_dna settings file atoms
  refine ⟨atoms.map fun a => dnaEntry a.id (dnaInTable atoms a), by rw [hrun]; rfl,
    by rw [hrun]; rfl, List.length_map _, fun i a ha => ?_⟩
  obtain ⟨last, hlast, hdna⟩ := exists_dnaInTable (List.mem_of_getElem? ha)
  have hentry : (atoms.map fun a => dnaEntry a.id (dnaInTable atoms a))[i]? =
      some (dnaEntry a.id (Dna.extract last)) := by
    rw [List.getElem?_map, ha, Option.map_some, hdna]
  refine ⟨last, hlast, hentry, ?_⟩
  rw [hentry, Option.some.injEq, dnaEntry_eq_iff]

/-- A function with one parameter. -/
def sketched : Atom :=
  { Atom.ofRequired "a" "a" "a.js" with
    dataFlow := some ⟨[⟨"x", .simple, 0, false, none, [], none⟩], [], []⟩ }

/-- A function of the same id without a sketch. -/
def unsketched : Atom := Atom.ofRequired "a" "a" "a.js"

/-- The first of two atoms of one id is reported with the DNA of the second, which is not its
own. -/
theorem first_twin_misreported :
    (run (.standard (.ofText "")) (.dna "atoms.json" none true)
        (.ok [sketched, unsketched])).output =
      (Json.arr [dnaEntry "a" (Dna.extract unsketched),
        dnaEntry "a" (Dna.extract unsketched)]).pretty ++ "\n" ∧
    dnaEntry "a" (Dna.extract sketched) ≠ dnaEntry "a" (Dna.extract unsketched) := by
  constructor
  · obtain ⟨event, hrun⟩ := run_dna (.standard (.ofText "")) "atoms.json" [sketched, unsketched]
    have htable (a : Atom) (ha : a.id = "a") :
        dnaInTable [sketched, unsketched] a = Dna.extract unsketched := by
      rw [dnaInTable, DnaCache.sound_empty.find?_getMany, ha]
      rfl
    rw [hrun, List.map_cons, List.map_singleton, htable sketched rfl, htable unsketched rfl]
    rfl
  · intro h
    have hcount := congrArg Dna.inputCount (dnaEntry_eq_iff.1 h)
    cases hcount

end Command

end Lineage
