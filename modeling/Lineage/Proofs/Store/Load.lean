/-
Loading atoms is all or nothing, unless a number is too long.

A file may hold the records of atoms as a list, or as the entry of an object with any other entries.
Both come to the same.  If every item of the list is the record of an atom, these atoms are loaded,
in their order; and otherwise nothing is, and the first item that is no record is reported, with its
position and the number of its faults.  But a whole number of too many digits, wherever it stands in
the file, stops the load with neither (`load_all_or_first_unless_overlong`).
-/
import Mathlib.Data.List.Forall2
import Lineage.Proofs.Json.Limit
import Lineage.Proofs.Schema.FaultCount
import Lineage.Store.Load

namespace Lineage

namespace Tree

/-- The file at a path holds a value: its text is a text of the value. -/
def Holds (t : Tree) (p : Path) (v : Json) : Prop :=
  ∃ s, t.readText p = .ok s ∧ Json.Denotes s.toList v

/-- Some whole number in the text of the file at a path has too many digits. -/
def IsOverlong (t : Tree) (p : Path) : Prop :=
  ∃ s, t.readText p = .ok s ∧ ∃ n ∈ Json.numbers s.toList, n.exceeds Number.digitLimit

lemma isOverlong_iff {t : Tree} {p : Path} {s : String} (hs : t.readText p = .ok s) :
    t.IsOverlong p ↔ ∃ n ∈ Json.numbers s.toList, n.exceeds Number.digitLimit := by
  refine ⟨?_, fun h => ⟨s, hs, h⟩⟩
  rintro ⟨s', hs', h⟩
  obtain rfl : s = s' := Except.ok.inj (hs.symm.trans hs')
  exact h

/-- A file that is read as a value holds it, and no number in it is too long. -/
lemma holds_of_read {t : Tree} {p : Path} {s : String} {v : Json} (hs : t.readText p = .ok s)
    (hread : Json.read s.toList = .ok v) : t.Holds p v ∧ ¬ t.IsOverlong p := by
  have hdenotes : Json.Denotes s.toList v := ⟨_, hread⟩
  rw [isOverlong_iff hs]
  exact ⟨⟨s, hs, hdenotes⟩, (Json.read_eq_ok_iff hdenotes).1 hread⟩

end Tree

namespace Atom

/-- The value is the record of an atom. -/
def IsRecord (v : Json) : Prop := ∃ a, ofJson v = .valid a

lemma isRecord_iff {v : Json} : IsRecord v ↔ faultCount v = 0 := by
  rw [← counts v, List.length_eq_zero_iff, Checked.faults_eq_nil_iff]
  rfl

/-- The values are the records of the atoms, one by one. -/
def Reads (vs : List Json) (atoms : List Atom) : Prop :=
  List.Forall₂ (fun v a => ofJson v = .valid a) vs atoms

/-- All or nothing: if all items are records, each gives its atom, in their order; and otherwise the
load fails at the first item that is no record, and says where it stands and how many faults it
has. -/
def AllOrFirst (items : List Json) (outcome : Except LoadFailure (List Atom)) : Prop :=
  ((∀ v ∈ items, IsRecord v) → ∃ atoms, outcome = .ok atoms ∧ Reads items atoms) ∧
  ((¬ ∀ v ∈ items, IsRecord v) → ∃ front v back, items = front ++ v :: back ∧
    (∀ w ∈ front, IsRecord w) ∧ ¬ IsRecord v ∧ (ofJson v).faults.length = faultCount v ∧
    outcome = .error (.refused (.invalidAtom front.length (faultCount v))) ∧
    ∀ path, (LoadError.invalidAtom front.length (faultCount v)).message path =
      "Atom #" ++ toString front.length ++ " in " ++ path ++ " is invalid: " ++
        toString (faultCount v) ++ " error(s)")

/-! ### Lists of records -/

lemma exists_reads {vs : List Json} (h : ∀ v ∈ vs, IsRecord v) : ∃ atoms, Reads vs atoms := by
  induction vs with
  | nil => exact ⟨[], .nil⟩
  | cons v vs ih =>
      rw [List.forall_mem_cons] at h
      obtain ⟨a, ha⟩ := h.1
      obtain ⟨atoms, hatoms⟩ := ih h.2
      exact ⟨a :: atoms, .cons ha hatoms⟩

/-- Where not all values are records, one of them is the first that is none. -/
lemma exists_first {vs : List Json} (h : ¬ ∀ v ∈ vs, IsRecord v) :
    ∃ front v back, vs = front ++ v :: back ∧ (∀ w ∈ front, IsRecord w) ∧ ¬ IsRecord v := by
  induction vs with
  | nil => exact absurd (fun v hv => absurd hv List.not_mem_nil) h
  | cons v vs ih =>
      by_cases hv : IsRecord v
      · rw [List.forall_mem_cons, not_and] at h
        obtain ⟨front, w, back, rfl, hfront, hw⟩ := ih (h hv)
        exact ⟨v :: front, w, back, rfl, List.forall_mem_cons.2 ⟨hv, hfront⟩, hw⟩
      · exact ⟨[], v, vs, rfl, by simp, hv⟩

/-- Records are read as their atoms, wherever the count begins. -/
lemma readFrom_of_reads {vs : List Json} {atoms : List Atom} (h : Reads vs atoms) (i : Nat) :
    readFrom i vs = .ok atoms := by
  induction h generalizing i with
  | nil => rfl
  | cons hv _ ih =>
      simp only [readFrom, hv, ih (i + 1)]
      rfl

/-- Reading stops at the first value that is no record, and counts its faults. -/
lemma readFrom_of_first {front : List Json} (hfront : ∀ w ∈ front, IsRecord w) {v : Json}
    (hv : ¬ IsRecord v) (back : List Json) (i : Nat) :
    readFrom i (front ++ v :: back) =
      .error (.invalidAtom (i + front.length) (ofJson v).faults.length) := by
  induction front generalizing i with
  | nil =>
      cases hread : ofJson v with
      | valid a => exact absurd ⟨a, hread⟩ hv
      | invalid first others => simp [readFrom, hread, Checked.faults]
  | cons w front ih =>
      rw [List.forall_mem_cons] at hfront
      obtain ⟨a, ha⟩ := hfront.1
      have hrest := ih hfront.2 (i + 1)
      have hposition : i + 1 + front.length = i + (w :: front).length := by
        rw [List.length_cons]
        omega
      rw [hposition] at hrest
      simp only [List.cons_append, readFrom, ha, hrest]
      rfl

/-- The items of a list are loaded all, or the first that is no record is reported. -/
lemma allOrFirst_readAll (items : List Json) :
    AllOrFirst items ((readAll (.arr items)).mapError .refused) := by
  change AllOrFirst items ((readFrom 0 items).mapError .refused)
  refine ⟨fun hall => ?_, fun hsome => ?_⟩
  · obtain ⟨atoms, hatoms⟩ := exists_reads hall
    refine ⟨atoms, ?_, hatoms⟩
    rw [readFrom_of_reads hatoms]
    rfl
  · obtain ⟨front, v, back, rfl, hfront, hv⟩ := exists_first hsome
    refine ⟨front, v, back, rfl, hfront, hv, counts v, ?_, fun path => rfl⟩
    rw [readFrom_of_first hfront hv, Nat.zero_add, counts v]
    rfl

/-! ### Files -/

lemma load_of_isOverlong {t : Tree} {p : Path} {v : Json} (h : t.Holds p v)
    (hlong : t.IsOverlong p) : load (t.readText p) = .error (.stopped .overlong) := by
  obtain ⟨s, hs, hdenotes⟩ := h
  have hread := (Json.read_eq_overlong_iff hdenotes).2 ((Tree.isOverlong_iff hs).1 hlong)
  simp only [hs, load, readText, hread]

lemma load_of_not_isOverlong {t : Tree} {p : Path} {v : Json} (h : t.Holds p v)
    (hlong : ¬ t.IsOverlong p) : load (t.readText p) = (readAll v).mapError .refused := by
  obtain ⟨s, hs, hdenotes⟩ := h
  rw [Tree.isOverlong_iff hs] at hlong
  have hread := (Json.read_eq_ok_iff hdenotes).2 hlong
  simp only [hs, load, readText, hread]

/-- An object is read as the list in its entry. -/
lemma readAll_of_entry {fields : List (String × Json)} {items : List Json}
    (h : fields.lookup "atoms" = some (.arr items)) :
    readAll (.obj fields) = readAll (.arr items) := by
  simp [readAll, listOf, h]

/-- **Loading is all or nothing, whatever holds the list, unless a number is too long.**  Take a
file with a list, and a file with an object that has the list as its entry.  A file with a whole
number of too many digits stops the load, with no report.  A file without one is loaded all or
nothing; and if neither file has one, both are loaded alike. -/
theorem load_all_or_first_unless_overlong {t u : Tree} {p q : Path} {items : List Json}
    {fields : List (String × Json)} (hp : t.Holds p (.arr items)) (hq : u.Holds q (.obj fields))
    (hentry : fields.lookup "atoms" = some (.arr items)) :
    (t.IsOverlong p → load (t.readText p) = .error (.stopped .overlong)) ∧
    (u.IsOverlong q → load (u.readText q) = .error (.stopped .overlong)) ∧
    (¬ t.IsOverlong p → AllOrFirst items (load (t.readText p))) ∧
    (¬ u.IsOverlong q → AllOrFirst items (load (u.readText q))) ∧
    (¬ t.IsOverlong p → ¬ u.IsOverlong q → load (t.readText p) = load (u.readText q)) := by
  have hlist : ¬ t.IsOverlong p →
      load (t.readText p) = (readAll (.arr items)).mapError .refused :=
    load_of_not_isOverlong hp
  have hobject : ¬ u.IsOverlong q →
      load (u.readText q) = (readAll (.arr items)).mapError .refused := by
    intro hlong
    rw [load_of_not_isOverlong hq hlong, readAll_of_entry hentry]
  refine ⟨load_of_isOverlong hp, load_of_isOverlong hq, fun hlong => ?_, fun hlong => ?_,
    fun hlong hlong' => ?_⟩
  · rw [hlist hlong]
    exact allOrFirst_readAll items
  · rw [hobject hlong]
    exact allOrFirst_readAll items
  · rw [hlist hlong, hobject hlong']

/-- A list of three items: a record, one with five faults, and a number. -/
def listText : String :=
  "[\x7b\"id\":\"a\",\"name\":\"f\",\"filePath\":\"\"\x7d," ++
    "\x7b\"archetype\":\x7b\"severity\":[]\x7d\x7d,7]"

/-- The record of an archetype alone, whose severity is neither a number nor a text. -/
def crookedRecord : Json := .obj [("archetype", .obj [("severity", .arr [])])]

def mixedList : List Json :=
  [.obj [("id", .str "a"), ("name", .str "f"), ("filePath", .str "")], crookedRecord, .int 7]

/-- The list as an entry of an object. -/
def objectText : String := "\x7b\"v\":2,\"atoms\":" ++ listText ++ "\x7d"

/-- The list in a file of its own, and as an entry of an object. -/
def twoFiles : Tree :=
  [(["list.json"], .text listText), (["object.json"], .text objectText)]

theorem load_all_or_first_unless_overlong_twoFiles :
    twoFiles.Holds (.ofText "list.json") (.arr mixedList) ∧
      twoFiles.Holds (.ofText "object.json") (.obj [("v", .int 2), ("atoms", .arr mixedList)]) ∧
      ¬ twoFiles.IsOverlong (.ofText "list.json") ∧ ¬ twoFiles.IsOverlong (.ofText "object.json") ∧
      load (twoFiles.readText (.ofText "list.json")) =
        .error (.refused (.invalidAtom 1 5)) ∧
      load (twoFiles.readText (.ofText "object.json")) =
        .error (.refused (.invalidAtom 1 5)) := by
  have htext : twoFiles.readText (.ofText "list.json") = .ok listText := by decide +kernel
  have hread : Json.read listText.toList = .ok (.arr mixedList) := by decide +kernel
  have htext' : twoFiles.readText (.ofText "object.json") = .ok objectText := by decide +kernel
  have hread' : Json.read objectText.toList =
      .ok (.obj [("v", .int 2), ("atoms", .arr mixedList)]) := by decide +kernel
  obtain ⟨hlist, hshort⟩ := Tree.holds_of_read htext hread
  obtain ⟨hobject, hshort'⟩ := Tree.holds_of_read htext' hread'
  have hcrooked : faultCount crookedRecord = 5 := by decide +kernel
  have hnone : ¬ IsRecord crookedRecord := by
    rw [isRecord_iff, hcrooked]
    decide
  obtain ⟨-, -, hload, -, hsame⟩ := load_all_or_first_unless_overlong hlist hobject rfl
  obtain ⟨front, v, back, hsplit, hfront, hv, -, herror, -⟩ :=
    (hload hshort).2 fun hall => hnone (hall crookedRecord (by simp [mixedList]))
  -- the first item is a record and the second is none, so the second is where the load stops
  have hsecond : front.length = 1 ∧ v = crookedRecord := by
    rcases front with _ | ⟨w, _ | ⟨x, front⟩⟩
    · cases hsplit
      exact absurd ⟨_, ofJson_required "a" "f" ""⟩ hv
    · cases hsplit
      exact ⟨rfl, rfl⟩
    · simp only [mixedList, List.cons_append, List.cons.injEq] at hsplit
      exact absurd (hfront crookedRecord (by simp [← hsplit.2.1])) hnone
  rw [hsecond.1, hsecond.2, hcrooked] at herror
  exact ⟨hlist, hobject, hshort, hshort', herror, hsame hshort hshort' ▸ herror⟩

/-- One digit more than a whole number may have. -/
def longDigits : List Char := List.replicate 4301 '1'

/-- The number that the digits stand for. -/
def longNumber : Int := Json.digitsValue longDigits

/-- **A number of too many digits is not reported.**  The list holds one item, which is no record;
but the load stops with no word on it. -/
theorem long_number_unreported :
    Json.Denotes ('[' :: longDigits ++ [']']) (.arr [.int longNumber]) ∧
      ¬ IsRecord (.int longNumber) ∧
      load (.ok (.ofList ('[' :: longDigits ++ [']']))) = .error (.stopped .overlong) := by
  have hread : Json.readWithin 4301 ('[' :: longDigits ++ [']']) =
      .ok (.arr [.int longNumber]) := by decide +kernel
  have hlong : Json.read ('[' :: longDigits ++ [']']) = .error .overlong := by decide +kernel
  have hnumber : ∀ n, ¬ IsRecord (.int n) := by
    rintro n ⟨a, ha⟩
    cases ha
  have hstop : ∀ cs, Json.read cs = .error .overlong →
      load (.ok (.ofList cs)) = .error (.stopped .overlong) := by
    intro cs h
    simp only [load, readText, String.toList_ofList, h]
  exact ⟨⟨4301, hread⟩, hnumber longNumber, hstop _ hlong⟩

end Atom

end Lineage
