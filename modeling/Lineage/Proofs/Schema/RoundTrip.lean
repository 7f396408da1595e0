/-
Records are read back.

A check reads back what a way of writing writes if it finds the thing itself in every value written.
This goes through lists, absent values and the fields of a record, so it is shown for each kind of
record from its parts.  At the end stands the shortest record of an atom.
-/
import Mathlib.Tactic.Lemma
import Lineage.Atom.Basic

namespace Lineage

namespace Checked

variable {α β : Type}

@[simp] lemma pure_eq_valid (a : α) : (pure a : Checked α) = valid a := rfl

@[simp] lemma map_valid (f : α → β) (a : α) : f <$> (valid a : Checked α) = valid (f a) := rfl

@[simp] lemma seq_valid (f : α → β) (a : α) : (valid f <*> valid a : Checked β) = valid (f a) := rfl

@[simp] lemma within_valid (step : Step) (a : α) :
    (valid a : Checked α).within step = valid a := rfl

lemma map_eq_valid_iff {f : α → β} {c : Checked α} {b : β} :
    f <$> c = valid b ↔ ∃ a, c = valid a ∧ f a = b := by
  cases c with
  | valid a => simp
  | invalid first others => exact ⟨fun h => (nomatch h), fun ⟨_, h, _⟩ => nomatch h⟩

lemma seq_eq_valid_iff {f : Checked (α → β)} {c : Checked α} {b : β} :
    f <*> c = valid b ↔ ∃ g, f = valid g ∧ ∃ a, c = valid a ∧ g a = b := by
  cases f with
  | valid g =>
      cases c with
      | valid a => simp
      | invalid first others =>
          exact ⟨fun h => (nomatch h), fun ⟨_, _, _, h, _⟩ => nomatch h⟩
  | invalid first others => exact ⟨fun h => (nomatch h), fun ⟨_, h, _⟩ => nomatch h⟩

lemma within_eq_valid_iff {step : Step} {c : Checked α} {a : α} :
    c.within step = valid a ↔ c = valid a := by
  cases c with
  | valid b => rfl
  | invalid first others => exact ⟨fun h => (nomatch h), fun h => nomatch h⟩

end Checked

namespace Schema

variable {α : Type} {check : Json → Checked α} {write : α → Json}

/-- The check finds in every value written the thing that was written. -/
def ReadsBack (check : Json → Checked α) (write : α → Json) : Prop :=
  ∀ a, check (write a) = .valid a

/-- What can be read back is not written like anything else. -/
lemma ReadsBack.injective (h : ReadsBack check write) {a b : α} (hab : write a = write b) :
    a = b := by
  have hvalid : Checked.valid a = Checked.valid b := by rw [← h a, ← h b, hab]
  cases hvalid
  rfl

lemma readsBack_text : ReadsBack text .str := fun _ => rfl

lemma readsBack_whole : ReadsBack whole .int := fun _ => rfl

lemma readsBack_truth : ReadsBack truth .bool := fun _ => rfl

lemma readsBack_any : ReadsBack any id := fun _ => rfl

lemma ReadsBack.eachFrom (h : ReadsBack check write) (i : Nat) (items : List α) :
    Checked.eachFrom check i (items.map write) = .valid items := by
  induction items generalizing i with
  | nil => rfl
  | cons a items ih => simp [Checked.eachFrom, h a, ih]

lemma ReadsBack.list (h : ReadsBack check write) : ReadsBack (list check) (.list write) :=
  fun items => h.eachFrom 0 items

lemma ReadsBack.nullable (h : ReadsBack check write) (hnull : ∀ a, write a ≠ .null) :
    ReadsBack (nullable check) (.opt write) := by
  intro o
  cases o with
  | none => rfl
  | some a =>
      show Schema.nullable check (write a) = _
      unfold Schema.nullable
      split
      · next hwrite => exact absurd hwrite (hnull a)
      · rw [h a]; rfl

/-! ### Fields -/

lemma nullable_text (o : Option String) : nullable text (.opt .str o) = .valid o :=
  readsBack_text.nullable (by simp) o

lemma nullable_whole (o : Option Int) : nullable whole (.opt .int o) = .valid o :=
  readsBack_whole.nullable (by simp [Json.int]) o

lemma list_text (items : List String) : list text (.list .str items) = .valid items :=
  readsBack_text.list items

end Schema

open Schema

-- A field of a record is found by going through the fields that were written before it.
attribute [local simp] Schema.record Schema.required Schema.optional Schema.find? List.lookup_cons

/-! ### Parameters -/

lemma Usage.readsBack : ReadsBack ofJson toJson := by
  intro u
  simp [ofJson, toJson, readsBack_text u.kind, nullable_whole]

lemma Shape.ofJson_name (s : Shape) : ofJson (.str s.name) = .valid s := by
  cases s <;> rfl

lemma Parameter.readsBack : ReadsBack ofJson toJson := by
  intro p
  have hproperties := (readsBack_text.list.nullable (by simp [Json.list])) p.properties
  simp [ofJson, toJson, readsBack_text p.name, Shape.ofJson_name, readsBack_whole p.position,
    readsBack_truth p.hasDefault, hproperties, Usage.readsBack.list p.usages, nullable_text]

/-! ### Outputs -/

lemma ReturnOutput.readsBack : ReadsBack ofJson toJson := by
  intro o
  simp [ofJson, toJson, OutputKind.expect, OutputKind.tag, nullable_text, nullable_whole]

lemma ThrowOutput.readsBack : ReadsBack ofJson toJson := by
  intro o
  simp [ofJson, toJson, OutputKind.expect, OutputKind.tag, nullable_text, nullable_whole]

lemma SideEffectOutput.readsBack : ReadsBack ofJson toJson := by
  intro o
  simp [ofJson, toJson, OutputKind.expect, OutputKind.tag, nullable_text, nullable_whole]

lemma OutputKind.ofTag?_tag (kind : OutputKind) : ofTag? kind.tag = some kind := by
  cases kind <;> decide

/-- The tag of a record leads to the reader of its kind. -/
lemma Output.ofJson_of_tag (kind : OutputKind) {fields : List (String × Json)} {o : Output}
    (h : ofJsonAs kind (.obj (("type", .str kind.tag) :: fields)) = .valid o) :
    ofJson (.obj (("type", .str kind.tag) :: fields)) = .valid o := by
  simp [ofJson, OutputKind.ofTag?_tag, h]

lemma Output.readsBack : ReadsBack ofJson toJson := by
  intro o
  cases o with
  | returned o =>
      refine ofJson_of_tag .returned ?_
      exact congrArg (returned <$> ·) (ReturnOutput.readsBack o)
  | thrown o =>
      refine ofJson_of_tag .thrown ?_
      exact congrArg (thrown <$> ·) (ThrowOutput.readsBack o)
  | sideEffect o =>
      refine ofJson_of_tag .sideEffect ?_
      exact congrArg (sideEffect <$> ·) (SideEffectOutput.readsBack o)

/-! ### Data flows -/

lemma Product.readsBack : ReadsBack ofJson toJson := by
  intro p
  simp [ofJson, toJson, readsBack_text p.name]

lemma Transformation.sourcesOfJson_list (sources : List String) :
    sourcesOfJson (.list .str sources) = .valid sources :=
  list_text sources

lemma Transformation.readsBack : ReadsBack ofJson toJson := by
  intro t
  have houtput := Product.readsBack.nullable (by simp [Product.toJson]) t.output
  simp [ofJson, toJson, nullable_text, sourcesOfJson_list, houtput, nullable_whole]

lemma DataFlow.readsBack : ReadsBack ofJson toJson := by
  intro d
  simp [ofJson, toJson, Parameter.readsBack.list d.inputs, Output.readsBack.list d.outputs,
    Transformation.readsBack.list d.transformations]

/-! ### What an atom is -/

lemma Severity.readsBack : ReadsBack ofJson toJson := by
  intro s
  cases s <;> rfl

lemma Archetype.readsBack : ReadsBack ofJson toJson := by
  intro a
  have hseverity := Severity.readsBack.nullable
    (fun s => by cases s <;> simp [Severity.toJson, Json.int]) a.severity
  simp [ofJson, toJson, nullable_text, hseverity]

lemma Meaning.readsBack : ReadsBack ofJson toJson := by
  intro m
  simp [ofJson, toJson, nullable_text]

lemma Import.readsBack : ReadsBack ofJson toJson := by
  intro i
  simp [ofJson, toJson, readsBack_text i.source, list_text]

/-! ### Calls -/

lemma Argument.nodeName_opt (name : Option String) : nodeName (.opt .str name) = .valid name := by
  cases name <;> rfl

lemma Argument.readsBack : ReadsBack ofJson toJson := by
  intro a
  simp [ofJson, toJson, readsBack_text a.kind, nullable_text, nodeName_opt, any]

lemma CallSite.readsBack : ReadsBack ofJson toJson := by
  intro c
  -- the arguments are written as they came
  have hwrite : Json.list id = Json.arr := by
    funext args
    rw [Json.list, List.map_id]
  have hargs := (hwrite ▸ readsBack_any.list).nullable (by simp) c.args
  simp [ofJson, toJson, readsBack_text c.name, readsBack_whole c.line, hargs]

/-! ### Atoms -/

lemma Atom.purposeOfJson_opt (purpose : Option String) :
    purposeOfJson (.opt .str purpose) = .valid purpose := by
  cases purpose <;> rfl

lemma Atom.readsBack : ReadsBack ofJson toJson := by
  intro a
  have hflow := DataFlow.readsBack.nullable (by simp [DataFlow.toJson]) a.dataFlow
  have harchetype := Archetype.readsBack.nullable (by simp [Archetype.toJson]) a.archetype
  have hsemantic := Meaning.readsBack.nullable (by simp [Meaning.toJson]) a.semantic
  simp [ofJson, toJson, readsBack_text a.id, readsBack_text a.name, readsBack_text a.filePath,
    readsBack_whole a.line, readsBack_truth a.isExported, readsBack_truth a.isAsync,
    Import.readsBack.list a.imports, CallSite.readsBack.list a.calls, hflow, harchetype,
    purposeOfJson_opt, readsBack_whole a.complexity, readsBack_whole a.linesOfCode,
    readsBack_truth a.isTestCallback, nullable_text, hsemantic, readsBack_text a.code]

/-! ### Records that say as little as they may -/

/-- The atom of which nothing is told but its id, its name and its file. -/
def Atom.ofRequired (id name filePath : String) : Atom where
  id
  name
  filePath
  line := 1
  isExported := false
  isAsync := false
  imports := []
  calls := []
  dataFlow := none
  archetype := none
  purpose := none
  complexity := 1
  linesOfCode := 0
  isTestCallback := false
  testCallbackType := none
  className := none
  semantic := none
  code := ""

/-- Every other field may be left out. -/
lemma Atom.ofJson_required (id name filePath : String) :
    ofJson (.obj [("id", .str id), ("name", .str name), ("filePath", .str filePath)]) =
      .valid (ofRequired id name filePath) := by
  rfl

end Lineage
