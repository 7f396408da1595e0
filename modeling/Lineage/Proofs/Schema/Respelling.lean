/-
Records under other names.

A field of a record has one name or several.  A record is respelled by giving fields of it, and of
the records inside it, another of their names.  As long as no field comes twice, nothing but the
paths of faults depends on the names: a respelled record stands for the same thing, or is refused
for the same causes in the same order (`RecordKind.outcome_respelled`).
-/
import Lineage.Proofs.Schema.RecordKind

namespace Lineage

/-! ### Fields and their names -/

namespace Schema

/-- What a field holds. -/
inductive Slot where
  /-- A value that is not made of records, or is kept as it came. -/
  | plain
  | record (kind : RecordKind)
  /-- The record of an output, whose tag tells the kind. -/
  | output
  | list (item : Slot)
deriving DecidableEq, Repr

/-- A field by all its names, and what it holds. -/
structure Field where
  names : List String
  holds : Slot
deriving DecidableEq, Repr

end Schema

open Schema

namespace RecordKind

/-- The fields of a kind of records. -/
def fields : RecordKind → List Field
  | usage => [⟨["type"], .plain⟩, ⟨["line"], .plain⟩]
  | parameter =>
      [⟨["name"], .plain⟩, ⟨["type"], .plain⟩, ⟨["position"], .plain⟩,
        ⟨["hasDefault", "has_default"], .plain⟩, ⟨["properties"], .plain⟩,
        ⟨["usages"], .list (.record usage)⟩, ⟨["dataType", "data_type"], .plain⟩]
  | returnOutput => [⟨["type"], .plain⟩, ⟨["value"], .plain⟩, ⟨["line"], .plain⟩]
  | throwOutput =>
      [⟨["type"], .plain⟩, ⟨["errorType", "error_type"], .plain⟩, ⟨["line"], .plain⟩]
  | sideEffectOutput =>
      [⟨["type"], .plain⟩, ⟨["target"], .plain⟩, ⟨["operation"], .plain⟩, ⟨["line"], .plain⟩]
  | product => [⟨["name"], .plain⟩]
  | transformation =>
      [⟨["to"], .plain⟩, ⟨["from", "from_"], .plain⟩, ⟨["operation", "type"], .plain⟩,
        ⟨["output"], .record product⟩, ⟨["line"], .plain⟩]
  | dataFlow =>
      [⟨["inputs"], .list (.record parameter)⟩, ⟨["outputs"], .list .output⟩,
        ⟨["transformations"], .list (.record transformation)⟩]
  | importLine => [⟨["source"], .plain⟩, ⟨["specifiers"], .plain⟩]
  | argument =>
      [⟨["type"], .plain⟩, ⟨["name"], .plain⟩, ⟨["variable"], .plain⟩, ⟨["code"], .plain⟩,
        ⟨["object", "objectName", "object_name"], .plain⟩,
        ⟨["property", "propertyName", "property_name"], .plain⟩, ⟨["callee"], .plain⟩,
        ⟨["value"], .plain⟩, ⟨["argument"], .plain⟩, ⟨["dataType", "data_type"], .plain⟩]
  | callSite => [⟨["name"], .plain⟩, ⟨["line"], .plain⟩, ⟨["args"], .plain⟩]
  | archetype => [⟨["type"], .plain⟩, ⟨["severity"], .plain⟩]
  | meaning => [⟨["verb"], .plain⟩, ⟨["domain"], .plain⟩, ⟨["entity"], .plain⟩]
  | atom =>
      [⟨["id"], .plain⟩, ⟨["name"], .plain⟩, ⟨["filePath", "file_path"], .plain⟩,
        ⟨["line"], .plain⟩, ⟨["isExported", "is_exported"], .plain⟩,
        ⟨["isAsync", "is_async"], .plain⟩, ⟨["imports"], .list (.record importLine)⟩,
        ⟨["calls"], .list (.record callSite)⟩, ⟨["dataFlow", "data_flow"], .record dataFlow⟩,
        ⟨["archetype"], .record archetype⟩, ⟨["purpose"], .plain⟩, ⟨["complexity"], .plain⟩,
        ⟨["linesOfCode", "lines_of_code"], .plain⟩,
        ⟨["isTestCallback", "is_test_callback"], .plain⟩,
        ⟨["testCallbackType", "test_callback_type"], .plain⟩,
        ⟨["className", "class_name"], .plain⟩, ⟨["semantic"], .record meaning⟩,
        ⟨["code"], .plain⟩]

/-- The field that a key is a name of. -/
def field? (kind : RecordKind) (key : String) : Option Field :=
  kind.fields.find? (·.names.contains key)

/-- No name belongs to two fields. -/
lemma eq_of_mem_names {kind : RecordKind} :
    ∀ f ∈ kind.fields, ∀ g ∈ kind.fields, ∀ name ∈ f.names, name ∈ g.names → f = g := by
  cases kind <;> decide

lemma field?_eq_some_iff {kind : RecordKind} {f : Field} (hf : f ∈ kind.fields) (key : String) :
    kind.field? key = some f ↔ key ∈ f.names := by
  constructor
  · intro h
    have hkey := List.find?_some h
    exact List.contains_iff_mem.1 hkey
  · intro hkey
    cases h : kind.field? key with
    | none => exact absurd (List.contains_iff_mem.2 hkey) (List.find?_eq_none.1 h f hf)
    | some g =>
        have hg := List.find?_some h
        rw [eq_of_mem_names f hf g (List.mem_of_find?_eq_some h) key hkey
          (List.contains_iff_mem.1 hg)]

/-- The fields that entries belong to, an entry of no field left out. -/
def fieldsOf (kind : RecordKind) (entries : List (String × Json)) : List Field :=
  entries.filterMap fun entry => kind.field? entry.1

lemma fieldsOf_cons (kind : RecordKind) (key : String) (v : Json) (fs : List (String × Json)) :
    kind.fieldsOf ((key, v) :: fs) = (kind.field? key).toList ++ kind.fieldsOf fs := by
  cases h : kind.field? key <;> simp [fieldsOf, h]

lemma notMem_names_of_notMem_fieldsOf {kind : RecordKind} {f : Field} (hf : f ∈ kind.fields)
    {fs : List (String × Json)} (h : f ∉ kind.fieldsOf fs) : ∀ entry ∈ fs, entry.1 ∉ f.names :=
  fun entry hentry hkey =>
    h (List.mem_filterMap.2 ⟨entry, hentry, (field?_eq_some_iff hf entry.1).2 hkey⟩)

end RecordKind

/-- The kind of the records of an output. -/
def OutputKind.record : OutputKind → RecordKind
  | returned => .returnOutput
  | thrown => .throwOutput
  | sideEffect => .sideEffectOutput

/-! ### Respelling -/

namespace Schema

mutual

/-- The value with other names for some fields of its records, at any depth. -/
inductive Respelled : Slot → Json → Json → Prop where
  | same (slot : Slot) (v : Json) : Respelled slot v v
  | list {item : Slot} {vs ws : List Json} (h : RespelledItems item vs ws) :
      Respelled (.list item) (.arr vs) (.arr ws)
  | record {kind : RecordKind} {fs gs : List (String × Json)} (h : RespelledEntries kind fs gs) :
      Respelled (.record kind) (.obj fs) (.obj gs)
  | output (kind : OutputKind) {fs gs : List (String × Json)}
      (htag : fs.lookup "type" = some (.str kind.tag)) (h : RespelledEntries kind.record fs gs) :
      Respelled .output (.obj fs) (.obj gs)

/-- Items, one by one. -/
inductive RespelledItems : Slot → List Json → List Json → Prop where
  | nil {item : Slot} : RespelledItems item [] []
  | cons {item : Slot} {v w : Json} {vs ws : List Json} (h : Respelled item v w)
      (hrest : RespelledItems item vs ws) : RespelledItems item (v :: vs) (w :: ws)

/-- Entries of a record, one by one.  An entry stays, or the field that it belongs to gets any of
its names, and what it holds is respelled. -/
inductive RespelledEntries :
    RecordKind → List (String × Json) → List (String × Json) → Prop where
  | nil {kind : RecordKind} : RespelledEntries kind [] []
  | kept {kind : RecordKind} {fs gs : List (String × Json)} (entry : String × Json)
      (hrest : RespelledEntries kind fs gs) : RespelledEntries kind (entry :: fs) (entry :: gs)
  | renamed {kind : RecordKind} (f : Field) {key key' : String} {v w : Json}
      {fs gs : List (String × Json)} (hkey : kind.field? key = some f)
      (hkey' : kind.field? key' = some f) (h : Respelled f.holds v w)
      (hrest : RespelledEntries kind fs gs) :
      RespelledEntries kind ((key, v) :: fs) ((key', w) :: gs)

end

mutual

/-- Whether every field of every record in the value comes once at most, under one name only. -/
def isUnambiguous : Slot → Json → Bool
  | .list item, .arr vs => itemsUnambiguous item vs
  | .record kind, .obj fs => decide (kind.fieldsOf fs).Nodup && entriesUnambiguous kind fs
  | .output, .obj fs =>
      match fs.lookup "type" with
      | some (.str tag) =>
          match OutputKind.ofTag? tag with
          | some kind =>
              decide (kind.record.fieldsOf fs).Nodup && entriesUnambiguous kind.record fs
          | none => true
      | _ => true
  | _, _ => true

/-- The same for each item. -/
def itemsUnambiguous (item : Slot) : List Json → Bool
  | [] => true
  | v :: vs => isUnambiguous item v && itemsUnambiguous item vs

/-- The same for what each field holds. -/
def entriesUnambiguous (kind : RecordKind) : List (String × Json) → Bool
  | [] => true
  | (key, v) :: fs =>
      (match kind.field? key with
        | some f => isUnambiguous f.holds v
        | none => true) && entriesUnambiguous kind fs

end

/-! ### The entry of a field -/

section Find

variable {names : List String} {key : String} {v : Json} {fs : List (String × Json)}

lemma lookup_eq_none {name : String} (h : ∀ entry ∈ fs, entry.1 ∉ names) (hname : name ∈ names) :
    fs.lookup name = none := by
  rw [List.lookup_eq_none_iff]
  intro entry hentry
  rw [bne_iff_ne]
  rintro rfl
  exact h entry hentry hname

lemma find?_eq_none (h : ∀ entry ∈ fs, entry.1 ∉ names) : find? fs names = none := by
  rw [find?, List.findSome?_eq_none_iff]
  intro name hname
  rw [lookup_eq_none h hname, Option.map_none]

lemma find?_cons_of_notMem (hkey : key ∉ names) :
    find? ((key, v) :: fs) names = find? fs names := by
  induction names with
  | nil => rfl
  | cons name names ih =>
      rw [List.mem_cons, not_or] at hkey
      have hname : ((key, v) :: fs).lookup name = fs.lookup name := by
        rw [List.lookup_cons, beq_false_of_ne (Ne.symm hkey.1)]
      have hrest := ih hkey.2
      simp only [find?, List.findSome?_cons, hname] at hrest ⊢
      rw [hrest]

/-- The only entry of a field is found under whichever of its names it has. -/
lemma find?_cons_of_mem (hkey : key ∈ names) (h : ∀ entry ∈ fs, entry.1 ∉ names) :
    find? ((key, v) :: fs) names = some (key, v) := by
  induction names with
  | nil => cases hkey
  | cons name names ih =>
      by_cases hname : name = key
      · subst hname
        simp [find?]
      · have hlookup : ((key, v) :: fs).lookup name = none := by
          rw [List.lookup_cons, beq_false_of_ne hname]
          exact lookup_eq_none h List.mem_cons_self
        have hrest := ih (List.mem_of_ne_of_mem (Ne.symm hname) hkey) fun entry hentry hmem =>
          h entry hentry (List.mem_cons_of_mem name hmem)
        simp only [find?, List.findSome?_cons, hlookup, Option.map_none] at hrest ⊢
        exact hrest

end Find

/-- The entries of an unambiguous record and of a respelling of it. -/
structure Level (kind : RecordKind) (fs gs : List (String × Json)) : Prop where
  nodup : (kind.fieldsOf fs).Nodup
  inner : entriesUnambiguous kind fs = true
  respelled : RespelledEntries kind fs gs

namespace Level

variable {kind : RecordKind} {fs gs : List (String × Json)}

/-- The first entry keeps its field, which none of the others has. -/
lemma uncons {key : String} {v : Json} (h : Level kind ((key, v) :: fs) gs) :
    ∃ key' w gs', gs = (key', w) :: gs' ∧ Level kind fs gs' ∧ kind.field? key' = kind.field? key ∧
      ∀ f, kind.field? key = some f → f ∉ kind.fieldsOf fs ∧ isUnambiguous f.holds v = true ∧
        Respelled f.holds v w := by
  obtain ⟨hnodup, hinner, hrespelled⟩ := h
  rw [RecordKind.fieldsOf_cons] at hnodup
  rw [entriesUnambiguous, Bool.and_eq_true] at hinner
  have hfield : ∀ f, kind.field? key = some f →
      f ∉ kind.fieldsOf fs ∧ isUnambiguous f.holds v = true := by
    intro f hf
    rw [hf] at hnodup hinner
    exact ⟨(List.nodup_cons.1 hnodup).1, hinner.1⟩
  have hrest : (kind.fieldsOf fs).Nodup := (List.nodup_append.1 hnodup).2.1
  cases hrespelled with
  | kept _ hentries =>
      refine ⟨key, v, _, rfl, ⟨hrest, hinner.2, hentries⟩, rfl, fun f hf => ?_⟩
      exact ⟨(hfield f hf).1, (hfield f hf).2, .same f.holds v⟩
  | @renamed _ g _ key' _ w _ gs' hkey hkey' hvalue hentries =>
      refine ⟨key', w, gs', rfl, ⟨hrest, hinner.2, hentries⟩, hkey'.trans hkey.symm, fun f hf => ?_⟩
      obtain rfl := Option.some.inj (hkey.symm.trans hf)
      exact ⟨(hfield g hkey).1, (hfield g hkey).2, hvalue⟩

/-- Respelling keeps the fields in their order. -/
lemma fieldsOf_eq (h : Level kind fs gs) : kind.fieldsOf gs = kind.fieldsOf fs := by
  induction fs generalizing gs with
  | nil =>
      cases h.respelled
      rfl
  | cons entry fs ih =>
      obtain ⟨key', w, gs', rfl, hrest, hsame, -⟩ := h.uncons
      rw [RecordKind.fieldsOf_cons, RecordKind.fieldsOf_cons, hsame, ih hrest]

/-- A field is found on both sides or on neither, and what it holds is respelled. -/
lemma find?_cases (h : Level kind fs gs) {f : Field} (hf : f ∈ kind.fields) :
    (find? fs f.names = none ∧ find? gs f.names = none) ∨
      ∃ key key' v w, find? fs f.names = some (key, v) ∧ find? gs f.names = some (key', w) ∧
        isUnambiguous f.holds v = true ∧ Respelled f.holds v w := by
  induction fs generalizing gs with
  | nil =>
      cases h.respelled
      exact Or.inl ⟨find?_eq_none (by simp), find?_eq_none (by simp)⟩
  | cons entry fs ih =>
      obtain ⟨key, v⟩ := entry
      obtain ⟨key', w, gs', rfl, hrest, hsame, hfield⟩ := h.uncons
      have hnames := RecordKind.field?_eq_some_iff hf
      by_cases hkey : kind.field? key = some f
      · -- the field's only entry is the first one, on both sides
        obtain ⟨habsent, hone, hvalue⟩ := hfield f hkey
        have habsent' : f ∉ kind.fieldsOf gs' := by rwa [hrest.fieldsOf_eq]
        exact Or.inr ⟨key, key', v, w,
          find?_cons_of_mem ((hnames key).1 hkey)
            (RecordKind.notMem_names_of_notMem_fieldsOf hf habsent),
          find?_cons_of_mem ((hnames key').1 (hsame.trans hkey))
            (RecordKind.notMem_names_of_notMem_fieldsOf hf habsent'), hone, hvalue⟩
      · have hkey' : kind.field? key' ≠ some f := by rwa [hsame]
        rw [find?_cons_of_notMem (mt (hnames key).2 hkey),
          find?_cons_of_notMem (mt (hnames key').2 hkey')]
        exact ih hrest

end Level

end Schema

/-! ### Outcomes -/

namespace Checked

variable {α β : Type}

/-- The value found, or the causes of the faults without their paths. -/
def outcome : Checked α → Except (List Cause) α
  | valid a => .ok a
  | invalid first others => .error ((first :: others).map Fault.cause)

/-- Two outcomes in one. -/
def joined : Except (List Cause) (α → β) → Except (List Cause) α → Except (List Cause) β
  | .ok f, .ok a => .ok (f a)
  | .ok _, .error causes => .error causes
  | .error causes, .ok _ => .error causes
  | .error causes, .error more => .error (causes ++ more)

lemma outcome_map (f : α → β) (c : Checked α) : (f <$> c).outcome = c.outcome.map f := by
  cases c <;> rfl

lemma outcome_seq (f : Checked (α → β)) (c : Checked α) :
    (f <*> c).outcome = joined f.outcome c.outcome := by
  cases f with
  | valid f => cases c <;> rfl
  | invalid first others =>
      cases c with
      | valid a =>
          show outcome (invalid first (others ++ [])) = _
          rw [List.append_nil]
          rfl
      | invalid first' others' =>
          show Except.error _ = Except.error _
          simp [faults]

lemma outcome_within (step : Step) (c : Checked α) : (c.within step).outcome = c.outcome := by
  cases c with
  | valid a => rfl
  | invalid first others =>
      show Except.error _ = Except.error _
      simp [Fault.within]

end Checked

/-! ### Checks that do not depend on names -/

namespace Schema

open Checked (outcome_map outcome_seq outcome_within)

variable {α : Type}

/-- The outcome of the check is the same for every spelling of an unambiguous value. -/
def Respects (slot : Slot) (check : Json → Checked α) : Prop :=
  ∀ v w, isUnambiguous slot v = true → Respelled slot v w → (check w).outcome = (check v).outcome

lemma respects_plain (check : Json → Checked α) : Respects .plain check := by
  intro v w _ h
  cases h
  rfl

lemma Respects.nullable {slot : Slot} {check : Json → Checked α} (h : Respects slot check) :
    Respects slot (nullable check) := by
  intro v w hone hvw
  have hcheck := h v w hone hvw
  -- respelling makes nothing of null and null of nothing
  cases hvw with
  | same => rfl
  | list => simp only [Schema.nullable, outcome_map, hcheck]
  | record => simp only [Schema.nullable, outcome_map, hcheck]
  | output => simp only [Schema.nullable, outcome_map, hcheck]

lemma Respects.eachFrom {item : Slot} {check : Json → Checked α} (h : Respects item check) (i : Nat)
    {vs ws : List Json} (hone : itemsUnambiguous item vs = true)
    (hvw : RespelledItems item vs ws) :
    (Checked.eachFrom check i ws).outcome = (Checked.eachFrom check i vs).outcome := by
  induction vs generalizing i ws with
  | nil =>
      cases hvw
      rfl
  | cons v vs ih =>
      rw [itemsUnambiguous, Bool.and_eq_true] at hone
      cases hvw with
      | @cons _ _ w _ ws hv hrest =>
          simp only [Checked.eachFrom, outcome_seq, outcome_map, outcome_within,
            h v w hone.1 hv, ih (i + 1) hone.2 hrest]

lemma Respects.list {item : Slot} {check : Json → Checked α} (h : Respects item check) :
    Respects (.list item) (list check) := by
  intro v w hone hvw
  cases hvw with
  | same => rfl
  | list hitems => exact h.eachFrom 0 hone hitems

lemma respects_record {kind : RecordKind} {check : List (String × Json) → Checked α}
    (h : ∀ fs gs, Level kind fs gs → (check gs).outcome = (check fs).outcome) :
    Respects (.record kind) (record check) := by
  intro v w hone hvw
  cases hvw with
  | same => rfl
  | record hentries =>
      rw [isUnambiguous, Bool.and_eq_true, decide_eq_true_eq] at hone
      exact h _ _ ⟨hone.1, hone.2, hentries⟩

namespace Level

variable {kind : RecordKind} {fs gs : List (String × Json)} (h : Level kind fs gs)
include h

lemma required {name : String} {others : List String} {slot : Slot} {check : Json → Checked α}
    (hcheck : Respects slot check) (hf : ⟨name :: others, slot⟩ ∈ kind.fields) :
    (required gs name others check).outcome = (required fs name others check).outcome := by
  rcases h.find?_cases hf with
    ⟨hfs, hgs⟩ | ⟨key, key', v, w, hfs, hgs, hone, hvw⟩
  · simp only [Schema.required, hfs, hgs]
  · simp only [Schema.required, hfs, hgs, outcome_within, hcheck v w hone hvw]

lemma optional {names : List String} {slot : Slot} {absent : α} {check : Json → Checked α}
    (hcheck : Respects slot check) (hf : ⟨names, slot⟩ ∈ kind.fields) :
    (optional gs names absent check).outcome = (optional fs names absent check).outcome := by
  rcases h.find?_cases hf with
    ⟨hfs, hgs⟩ | ⟨key, key', v, w, hfs, hgs, hone, hvw⟩
  · simp only [Schema.optional, hfs, hgs]
  · simp only [Schema.optional, hfs, hgs, outcome_within, hcheck v w hone hvw]

lemma required_plain {name : String} {others : List String} {check : Json → Checked α}
    (hf : ⟨name :: others, .plain⟩ ∈ kind.fields) :
    (Schema.required gs name others check).outcome =
      (Schema.required fs name others check).outcome :=
  h.required (respects_plain check) hf

lemma optional_plain {names : List String} {absent : α} {check : Json → Checked α}
    (hf : ⟨names, .plain⟩ ∈ kind.fields) :
    (Schema.optional gs names absent check).outcome =
      (Schema.optional fs names absent check).outcome :=
  h.optional (respects_plain check) hf

end Level

end Schema

/-! ### The readers, from the innermost records outwards -/

open Checked (outcome_map outcome_seq outcome_within)

lemma Usage.respects : Respects (.record .usage) ofJson := by
  refine respects_record fun fs gs h => ?_
  simp (disch := decide) only [outcome_seq, outcome_map, h.required_plain, h.optional_plain]

lemma Parameter.respects : Respects (.record .parameter) ofJson := by
  refine respects_record fun fs gs h => ?_
  simp (disch := decide) only [outcome_seq, outcome_map, h.required_plain, h.optional_plain,
    h.optional Usage.respects.list]

lemma ReturnOutput.respects : Respects (.record .returnOutput) ofJson := by
  refine respects_record fun fs gs h => ?_
  simp (disch := decide) only [outcome_seq, outcome_map, h.optional_plain]

lemma ThrowOutput.respects : Respects (.record .throwOutput) ofJson := by
  refine respects_record fun fs gs h => ?_
  simp (disch := decide) only [outcome_seq, outcome_map, h.optional_plain]

lemma SideEffectOutput.respects : Respects (.record .sideEffectOutput) ofJson := by
  refine respects_record fun fs gs h => ?_
  simp (disch := decide) only [outcome_seq, outcome_map, h.optional_plain]

/-- A respelled record of an output has the tag that it had. -/
lemma Output.lookup_type_of_respelled {kind : OutputKind} {fs gs : List (String × Json)}
    (h : Level kind.record fs gs) (htag : fs.lookup "type" = some (.str kind.tag)) :
    gs.lookup "type" = some (.str kind.tag) := by
  have hf : ⟨["type"], .plain⟩ ∈ kind.record.fields := by cases kind <;> decide
  have hfind (entries : List (String × Json)) :
      find? entries ["type"] = (entries.lookup "type").map ("type", ·) := by
    cases hentry : entries.lookup "type" <;> simp [find?, hentry]
  rcases h.find?_cases hf with ⟨hfs, -⟩ | ⟨key, key', v, w, hfs, hgs, -, hvw⟩
  · rw [hfind, htag] at hfs
    cases hfs
  · -- the tag is a plain text, which respelling leaves as it is
    cases hvw
    rw [hfind, htag] at hfs
    rw [hfind, Option.map_eq_some_iff] at hgs
    obtain ⟨w, hw, hpair⟩ := hgs
    cases hfs
    cases hpair
    exact hw

lemma Output.respects_ofJsonAs (kind : OutputKind) :
    Respects (.record kind.record) (ofJsonAs kind) := by
  intro v w hone hvw
  cases kind with
  | returned => simp only [ofJsonAs, outcome_map, ReturnOutput.respects v w hone hvw]
  | thrown => simp only [ofJsonAs, outcome_map, ThrowOutput.respects v w hone hvw]
  | sideEffect => simp only [ofJsonAs, outcome_map, SideEffectOutput.respects v w hone hvw]

lemma Output.respects : Respects .output ofJson := by
  intro v w hone hvw
  cases hvw with
  | same => rfl
  | @output kind fs gs htag hentries =>
      simp only [isUnambiguous, htag, OutputKind.ofTag?_tag] at hone
      have hkind := respects_ofJsonAs kind (.obj fs) (.obj gs) hone (.record hentries)
      rw [Bool.and_eq_true, decide_eq_true_eq] at hone
      have htag' := lookup_type_of_respelled ⟨hone.1, hone.2, hentries⟩ htag
      simp only [ofJson, htag, htag', OutputKind.ofTag?_tag, outcome_within, hkind]

lemma Product.respects : Respects (.record .product) ofJson := by
  refine respects_record fun fs gs h => ?_
  simp (disch := decide) only [outcome_map, h.required_plain]

lemma Transformation.respects : Respects (.record .transformation) ofJson := by
  refine respects_record fun fs gs h => ?_
  simp (disch := decide) only [outcome_seq, outcome_map, h.optional_plain,
    h.optional Product.respects.nullable]

lemma DataFlow.respects : Respects (.record .dataFlow) ofJson := by
  refine respects_record fun fs gs h => ?_
  simp (disch := decide) only [outcome_seq, outcome_map, h.optional Parameter.respects.list,
    h.optional Output.respects.list, h.optional Transformation.respects.list]

lemma Import.respects : Respects (.record .importLine) ofJson := by
  refine respects_record fun fs gs h => ?_
  simp (disch := decide) only [outcome_seq, outcome_map, h.required_plain, h.optional_plain]

lemma Argument.respects : Respects (.record .argument) ofJson := by
  refine respects_record fun fs gs h => ?_
  simp (disch := decide) only [outcome_seq, outcome_map, h.required_plain, h.optional_plain]

lemma CallSite.respects : Respects (.record .callSite) ofJson := by
  refine respects_record fun fs gs h => ?_
  simp (disch := decide) only [outcome_seq, outcome_map, h.required_plain, h.optional_plain]

lemma Archetype.respects : Respects (.record .archetype) ofJson := by
  refine respects_record fun fs gs h => ?_
  simp (disch := decide) only [outcome_seq, outcome_map, h.optional_plain]

lemma Meaning.respects : Respects (.record .meaning) ofJson := by
  refine respects_record fun fs gs h => ?_
  simp (disch := decide) only [outcome_seq, outcome_map, h.optional_plain]

lemma Atom.respects : Respects (.record .atom) ofJson := by
  refine respects_record fun fs gs h => ?_
  simp (disch := decide) only [outcome_seq, outcome_map, h.required_plain, h.optional_plain,
    h.optional Import.respects.list, h.optional CallSite.respects.list,
    h.optional DataFlow.respects.nullable, h.optional Archetype.respects.nullable,
    h.optional Meaning.respects.nullable]

/-- **A record may be spelled in any way.**  Where no field comes twice, giving fields other names
of theirs, at any depth, changes neither what the record stands for nor the causes for which it is
refused, nor their order. -/
theorem RecordKind.outcome_respelled (kind : RecordKind) {v w : Json}
    (hone : isUnambiguous (.record kind) v = true) (h : Respelled (.record kind) v w) :
    (kind.read w).outcome = (kind.read v).outcome := by
  cases kind with
  | usage => exact Usage.respects v w hone h
  | parameter => exact Parameter.respects v w hone h
  | returnOutput => exact ReturnOutput.respects v w hone h
  | throwOutput => exact ThrowOutput.respects v w hone h
  | sideEffectOutput => exact SideEffectOutput.respects v w hone h
  | product => exact Product.respects v w hone h
  | transformation => exact Transformation.respects v w hone h
  | dataFlow => exact DataFlow.respects v w hone h
  | importLine => exact Import.respects v w hone h
  | argument => exact Argument.respects v w hone h
  | callSite => exact CallSite.respects v w hone h
  | archetype => exact Archetype.respects v w hone h
  | meaning => exact Meaning.respects v w hone h
  | atom => exact Atom.respects v w hone h

/-- The record of a sketch, with the given names for fields of the records inside it. -/
def spelledSketch (hasDefault errorType sources operation : String) : Json :=
  .obj [("inputs", .arr [.obj [("name", .str "x"), (hasDefault, .bool true)]]),
    ("outputs", .arr [.obj [("type", .str "throw"), (errorType, .int 5)]]),
    ("transformations", .arr [.obj [(sources, .str "x"), (operation, .str "mutation")]])]

/-- Four fields get other names, and the error that is not named by a text is refused as before. -/
theorem RecordKind.outcome_respelled_sketch :
    isUnambiguous (.record .dataFlow)
        (spelledSketch "has_default" "error_type" "from_" "type") = true ∧
      Respelled (.record .dataFlow) (spelledSketch "has_default" "error_type" "from_" "type")
        (spelledSketch "hasDefault" "errorType" "from" "operation") ∧
      (RecordKind.dataFlow.read
        (spelledSketch "hasDefault" "errorType" "from" "operation")).outcome =
          .error [.notString] := by
  have hone : isUnambiguous (.record .dataFlow)
      (spelledSketch "has_default" "error_type" "from_" "type") = true := by decide
  have h : Respelled (.record .dataFlow) (spelledSketch "has_default" "error_type" "from_" "type")
      (spelledSketch "hasDefault" "errorType" "from" "operation") := by
    refine .record <|
      .renamed ⟨["inputs"], .list (.record .parameter)⟩ rfl rfl (.list (.cons ?_ .nil)) <|
      .renamed ⟨["outputs"], .list .output⟩ rfl rfl (.list (.cons ?_ .nil)) <|
      .renamed ⟨["transformations"], .list (.record .transformation)⟩ rfl rfl
        (.list (.cons ?_ .nil)) .nil
    · exact .record <| .kept _ <|
        .renamed ⟨["hasDefault", "has_default"], .plain⟩ rfl rfl (.same _ _) .nil
    · exact .output .thrown rfl <| .kept _ <|
        .renamed ⟨["errorType", "error_type"], .plain⟩ rfl rfl (.same _ _) .nil
    · exact .record <| .renamed ⟨["from", "from_"], .plain⟩ rfl rfl (.same _ _) <|
        .renamed ⟨["operation", "type"], .plain⟩ rfl rfl (.same _ _) .nil
  exact ⟨hone, h, (RecordKind.dataFlow.outcome_respelled hone h).trans rfl⟩

end Lineage
