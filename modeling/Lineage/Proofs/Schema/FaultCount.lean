/-
How many faults a record has.

A check reports every fault, so what it reports can be counted beforehand: a field that is missing
though it must be there is one fault, a list has those of its items, a record has those of its
fields, and what may be one of two things and is neither has the faults of both readings.  This is
counted here without any check but those of single values, and it is shown that reading an atom
finds just as many faults (`Atom.counts`): none is lost on the way out and none comes twice.
-/
import Mathlib.Algebra.GroupWithZero.Nat
import Lineage.Proofs.Schema.RoundTrip

namespace Lineage

namespace Checked

variable {α β : Type}

@[simp] lemma length_faults_valid (a : α) : (valid a).faults.length = 0 := rfl

@[simp] lemma length_faults_refuse (cause : Cause) :
    (refuse cause : Checked α).faults.length = 1 := rfl

lemma faults_map (f : α → β) (c : Checked α) : (f <$> c).faults = c.faults := by
  cases c <;> rfl

lemma faults_seq (f : Checked (α → β)) (c : Checked α) :
    (f <*> c).faults = f.faults ++ c.faults := by
  cases f with
  | valid f => cases c <;> rfl
  | invalid first others => rfl

lemma length_faults_within (step : Step) (c : Checked α) :
    (c.within step).faults.length = c.faults.length := by
  cases c with
  | valid a => rfl
  | invalid first others => simp [within, faults]

lemma faults_eq_nil_iff (c : Checked α) : c.faults = [] ↔ ∃ a, c = valid a := by
  cases c <;> simp [faults]

end Checked

namespace Schema

variable {α : Type}

/-! ### Counting faults -/

/-- One fault in a value that the check refuses. -/
def once (check : Json → Checked α) (v : Json) : Nat :=
  if (check v).toOption.isSome then 0 else 1

/-- No fault in null, and those of any other value. -/
def orNull (count : Json → Nat) : Json → Nat
  | .null => 0
  | v => count v

/-- The faults of the items of a list; anything else is one itself. -/
def total (count : Json → Nat) : Json → Nat
  | .arr items => (items.map count).sum
  | _ => 1

/-- The faults of a value that is read in two ways, none where one of them fits. -/
def either (count count' : Json → Nat) (v : Json) : Nat :=
  if count v = 0 ∨ count' v = 0 then 0 else count v + count' v

/-- The faults of a field that must be there. -/
def need (fields : List (String × Json)) (names : List String) (count : Json → Nat) : Nat :=
  match find? fields names with
  | none => 1
  | some (_, v) => count v

/-- The faults of a field that may be missing. -/
def may (fields : List (String × Json)) (names : List String) (count : Json → Nat) : Nat :=
  match find? fields names with
  | none => 0
  | some (_, v) => count v

/-- The faults of the fields of an object; anything else is one itself. -/
def ofFields (count : List (String × Json) → Nat) : Json → Nat
  | .obj fields => count fields
  | _ => 1

end Schema

open Schema

def Usage.faultCount : Json → Nat :=
  ofFields fun fields =>
    need fields ["type"] (once text) + may fields ["line"] (orNull (once whole))

def Parameter.faultCount : Json → Nat :=
  ofFields fun fields =>
    need fields ["name"] (once text) + may fields ["type"] (once Shape.ofJson) +
      may fields ["position"] (once whole) + may fields ["hasDefault", "has_default"] (once truth) +
      may fields ["properties"] (orNull (total (once text))) +
      may fields ["usages"] (total Usage.faultCount) +
      may fields ["dataType", "data_type"] (orNull (once text))

def ReturnOutput.faultCount : Json → Nat :=
  ofFields fun fields =>
    may fields ["type"] (once (OutputKind.expect .returned)) +
      may fields ["value"] (orNull (once text)) + may fields ["line"] (orNull (once whole))

def ThrowOutput.faultCount : Json → Nat :=
  ofFields fun fields =>
    may fields ["type"] (once (OutputKind.expect .thrown)) +
      may fields ["errorType", "error_type"] (orNull (once text)) +
      may fields ["line"] (orNull (once whole))

def SideEffectOutput.faultCount : Json → Nat :=
  ofFields fun fields =>
    may fields ["type"] (once (OutputKind.expect .sideEffect)) +
      may fields ["target"] (orNull (once text)) + may fields ["operation"] (orNull (once text)) +
      may fields ["line"] (orNull (once whole))

/-- The faults of an output, by the kind that its tag tells; a missing or unknown tag is one. -/
def Output.faultCount : Json → Nat :=
  ofFields fun fields =>
    match fields.lookup "type" with
    | some (.str "return") => ReturnOutput.faultCount (.obj fields)
    | some (.str "throw") => ThrowOutput.faultCount (.obj fields)
    | some (.str "side_effect") => SideEffectOutput.faultCount (.obj fields)
    | _ => 1

def Product.faultCount : Json → Nat :=
  ofFields fun fields => need fields ["name"] (once text)

/-- The faults of the names that a step reads: a single one stands for a list of one. -/
def Transformation.sourcesCount : Json → Nat
  | .str _ => 0
  | v => orNull (total (once text)) v

def Transformation.faultCount : Json → Nat :=
  ofFields fun fields =>
    may fields ["to"] (orNull (once text)) + may fields ["from", "from_"] sourcesCount +
      may fields ["operation", "type"] (orNull (once text)) +
      may fields ["output"] (orNull Product.faultCount) + may fields ["line"] (orNull (once whole))

def DataFlow.faultCount : Json → Nat :=
  ofFields fun fields =>
    may fields ["inputs"] (total Parameter.faultCount) +
      may fields ["outputs"] (total Output.faultCount) +
      may fields ["transformations"] (total Transformation.faultCount)

def Import.faultCount : Json → Nat :=
  ofFields fun fields =>
    need fields ["source"] (once text) + may fields ["specifiers"] (total (once text))

def CallSite.faultCount : Json → Nat :=
  ofFields fun fields =>
    need fields ["name"] (once text) + may fields ["line"] (once whole) +
      may fields ["args"] (orNull (total fun _ => 0))

def Archetype.faultCount : Json → Nat :=
  ofFields fun fields =>
    may fields ["type"] (orNull (once text)) +
      may fields ["severity"] (orNull (either (once whole) (once text)))

def Meaning.faultCount : Json → Nat :=
  ofFields fun fields =>
    may fields ["verb"] (orNull (once text)) + may fields ["domain"] (orNull (once text)) +
      may fields ["entity"] (orNull (once text))

/-- How many faults the record of an atom has. -/
def Atom.faultCount : Json → Nat :=
  ofFields fun fields =>
    need fields ["id"] (once text) + need fields ["name"] (once text) +
      need fields ["filePath", "file_path"] (once text) + may fields ["line"] (once whole) +
      may fields ["isExported", "is_exported"] (once truth) +
      may fields ["isAsync", "is_async"] (once truth) +
      may fields ["imports"] (total Import.faultCount) +
      may fields ["calls"] (total CallSite.faultCount) +
      may fields ["dataFlow", "data_flow"] (orNull DataFlow.faultCount) +
      may fields ["archetype"] (orNull Archetype.faultCount) +
      may fields ["purpose"] (fun v => orNull (once text) (unwrap "type" v)) +
      may fields ["complexity"] (once whole) +
      may fields ["linesOfCode", "lines_of_code"] (once whole) +
      may fields ["isTestCallback", "is_test_callback"] (once truth) +
      may fields ["testCallbackType", "test_callback_type"] (orNull (once text)) +
      may fields ["className", "class_name"] (orNull (once text)) +
      may fields ["semantic"] (orNull Meaning.faultCount) + may fields ["code"] (once text)

/-! ### Checks that find what is counted -/

open Checked (faults_map faults_seq length_faults_within)

namespace Schema

variable {α : Type} {check : Json → Checked α} {count : Json → Nat}

/-- The check finds as many faults in a value as are counted. -/
def Counts (check : Json → Checked α) (count : Json → Nat) : Prop :=
  ∀ v, (check v).faults.length = count v

/-- A check that stops at its first fault. -/
lemma counts_once (h : ∀ v, (check v).faults.length ≤ 1) : Counts check (once check) := by
  intro v
  have hone := h v
  unfold once
  cases hcheck : check v with
  | valid a => rfl
  | invalid first others =>
      rw [hcheck] at hone
      simp only [Checked.faults, List.length_cons] at hone ⊢
      simp only [Checked.toOption, Option.isSome_none, Bool.false_eq_true, if_false]
      omega

lemma counts_text : Counts text (once text) := by
  refine counts_once fun v => ?_
  cases v <;> simp [text]

lemma counts_whole : Counts whole (once whole) := by
  refine counts_once fun v => ?_
  unfold whole wholeReal
  repeat' split
  all_goals simp

lemma counts_truth : Counts truth (once truth) := by
  refine counts_once fun v => ?_
  unfold truth truthOfWhole
  dsimp only
  repeat' split
  all_goals simp

lemma counts_any : Counts any (fun _ => 0) := fun _ => rfl

lemma Counts.nullable (h : Counts check count) : Counts (nullable check) (orNull count) := by
  intro v
  cases v with
  | null => rfl
  | _ => simp only [Schema.nullable, orNull, faults_map, h _]

lemma Counts.eachFrom (h : Counts check count) (i : Nat) (items : List Json) :
    (Checked.eachFrom check i items).faults.length = (items.map count).sum := by
  induction items generalizing i with
  | nil => rfl
  | cons v items ih =>
      simp only [Checked.eachFrom, faults_seq, faults_map, List.length_append,
        length_faults_within, h v, ih, List.map_cons, List.sum_cons]

lemma Counts.list (h : Counts check count) : Counts (list check) (total count) := by
  intro v
  cases v with
  | arr items => exact h.eachFrom 0 items
  | _ => rfl

lemma Counts.required (h : Counts check count) (fields : List (String × Json)) (name : String)
    (others : List String) :
    (required fields name others check).faults.length = need fields (name :: others) count := by
  unfold Schema.required need
  cases find? fields (name :: others) with
  | none => rfl
  | some entry => exact (length_faults_within _ _).trans (h entry.2)

lemma Counts.optional (h : Counts check count) (fields : List (String × Json))
    (names : List String) (absent : α) :
    (optional fields names absent check).faults.length = may fields names count := by
  unfold Schema.optional may
  cases find? fields names with
  | none => rfl
  | some entry => exact (length_faults_within _ _).trans (h entry.2)

lemma counts_record {check : List (String × Json) → Checked α}
    {count : List (String × Json) → Nat}
    (h : ∀ fields, (check fields).faults.length = count fields) :
    Counts (record check) (ofFields count) := by
  intro v
  cases v with
  | obj fields => exact h fields
  | _ => rfl

end Schema

/-! ### The readers, from the innermost records outwards -/

lemma Usage.counts : Counts ofJson faultCount := by
  refine counts_record fun fields => ?_
  simp only [faults_seq, faults_map, List.length_append, counts_text.required,
    counts_whole.nullable.optional]

lemma Shape.counts : Counts ofJson (once ofJson) := by
  refine counts_once fun v => ?_
  unfold ofJson
  repeat' split
  all_goals simp

lemma Parameter.counts : Counts ofJson faultCount := by
  refine counts_record fun fields => ?_
  simp only [faults_seq, faults_map, List.length_append, counts_text.required,
    Shape.counts.optional, counts_whole.optional, counts_truth.optional,
    counts_text.list.nullable.optional, Usage.counts.list.optional, counts_text.nullable.optional]

lemma OutputKind.counts_expect (kind : OutputKind) : Counts kind.expect (once kind.expect) := by
  refine counts_once fun v => ?_
  unfold expect
  repeat' split
  all_goals simp

lemma ReturnOutput.counts : Counts ofJson faultCount := by
  refine counts_record fun fields => ?_
  simp only [faults_seq, faults_map, List.length_append, (OutputKind.counts_expect _).optional,
    counts_text.nullable.optional, counts_whole.nullable.optional]

lemma ThrowOutput.counts : Counts ofJson faultCount := by
  refine counts_record fun fields => ?_
  simp only [faults_seq, faults_map, List.length_append, (OutputKind.counts_expect _).optional,
    counts_text.nullable.optional, counts_whole.nullable.optional]

lemma SideEffectOutput.counts : Counts ofJson faultCount := by
  refine counts_record fun fields => ?_
  simp only [faults_seq, faults_map, List.length_append, (OutputKind.counts_expect _).optional,
    counts_text.nullable.optional, counts_whole.nullable.optional]

lemma Output.length_faults_of_tag (kind : OutputKind) {fields : List (String × Json)}
    (htag : fields.lookup "type" = some (.str kind.tag)) :
    (ofJson (.obj fields)).faults.length = (ofJsonAs kind (.obj fields)).faults.length := by
  simp only [ofJson, htag, OutputKind.ofTag?_tag, length_faults_within]

lemma Output.counts : Counts ofJson faultCount := by
  intro v
  cases v with
  | obj fields =>
      show _ = ofFields _ (.obj fields)
      unfold ofFields
      dsimp only
      split
      · next htag =>
          rw [length_faults_of_tag .returned htag, ofJsonAs, faults_map]
          exact ReturnOutput.counts (.obj fields)
      · next htag =>
          rw [length_faults_of_tag .thrown htag, ofJsonAs, faults_map]
          exact ThrowOutput.counts (.obj fields)
      · next htag =>
          rw [length_faults_of_tag .sideEffect htag, ofJsonAs, faults_map]
          exact SideEffectOutput.counts (.obj fields)
      · next hreturn hthrow hside =>
          have hother : ∀ kind : OutputKind, fields.lookup "type" ≠ some (.str kind.tag) := by
            intro kind
            cases kind with
            | returned => exact hreturn
            | thrown => exact hthrow
            | sideEffect => exact hside
          unfold ofJson
          dsimp only
          split
          · rfl
          · next s htag =>
              split
              · rfl
              · next kind hkind =>
                  have hs : kind.tag = s := by simpa using List.find?_some hkind
                  exact absurd (hs ▸ htag) (hother kind)
          · rfl
  | _ => rfl

lemma Product.counts : Counts ofJson faultCount := by
  refine counts_record fun fields => ?_
  simp only [faults_map, counts_text.required]

lemma Transformation.counts_sources : Counts sourcesOfJson sourcesCount := by
  intro v
  cases v with
  | arr items => exact counts_text.list (.arr items)
  | _ => rfl

lemma Transformation.counts : Counts ofJson faultCount := by
  refine counts_record fun fields => ?_
  simp only [faults_seq, faults_map, List.length_append, counts_text.nullable.optional,
    counts_sources.optional, Product.counts.nullable.optional, counts_whole.nullable.optional]

lemma DataFlow.counts : Counts ofJson faultCount := by
  refine counts_record fun fields => ?_
  simp only [faults_seq, faults_map, List.length_append, Parameter.counts.list.optional,
    Output.counts.list.optional, Transformation.counts.list.optional]

lemma Import.counts : Counts ofJson faultCount := by
  refine counts_record fun fields => ?_
  simp only [faults_seq, faults_map, List.length_append, counts_text.required,
    counts_text.list.optional]

lemma CallSite.counts : Counts ofJson faultCount := by
  refine counts_record fun fields => ?_
  simp only [faults_seq, faults_map, List.length_append, counts_text.required,
    counts_whole.optional, counts_any.list.nullable.optional]

/-- A severity that is neither a number nor a text has a fault for each. -/
lemma Severity.counts : Counts ofJson (either (once whole) (once text)) := by
  intro v
  unfold ofJson
  split
  · simp [either, once, text, Checked.faults, Checked.toOption]
  · next hword =>
      have htext : once text v = 1 := by
        cases v with
        | str s => exact (hword s rfl).elim
        | _ => rfl
      split
      · next n hwhole => simp [either, once, hwhole, Checked.faults, Checked.toOption]
      · next hnone =>
          have hwhole : once whole v = 1 := by
            unfold once
            cases hcheck : whole v with
            | valid n => exact (hnone n hcheck).elim
            | invalid first others => rfl
          rw [faults_seq, faults_map, List.length_append, length_faults_within,
            length_faults_within, counts_whole v, counts_text v, either, hwhole, htext]
          rfl

lemma Archetype.counts : Counts ofJson faultCount := by
  refine counts_record fun fields => ?_
  simp only [faults_seq, faults_map, List.length_append, counts_text.nullable.optional,
    Severity.counts.nullable.optional]

lemma Meaning.counts : Counts ofJson faultCount := by
  refine counts_record fun fields => ?_
  simp only [faults_seq, faults_map, List.length_append, counts_text.nullable.optional]

lemma Atom.counts_purpose :
    Counts purposeOfJson fun v => orNull (once text) (unwrap "type" v) :=
  fun v => counts_text.nullable (unwrap "type" v)

/-- Reading the record of an atom finds all its faults, each once. -/
lemma Atom.counts : Counts ofJson faultCount := by
  refine counts_record fun fields => ?_
  simp only [faults_seq, faults_map, List.length_append, counts_text.required,
    counts_whole.optional, counts_truth.optional, Import.counts.list.optional,
    CallSite.counts.list.optional, DataFlow.counts.nullable.optional,
    Archetype.counts.nullable.optional, counts_purpose.optional, counts_text.nullable.optional,
    Meaning.counts.nullable.optional, counts_text.optional]

end Lineage
