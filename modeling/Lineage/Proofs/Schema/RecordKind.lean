/-
The kinds of records, each with what its records stand for and how they are read and written.

Reading accepts more than writing produces: other names, numbers and truth values as texts, single
names for lists, nodes for names.  What is read and written again is in the one written form, and
stays as it is from then on (`RecordKind.written_form_stable`).
-/
import Mathlib.Logic.Function.Basic
import Lineage.Proofs.Schema.RoundTrip

namespace Lineage

/-- The kinds of records. -/
inductive RecordKind where
  | usage
  | parameter
  | returnOutput
  | throwOutput
  | sideEffectOutput
  | product
  | transformation
  | dataFlow
  | importLine
  | argument
  | callSite
  | archetype
  | meaning
  | atom
deriving DecidableEq, Repr

namespace RecordKind

/-- What a record stands for. -/
def Value : RecordKind → Type
  | usage => Usage
  | parameter => Parameter
  | returnOutput => ReturnOutput
  | throwOutput => ThrowOutput
  | sideEffectOutput => SideEffectOutput
  | product => Product
  | transformation => Transformation
  | dataFlow => DataFlow
  | importLine => Import
  | argument => Argument
  | callSite => CallSite
  | archetype => Archetype
  | meaning => Meaning
  | atom => Atom

/-- The reader of a kind of records. -/
def read : (kind : RecordKind) → Json → Checked kind.Value
  | usage => Usage.ofJson
  | parameter => Parameter.ofJson
  | returnOutput => ReturnOutput.ofJson
  | throwOutput => ThrowOutput.ofJson
  | sideEffectOutput => SideEffectOutput.ofJson
  | product => Product.ofJson
  | transformation => Transformation.ofJson
  | dataFlow => DataFlow.ofJson
  | importLine => Import.ofJson
  | argument => Argument.ofJson
  | callSite => CallSite.ofJson
  | archetype => Archetype.ofJson
  | meaning => Meaning.ofJson
  | atom => Atom.ofJson

/-- The writer of a kind of records. -/
def write : (kind : RecordKind) → kind.Value → Json
  | usage => Usage.toJson
  | parameter => Parameter.toJson
  | returnOutput => ReturnOutput.toJson
  | throwOutput => ThrowOutput.toJson
  | sideEffectOutput => SideEffectOutput.toJson
  | product => Product.toJson
  | transformation => Transformation.toJson
  | dataFlow => DataFlow.toJson
  | importLine => Import.toJson
  | argument => Argument.toJson
  | callSite => CallSite.toJson
  | archetype => Archetype.toJson
  | meaning => Meaning.toJson
  | atom => Atom.toJson

/-- A record in its written form: read, and written again. -/
def rewrite (kind : RecordKind) (v : Json) : Checked Json :=
  kind.write <$> kind.read v

lemma readsBack (kind : RecordKind) : Schema.ReadsBack kind.read kind.write := by
  cases kind with
  | usage => exact Usage.readsBack
  | parameter => exact Parameter.readsBack
  | returnOutput => exact ReturnOutput.readsBack
  | throwOutput => exact ThrowOutput.readsBack
  | sideEffectOutput => exact SideEffectOutput.readsBack
  | product => exact Product.readsBack
  | transformation => exact Transformation.readsBack
  | dataFlow => exact DataFlow.readsBack
  | importLine => exact Import.readsBack
  | argument => exact Argument.readsBack
  | callSite => exact CallSite.readsBack
  | archetype => exact Archetype.readsBack
  | meaning => exact Meaning.readsBack
  | atom => exact Atom.readsBack

lemma exists_of_rewrite {kind : RecordKind} {v w : Json} (h : kind.rewrite v = .valid w) :
    ∃ a, kind.read v = .valid a ∧ kind.write a = w := by
  rw [rewrite] at h
  cases hread : kind.read v with
  | valid a =>
      rw [hread] at h
      cases h
      exact ⟨a, rfl, rfl⟩
  | invalid first others =>
      rw [hread] at h
      cases h

/-- **The written form is stable.**  What was read from any record is written so that it is read
again without a fault, as exactly the same; different things are written differently; and a record
in its written form stays as it is. -/
theorem written_form_stable (kind : RecordKind) :
    (∀ v a, kind.read v = .valid a → kind.read (kind.write a) = .valid a) ∧
      Function.Injective kind.write ∧
      ∀ v w, kind.rewrite v = .valid w → kind.rewrite w = .valid w := by
  refine ⟨fun _ a _ => kind.readsBack a, fun _ _ h => kind.readsBack.injective h, ?_⟩
  intro v w h
  obtain ⟨a, -, rfl⟩ := exists_of_rewrite h
  rw [rewrite, kind.readsBack a]
  rfl

end RecordKind

end Lineage
