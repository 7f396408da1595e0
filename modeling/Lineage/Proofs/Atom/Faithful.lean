/-
The records of an atom's parts are written faithfully: their numbers are whole, and they are read
back.
-/
import Lineage.Proofs.Json.Exact
import Lineage.Proofs.Schema.RoundTrip

namespace Lineage

open Json (Faithful)

lemma Json.Faithful.of_readsBack {α : Type} {check : Json → Checked α} {write : α → Json}
    (hread : Schema.ReadsBack check write) (hexact : ∀ a, Json.IsExact (write a)) :
    Faithful write where
  exact := hexact
  injective _ _ h := hread.injective h

lemma Usage.faithful : Faithful toJson :=
  .of_readsBack readsBack fun _ => ⟨trivial, Faithful.optInt.exact _, trivial⟩

lemma Parameter.faithful : Faithful toJson :=
  .of_readsBack readsBack fun p =>
    ⟨trivial, trivial, Faithful.int.exact p.position, trivial,
      (Faithful.str.list.opt (by simp [Json.list])).exact p.properties,
      Usage.faithful.list.exact p.usages, Faithful.optStr.exact p.dataType, trivial⟩

lemma Output.faithful : Faithful toJson := by
  refine .of_readsBack readsBack fun o => ?_
  cases o with
  | returned o =>
      exact ⟨trivial, Faithful.optStr.exact o.value, Faithful.optInt.exact o.line, trivial⟩
  | thrown o =>
      exact ⟨trivial, Faithful.optStr.exact o.errorType, Faithful.optInt.exact o.line, trivial⟩
  | sideEffect o =>
      exact ⟨trivial, Faithful.optStr.exact o.target, Faithful.optStr.exact o.operation,
        Faithful.optInt.exact o.line, trivial⟩

lemma Product.faithful : Faithful toJson :=
  .of_readsBack readsBack fun _ => ⟨trivial, trivial⟩

lemma Transformation.faithful : Faithful toJson :=
  .of_readsBack readsBack fun t =>
    ⟨Faithful.optStr.exact t.binding, Faithful.str.list.exact t.sources,
      Faithful.optStr.exact t.operation,
      (Product.faithful.opt (by simp [Product.toJson])).exact t.output,
      Faithful.optInt.exact t.line, trivial⟩

lemma DataFlow.faithful : Faithful toJson :=
  .of_readsBack readsBack fun d =>
    ⟨Parameter.faithful.list.exact d.inputs, Output.faithful.list.exact d.outputs,
      Transformation.faithful.list.exact d.transformations, trivial⟩

lemma Json.Faithful.optDataFlow : Faithful (Json.opt DataFlow.toJson) :=
  DataFlow.faithful.opt (by simp [DataFlow.toJson])

lemma Severity.faithful : Faithful toJson := by
  refine .of_readsBack readsBack fun s => ?_
  cases s with
  | level n => exact Faithful.int.exact n
  | word s => exact trivial

lemma Json.Faithful.optSeverity : Faithful (Json.opt Severity.toJson) := by
  refine Severity.faithful.opt fun s => ?_
  cases s <;> simp [Severity.toJson, Json.int]

lemma Archetype.faithful : Faithful toJson :=
  .of_readsBack readsBack fun a =>
    ⟨Faithful.optStr.exact a.kind, Faithful.optSeverity.exact a.severity, trivial⟩

lemma Json.Faithful.optArchetype : Faithful (Json.opt Archetype.toJson) :=
  Archetype.faithful.opt (by simp [Archetype.toJson])

lemma Meaning.faithful : Faithful toJson :=
  .of_readsBack readsBack fun m =>
    ⟨Faithful.optStr.exact m.verb, Faithful.optStr.exact m.domain, Faithful.optStr.exact m.entity,
      trivial⟩

lemma Json.Faithful.optMeaning : Faithful (Json.opt Meaning.toJson) :=
  Meaning.faithful.opt (by simp [Meaning.toJson])

end Lineage
