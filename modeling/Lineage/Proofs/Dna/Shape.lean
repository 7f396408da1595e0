/-
The shape of a data flow: all of it that its structural record keeps.

Two sketches have the same shape if their parameters bind alike and are used in the same ways, their
steps do the same to as many things, and their outputs are of the same kinds, each in order.  Names,
positions, lines and the order or number of the uses of a parameter are not part of it.
-/
import Mathlib.Data.List.Forall2
import Mathlib.Data.List.Sort
import Mathlib.Data.String.Basic
import Lineage.Dna.Layer
import Lineage.Proofs.Json.Exact
import Lineage.Proofs.Schema.RoundTrip

namespace Lineage

namespace Dna.Layer

/-! ### Sorted sets -/

lemma mem_insertSorted {x y : String} {ys : List String} :
    y ∈ insertSorted x ys ↔ y = x ∨ y ∈ ys := by
  induction ys with
  | nil => simp [insertSorted]
  | cons z zs ih =>
      rw [insertSorted]
      by_cases heq : x = z
      · subst heq
        simp
      · by_cases hlt : x < z
        · simp [heq, hlt]
        · rw [if_neg heq, if_neg hlt, List.mem_cons, List.mem_cons, ih]
          tauto

lemma pairwise_insertSorted (x : String) {ys : List String} (h : ys.Pairwise (· < ·)) :
    (insertSorted x ys).Pairwise (· < ·) := by
  induction ys with
  | nil => simp [insertSorted]
  | cons z zs ih =>
      obtain ⟨hz, hzs⟩ := List.pairwise_cons.1 h
      rw [insertSorted]
      by_cases heq : x = z
      · rw [if_pos heq]
        exact h
      · by_cases hlt : x < z
        · rw [if_neg heq, if_pos hlt]
          refine List.pairwise_cons.2 ⟨fun y hy => ?_, h⟩
          rcases List.mem_cons.1 hy with rfl | hy
          · exact hlt
          · exact hlt.trans (hz y hy)
        · -- everything behind `z` is above it: the old members, and `x` by the order being total
          rw [if_neg heq, if_neg hlt]
          refine List.pairwise_cons.2 ⟨fun y hy => ?_, ih hzs⟩
          rcases mem_insertSorted.1 hy with rfl | hy
          · exact lt_of_le_of_ne (not_lt.1 hlt) (Ne.symm heq)
          · exact hz y hy

lemma mem_sortedSet {x : String} {xs : List String} : x ∈ sortedSet xs ↔ x ∈ xs := by
  induction xs with
  | nil => simp [sortedSet]
  | cons y ys ih =>
      rw [sortedSet, List.foldr_cons, mem_insertSorted, List.mem_cons, ← ih, sortedSet]

lemma pairwise_sortedSet (xs : List String) : (sortedSet xs).Pairwise (· < ·) := by
  induction xs with
  | nil => exact .nil
  | cons y ys ih => exact pairwise_insertSorted y ih

/-- The sorted sets of two lists tell exactly whether the lists have the same members. -/
lemma sortedSet_eq_iff {xs ys : List String} :
    sortedSet xs = sortedSet ys ↔ ∀ x, x ∈ xs ↔ x ∈ ys := by
  constructor
  · intro h x
    rw [← mem_sortedSet, h, mem_sortedSet]
  · intro h
    refine (pairwise_sortedSet xs).eq_of_mem_iff (pairwise_sortedSet ys) fun x => ?_
    rw [mem_sortedSet, mem_sortedSet, h x]

end Dna.Layer

/-! ### The same shape -/

lemma Shape.name_injective : Function.Injective Shape.name := by
  intro s t h
  have hread := Shape.ofJson_name s
  rw [h, Shape.ofJson_name t] at hread
  cases hread
  rfl

lemma OutputKind.tag_injective : Function.Injective OutputKind.tag := by
  intro k l h
  have hread := ofTag?_tag k
  rw [h, ofTag?_tag l] at hread
  exact (Option.some.inj hread).symm

/-- Parameters that bind alike and are used in the same ways. -/
structure Parameter.SameShape (p q : Parameter) : Prop where
  shape : p.shape = q.shape
  usages : ∀ kind, kind ∈ p.usages.map Usage.kind ↔ kind ∈ q.usages.map Usage.kind

/-- Steps that do the same to as many things. -/
structure Transformation.SameShape (s t : Transformation) : Prop where
  operation : s.operation = t.operation
  arity : s.sources.length = t.sources.length

/-- Sketches that agree on everything but names, places and details. -/
structure DataFlow.SameShape (d e : DataFlow) : Prop where
  inputs : List.Forall₂ Parameter.SameShape d.inputs e.inputs
  transformations :
    List.Forall₂ Transformation.SameShape d.transformations e.transformations
  outputs : List.Forall₂ (fun o p => o.kind = p.kind) d.outputs e.outputs

namespace Dna.Layer

open Json (IsExact)

lemma inputRecord_eq_iff {p q : Parameter} : inputRecord p = inputRecord q ↔ p.SameShape q := by
  rw [inputRecord, inputRecord, Json.obj.injEq]
  simp only [List.cons.injEq, Prod.mk.injEq, true_and, and_true, Json.str.injEq,
    Shape.name_injective.eq_iff, Json.Faithful.str.list.injective.eq_iff, sortedSet_eq_iff]
  exact ⟨fun ⟨hshape, husages⟩ => ⟨hshape, husages⟩, fun h => ⟨h.shape, h.usages⟩⟩

lemma transformationRecord_eq_iff {s t : Transformation} :
    transformationRecord s = transformationRecord t ↔ s.SameShape t := by
  rw [transformationRecord, transformationRecord, Json.obj.injEq]
  simp only [List.cons.injEq, Prod.mk.injEq, true_and, and_true,
    Json.Faithful.int.injective.eq_iff, Json.Faithful.optStr.injective.eq_iff, Int.natCast_inj]
  exact ⟨fun ⟨harity, hoperation⟩ => ⟨hoperation, harity⟩, fun h => ⟨h.arity, h.operation⟩⟩

lemma outputRecord_eq_iff {o p : Output} : outputRecord o = outputRecord p ↔ o.kind = p.kind := by
  constructor
  · intro h
    rw [outputRecord, outputRecord, Json.obj.injEq] at h
    simp only [List.cons.injEq, Prod.mk.injEq, true_and, and_true, Json.str.injEq] at h
    exact OutputKind.tag_injective h.2
  · intro h
    rw [outputRecord, outputRecord, h]

lemma list_eq_iff {α : Type} {write : α → Json} {xs ys : List α} :
    Json.list write xs = Json.list write ys ↔
      List.Forall₂ (fun x y => write x = write y) xs ys := by
  rw [Json.list, Json.list, Json.arr.injEq, ← List.forall₂_eq_eq_eq, List.forall₂_map_left_iff,
    List.forall₂_map_right_iff]

/-- **The structural record tells exactly the shape.** -/
lemma structuralRecord_eq_iff {d e : DataFlow} :
    structuralRecord d = structuralRecord e ↔ d.SameShape e := by
  rw [structuralRecord, structuralRecord, Json.obj.injEq]
  simp only [List.cons.injEq, Prod.mk.injEq, true_and, and_true, list_eq_iff, inputRecord_eq_iff,
    outputRecord_eq_iff, transformationRecord_eq_iff]
  exact ⟨fun ⟨hin, hout, hsteps⟩ => ⟨hin, hsteps, hout⟩,
    fun h => ⟨h.inputs, h.outputs, h.transformations⟩⟩

lemma isExact_structuralRecord (d : DataFlow) : IsExact (structuralRecord d) := by
  have hinput (p : Parameter) : IsExact (inputRecord p) :=
    ⟨trivial, Json.Faithful.str.list.exact _, trivial⟩
  have houtput (o : Output) : IsExact (outputRecord o) := ⟨trivial, trivial, trivial⟩
  have hstep (t : Transformation) : IsExact (transformationRecord t) :=
    ⟨Json.Faithful.int.exact _, Json.Faithful.optStr.exact t.operation, trivial⟩
  exact ⟨Json.exactItems_map hinput d.inputs, Json.exactItems_map houtput d.outputs,
    Json.exactItems_map hstep d.transformations, trivial⟩

end Dna.Layer

/-- Sketches of the same shape go through the same operations. -/
lemma DataFlow.SameShape.operationNames_eq {d e : DataFlow} (h : d.SameShape e) :
    d.operationNames = e.operationNames := by
  rw [operationNames, operationNames, ← List.forall₂_eq_eq_eq, List.forall₂_map_left_iff,
    List.forall₂_map_right_iff]
  refine h.transformations.imp fun s t hst => ?_
  rw [Transformation.operationName, Transformation.operationName, hst.operation]

end Lineage
