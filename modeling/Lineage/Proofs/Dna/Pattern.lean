/-
What the pattern hash of a data flow is made from.

The operations are joined by arrows, and the joined text is written as a JSON string.  A name may
hold the two characters of an arrow, at its ends too, but the arrow is unbordered: as long as no
name holds a whole arrow, arrows are found between the names only, and the text tells the names.  A
step is never called by the empty text, so no step at all is not taken for anything else.  The main
statement is `hashedPattern_eq_iff_operationNames`.
-/
import Lineage.Dna.Layer
import Lineage.Proofs.Atom.Given
import Lineage.Proofs.Json.Exact
import Lineage.Proofs.Text.Join

namespace Lineage

/-! ### Names of operations -/

/-- The mark between two operations. -/
def arrow : List Char := ['-', '>']

lemma unbordered_arrow : Text.Unbordered arrow := by
  intro part hbegins hends
  rcases List.suffix_cons_iff.1 hends with heq | hends
  · exact Or.inr heq
  rcases List.suffix_cons_iff.1 hends with rfl | hends
  · -- the point alone does not begin an arrow
    exact absurd hbegins (by decide)
  · exact Or.inl (List.suffix_nil.1 hends)

namespace DataFlow

/-- No operation of the sketch has an arrow in its name. -/
def ArrowFree (d : DataFlow) : Prop :=
  ∀ name ∈ d.operationNames, ¬arrow <:+: name.toList

instance (d : DataFlow) : Decidable d.ArrowFree :=
  inferInstanceAs (Decidable (∀ name ∈ d.operationNames, ¬arrow <:+: name.toList))

lemma ArrowFree.not_infix_toList {d : DataFlow} (h : d.ArrowFree) :
    ∀ piece ∈ d.operationNames.map String.toList, ¬arrow <:+: piece :=
  List.forall_mem_map.2 h

lemma toList_operationName_ne_nil (d : DataFlow) :
    ∀ piece ∈ d.operationNames.map String.toList, piece ≠ [] := by
  intro piece hpiece
  obtain ⟨name, hname, rfl⟩ := List.mem_map.1 hpiece
  obtain ⟨t, -, rfl⟩ := List.mem_map.1 hname
  rw [Ne, String.toList_eq_nil_iff]
  exact t.isCalled_operationName.ne_empty

end DataFlow

/-! ### The hashed text -/

namespace Dna.Layer

/-- The text whose digest begins with the pattern hash. -/
def hashedPattern (d : DataFlow) : String :=
  (Json.str (patternText d)).compact

lemma pattern_eq_digest (d : DataFlow) :
    pattern d = String.ofList ((Sha256.digest (hashedPattern d)).take patternHashLength) := rfl

lemma patternText_eq_join (d : DataFlow) :
    patternText d = String.ofList (Text.join arrow (d.operationNames.map String.toList)) := rfl

/-- Writing the joined operations as a string keeps them apart, whatever is escaped in it. -/
lemma hashedPattern_eq_iff_join {d e : DataFlow} :
    hashedPattern d = hashedPattern e ↔
      Text.join arrow (d.operationNames.map String.toList) =
        Text.join arrow (e.operationNames.map String.toList) := by
  rw [← String.ofList_inj, ← patternText_eq_join, ← patternText_eq_join]
  constructor
  · intro h
    exact Json.str.inj (Json.eq_of_compact_eq trivial trivial h)
  · intro h
    rw [hashedPattern, h, hashedPattern]

lemma hashedPattern_eq_iff_of_nil {d e : DataFlow} (hd : d.transformations = []) :
    hashedPattern d = hashedPattern e ↔ e.transformations = [] := by
  have hnames : d.operationNames = [] := by rw [DataFlow.operationNames, hd, List.map_nil]
  rw [hashedPattern_eq_iff_join, hnames, List.map_nil, Text.join, eq_comm,
    Text.join_eq_nil_iff e.toList_operationName_ne_nil, List.map_eq_nil_iff,
    DataFlow.operationNames, List.map_eq_nil_iff]

/-- **The text behind the pattern hash tells the operations**, as long as no arrow stands in the
name of one.  The text for no operation at all tells that in any case. -/
theorem hashedPattern_eq_iff_operationNames {d e : DataFlow} (hd : d.ArrowFree)
    (he : e.ArrowFree) :
    (hashedPattern d = hashedPattern e ↔ d.operationNames = e.operationNames) ∧
      (∀ f g : DataFlow, f.transformations = [] →
        (hashedPattern f = hashedPattern g ↔ g.transformations = [])) ∧
      ∀ f : DataFlow, List.Forall₂ Transformation.IsCalled f.transformations f.operationNames ∧
        pattern f = String.ofList ((Sha256.digest (hashedPattern f)).take patternHashLength) := by
  refine ⟨?_, fun f g hf => hashedPattern_eq_iff_of_nil hf, fun f =>
    ⟨f.forall₂_isCalled, pattern_eq_digest f⟩⟩
  rw [hashedPattern_eq_iff_join, unbordered_arrow.join_eq_iff hd.not_infix_toList
    he.not_infix_toList d.toList_operationName_ne_nil e.toList_operationName_ne_nil]
  exact (List.map_injective_iff.2 fun _ _ => String.toList_inj.1).eq_iff

/-- A sketch of steps with the given operations. -/
def stepsOf (operations : List (Option String)) : DataFlow :=
  ⟨[], [], operations.map fun operation => ⟨none, [], operation, none, none⟩⟩

/-- Names that end with the dash of an arrow or begin with its point, and a step without a name. -/
theorem hashedPattern_eq_iff_operationNames_halves :
    (stepsOf [some "a-", some ">b", none]).ArrowFree ∧
      (stepsOf [some "a", some "-", some ">b", some ""]).ArrowFree ∧
      hashedPattern (stepsOf [some "a-", some ">b", none]) ≠
        hashedPattern (stepsOf [some "a", some "-", some ">b", some ""]) := by
  have hd : (stepsOf [some "a-", some ">b", none]).ArrowFree := by decide
  have he : (stepsOf [some "a", some "-", some ">b", some ""]).ArrowFree := by decide
  exact ⟨hd, he, mt (hashedPattern_eq_iff_operationNames hd he).1.1 (by decide)⟩

end Dna.Layer

end Lineage
