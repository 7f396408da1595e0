/-
Clones: atoms whose data-flow sketches have the same shape.

A clone may have other names, another file, other parameters and bindings by name, and its uses of
a parameter in another order.  None of this goes into the form of a DNA, which is made from the
shape alone (`sameForm_of_sameShape`).  So the DNAs of clones are alike but for their fingerprints
at most, and that is just enough for the standard threshold: every search for duplicates that does
not ask for more reports two clones of one list (`clones_reported`).
-/
import Lineage.Proofs.Dna.Cache
import Lineage.Proofs.Dna.Identity
import Lineage.Proofs.Number.Order

namespace Lineage

/-! ### What the shape of a sketch determines -/

/-- The step of an operation sequence that an output of the given kind makes. -/
def OutputKind.exitStep : OutputKind → Option String
  | sideEffect => some "emit"
  | returned => some "return"
  | thrown => none

namespace DataFlow.SameShape

variable {d e : DataFlow}

lemma symm (h : d.SameShape e) : e.SameShape d := by
  refine ⟨h.inputs.flip.imp fun q p hqp => ?_, h.transformations.flip.imp fun t s hts => ?_,
    h.outputs.flip.imp fun p o hpo => hpo.symm⟩
  · exact ⟨hqp.shape.symm, fun kind => (hqp.usages kind).symm⟩
  · exact ⟨hts.operation.symm, hts.arity.symm⟩

lemma operations_eq (h : d.SameShape e) :
    d.transformations.map Transformation.operation =
      e.transformations.map Transformation.operation := by
  rw [← List.forall₂_eq_eq_eq, List.forall₂_map_left_iff, List.forall₂_map_right_iff]
  exact h.transformations.imp fun s t hst => hst.operation

lemma kinds_eq (h : d.SameShape e) : d.outputs.map Output.kind = e.outputs.map Output.kind := by
  rw [← List.forall₂_eq_eq_eq, List.forall₂_map_left_iff, List.forall₂_map_right_iff]
  exact h.outputs

lemma has_eq (h : d.SameShape e) (kind : OutputKind) : d.has kind = e.has kind := by
  have hmap (d : DataFlow) : d.has kind = (d.outputs.map Output.kind).any (· = kind) := by
    rw [List.any_map]
    rfl
  rw [hmap, hmap, h.kinds_eq]

lemma performs_eq (h : d.SameShape e) (operations : List String) :
    FlowType.performs operations d = FlowType.performs operations e := by
  have hmap (d : DataFlow) : FlowType.performs operations d =
      (d.transformations.map Transformation.operation).any fun o => o.any operations.contains := by
    rw [List.any_map]
    rfl
  rw [hmap, hmap, h.operations_eq]

lemma classify_eq (h : d.SameShape e) : FlowType.classify d = FlowType.classify e := by
  unfold FlowType.classify DataFlow.hasReturn DataFlow.hasSideEffect
  rw [h.performs_eq, h.performs_eq, h.performs_eq, h.has_eq, h.has_eq, h.has_eq]

lemma operationSequence_eq (h : d.SameShape e) : d.operationSequence = e.operationSequence := by
  have hinputs : d.inputs.isEmpty = e.inputs.isEmpty := by
    rw [Bool.eq_iff_iff, List.isEmpty_iff_length_eq_zero, List.isEmpty_iff_length_eq_zero,
      h.inputs.length_eq]
  have hsequence (d : DataFlow) : d.operationSequence =
      (if d.inputs.isEmpty then [] else ["receive"]) ++ d.operationNames ++
        (d.outputs.map Output.kind).filterMap OutputKind.exitStep := by
    rw [List.filterMap_map]
    rfl
  rw [hsequence, hsequence, hinputs, h.operationNames_eq, h.kinds_eq]

lemma complexity_eq (h : d.SameShape e) : Dna.Score.complexity d = Dna.Score.complexity e := by
  unfold Dna.Score.complexity DataFlow.hasSideEffect
  rw [h.inputs.length_eq, h.transformations.length_eq, h.outputs.length_eq, h.has_eq]

end DataFlow.SameShape

namespace Dna

/-! ### The form of a DNA -/

/-- DNAs that agree on all that is made from the shape of a sketch. -/
structure SameForm (x y : Dna) : Prop where
  structuralHash : x.structuralHash = y.structuralHash
  patternHash : x.patternHash = y.patternHash
  flowType : x.flowType = y.flowType
  operationSequence : x.operationSequence = y.operationSequence
  complexityScore : x.complexityScore = y.complexityScore
  inputCount : x.inputCount = y.inputCount
  outputCount : x.outputCount = y.outputCount
  transformationCount : x.transformationCount = y.transformationCount

/-- The DNAs of clones have the same form. -/
lemma sameForm_of_sameShape {a b : Atom} {d e : DataFlow} (ha : a.dataFlow = some d)
    (hb : b.dataFlow = some e) (h : d.SameShape e) : SameForm (extract a) (extract b) where
  structuralHash := by
    rw [structuralHash_extract ha, structuralHash_extract hb, Layer.structuralRecord_eq_iff.2 h]
  patternHash := patternHash_eq_of_sameShape ha hb h
  flowType := by
    rw [extract_of_dataFlow ha, extract_of_dataFlow hb]
    exact h.classify_eq
  operationSequence := by
    rw [extract_of_dataFlow ha, extract_of_dataFlow hb]
    exact h.operationSequence_eq
  complexityScore := by
    rw [extract_of_dataFlow ha, extract_of_dataFlow hb]
    exact h.complexity_eq
  inputCount := by
    rw [extract_of_dataFlow ha, extract_of_dataFlow hb]
    exact congrArg Int.ofNat h.inputs.length_eq
  outputCount := by
    rw [extract_of_dataFlow ha, extract_of_dataFlow hb]
    exact congrArg Int.ofNat h.outputs.length_eq
  transformationCount := by
    rw [extract_of_dataFlow ha, extract_of_dataFlow hb]
    exact congrArg Int.ofNat h.transformations.length_eq

/-- DNAs of one form are fully similar, less a tenth where their fingerprints differ. -/
lemma SameForm.similarity_eq {x y : Dna} (h : SameForm x y) :
    x.similarity y =
      if x.semanticFingerprint = y.semanticFingerprint then ⟨100⟩ else ⟨90⟩ := by
  simp only [similarity, h.structuralHash, h.patternHash, h.operationSequence, if_true]
  split <;> rfl

end Dna

namespace Duplicate

open Dna (extract SameForm)

/-! ### Pairs that are found -/

/-- Two members of a list make a pair, the earlier one first. -/
lemma ofPair_mem_pairs {x y : String × Dna} {found : List (String × Dna)}
    (h : [x, y].Sublist found) : ofPair x y ∈ pairs found := by
  induction found with
  | nil => cases h
  | cons z found ih =>
      rw [pairs, List.mem_append]
      cases h with
      | cons _ h => exact Or.inr (ih h)
      | cons_cons _ h => exact Or.inl (List.mem_map.2 ⟨y, List.singleton_sublist.1 h, rfl⟩)

/-- Atoms with sketches that score high enough stay where they are among the eligible ones. -/
lemma pair_sublist_freshEligible {f : Filter} {a b : Atom} {atoms : List Atom}
    (h : [a, b].Sublist atoms) (ha : a.dataFlow.isSome) (hb : b.dataFlow.isSome)
    (hscore : f.minDuplicability ≤ (extract a).duplicabilityScore)
    (hscore' : f.minDuplicability ≤ (extract b).duplicabilityScore) :
    [(a.id, extract a), (b.id, extract b)].Sublist (DnaCache.freshEligible f atoms) := by
  have hkept := ((h.filter (·.dataFlow.isSome)).map fun a => (a.id, extract a)).filter
    fun found => f.minDuplicability ≤ found.2.duplicabilityScore
  simpa [DnaCache.freshEligible, ha, hb, hscore, hscore'] using hkept

/-- Eligible atoms that are similar enough are reported as a pair. -/
lemma ofPair_mem_find {cache : DnaCache} (hcache : cache.Sound) {f : Filter} {a b : Atom}
    {atoms : List Atom} (h : [a, b].Sublist atoms) (ha : a.dataFlow.isSome)
    (hb : b.dataFlow.isSome) (hscore : f.minDuplicability ≤ (extract a).duplicabilityScore)
    (hscore' : f.minDuplicability ≤ (extract b).duplicabilityScore)
    (hadmits : f.admits ((extract a).similarity (extract b)) = true) :
    ofPair (a.id, extract a) (b.id, extract b) ∈ (find f cache atoms).value.1 := by
  have hpair := ofPair_mem_pairs (pair_sublist_freshEligible h ha hb hscore hscore')
  rw [(hcache.find f atoms).1, ofEligible, List.mem_mergeSort, List.mem_filter]
  exact ⟨hpair, hadmits⟩

lemma pair_sublist_of_lt {α : Type} {xs : List α} {i j : Nat} {x y : α} (hx : xs[i]? = some x)
    (hy : xs[j]? = some y) (hij : i < j) : [x, y].Sublist xs := by
  obtain ⟨hi, rfl⟩ := List.getElem?_eq_some_iff.1 hx
  have hmem : y ∈ xs.drop (i + 1) := by
    refine List.mem_of_getElem? (?_ : (xs.drop (i + 1))[j - (i + 1)]? = some y)
    rw [List.getElem?_drop, ← hy]
    congr 1
    omega
  have hdrop : (xs[i] :: xs.drop (i + 1)).Sublist xs := by
    rw [List.getElem_cons_drop]
    exact List.drop_sublist i xs
  exact ((List.singleton_sublist.2 hmem).cons_cons _).trans hdrop

/-! ### Clones -/

/-- A threshold of at most nine tenths admits both similarities that clones can have. -/
lemma admits_of_sameForm {f : Filter} (hf : f.threshold.le Filter.standard.threshold = true)
    {x y : Dna} (h : SameForm x y) : f.admits (x.similarity y) = true := by
  have hninety : Filter.standard.threshold.le (Hundredths.mk 90).toNumber = true := by
    decide +kernel
  have hhundred : Filter.standard.threshold.le (Hundredths.mk 100).toNumber = true := by
    decide +kernel
  rw [Filter.admits, Bool.not_eq_true', h.similarity_eq]
  apply Number.lt_eq_false_of_le
  split
  · exact Number.le_trans hf hhundred
  · exact Number.le_trans hf hninety

/-- Of two clones in a list, the earlier and the later one are reported as a pair. -/
lemma clone_mem_find {a b : Atom} {d e : DataFlow} (ha : a.dataFlow = some d)
    (hb : b.dataFlow = some e) (hshape : d.SameShape e) {f : Filter} {cache : DnaCache}
    (hcache : cache.Sound) (hf : f.threshold.le Filter.standard.threshold = true)
    (hscore : f.minDuplicability ≤ (extract a).duplicabilityScore)
    (hscore' : f.minDuplicability ≤ (extract b).duplicabilityScore) {atoms : List Atom} {i j : Nat}
    (hi : atoms[i]? = some a) (hj : atoms[j]? = some b) (hij : i < j) :
    ofPair (a.id, extract a) (b.id, extract b) ∈ (find f cache atoms).value.1 :=
  ofPair_mem_find hcache (pair_sublist_of_lt hi hj hij) (Option.isSome_of_eq_some ha)
    (Option.isSome_of_eq_some hb) hscore hscore'
    (admits_of_sameForm hf (Dna.sameForm_of_sameShape ha hb hshape))

/-- **Clones are recognised.**  Atoms whose sketches have the same shape have DNAs of the same form,
which are fully similar or, where their fingerprints differ, by nine tenths.  So a search for
duplicates among atoms with both of them in different places, that asks for no more than nine tenths
and for no higher score than theirs, reports them as a pair, in their order; a cache, as long as it
is sound, makes no difference. -/
theorem clones_reported {a b : Atom} {d e : DataFlow} (ha : a.dataFlow = some d)
    (hb : b.dataFlow = some e) (hshape : d.SameShape e) :
    SameForm (extract a) (extract b) ∧
    (extract a).similarity (extract b) =
      (if (extract a).semanticFingerprint = (extract b).semanticFingerprint then ⟨100⟩ else ⟨90⟩) ∧
    ∀ (f : Filter) (cache : DnaCache) (atoms : List Atom) (i j : Nat), cache.Sound →
      f.threshold.le Filter.standard.threshold = true →
      f.minDuplicability ≤ (extract a).duplicabilityScore →
      f.minDuplicability ≤ (extract b).duplicabilityScore →
      atoms[i]? = some a → atoms[j]? = some b → i ≠ j →
        (if i < j then ofPair (a.id, extract a) (b.id, extract b)
          else ofPair (b.id, extract b) (a.id, extract a)) ∈ (find f cache atoms).value.1 := by
  have hform := Dna.sameForm_of_sameShape ha hb hshape
  refine ⟨hform, hform.similarity_eq, ?_⟩
  intro f cache atoms i j hcache hf hscore hscore' hi hj hij
  by_cases hlt : i < j
  · rw [if_pos hlt]
    exact clone_mem_find ha hb hshape hcache hf hscore hscore' hi hj hlt
  · rw [if_neg hlt]
    exact clone_mem_find hb ha hshape.symm hcache hf hscore' hscore hj hi (by omega)

/-- The sketch of a function that calls another one with its parameter and returns what it gets. -/
def forwarding (param result : String) (uses : List String) : DataFlow where
  inputs := [⟨param, .simple, 0, false, none, uses.map fun kind => ⟨kind, none⟩, none⟩]
  outputs := [.returned ⟨some result, none⟩]
  transformations := [⟨some result, [param], some "function_call", none, none⟩]

/-- A function with the given sketch. -/
def sketchAtom (name filePath : String) (dataFlow : DataFlow) : Atom :=
  { Atom.ofRequired (filePath ++ "::" ++ name) name filePath with dataFlow := some dataFlow }

def loadUser : Atom := sketchAtom "loadUser" "a.js" (forwarding "id" "user" ["read", "call"])

def fetchRow : Atom :=
  sketchAtom "fetchRow" "b.js" (forwarding "key" "row" ["call", "read", "call"])

/-- Two functions that share nothing but their shape are similar by nine tenths, and the standard
search reports them. -/
theorem clones_reported_renamed :
    (forwarding "id" "user" ["read", "call"]).SameShape
        (forwarding "key" "row" ["call", "read", "call"]) ∧
      (extract loadUser).similarity (extract fetchRow) = ⟨90⟩ ∧
      ofPair (loadUser.id, extract loadUser) (fetchRow.id, extract fetchRow) ∈
        (find .standard .empty [loadUser, fetchRow]).value.1 := by
  have hshape : (forwarding "id" "user" ["read", "call"]).SameShape
      (forwarding "key" "row" ["call", "read", "call"]) := by
    refine ⟨.cons ⟨rfl, fun kind => ?_⟩ .nil, .cons ⟨rfl, rfl⟩ .nil, .cons rfl .nil⟩
    simp only [List.map_cons, List.map_nil, List.mem_cons, List.not_mem_nil, or_false]
    tauto
  have hload : loadUser.dataFlow = some (forwarding "id" "user" ["read", "call"]) := rfl
  have hfetch : fetchRow.dataFlow = some (forwarding "key" "row" ["call", "read", "call"]) := rfl
  obtain ⟨-, hsimilarity, hreported⟩ := clones_reported hload hfetch hshape
  have hfingerprint : (extract loadUser).semanticFingerprint ≠
      (extract fetchRow).semanticFingerprint := by decide +kernel
  refine ⟨hshape, ?_, ?_⟩
  · exact hsimilarity.trans (if_neg hfingerprint)
  · exact hreported .standard .empty [loadUser, fetchRow] 0 1 DnaCache.sound_empty
      (by decide +kernel) (by decide +kernel) (by decide +kernel) rfl rfl (by decide)

end Duplicate

end Lineage
