/-
What the id of a DNA tells about its atom.

A DNA is hashed in layers: the shape of the data flow, the context of the atom on top of it, what
the atom is called on top of that, and all of them in the id.  Each layer's record holds the hash of
the layer below, and a record is told by its text.  So, as long as no two texts of one layer have
the same hash, equal hashes mean equal records from the top layer down to the shape, and the id
tells exactly what went into the layers (`id_eq_iff_sameIdentity`).
-/
import Lineage.Dna.Extract
import Lineage.Proofs.Atom.Faithful
import Lineage.Proofs.Dna.Shape
import Lineage.Proofs.Text.Hex

namespace Lineage.Dna

open Json (Faithful IsExact)
open Layer (hash hashLength structuralRecord contextualRecord semanticRecord)

/-! ### The records of the upper layers -/

/-- Atoms that are the same kind of function.  An atom without an archetype counts as one whose
archetype has neither a kind nor a severity. -/
structure SameContext (a b : Atom) : Prop where
  archetype : a.archetype.bind Archetype.kind = b.archetype.bind Archetype.kind
  severity : a.archetype.bind Archetype.severity = b.archetype.bind Archetype.severity
  purpose : a.purpose = b.purpose
  isTestCallback : a.isTestCallback = b.isTestCallback
  testCallbackType : a.testCallbackType = b.testCallbackType
  className : a.className = b.className
  isExported : a.isExported = b.isExported
  isAsync : a.isAsync = b.isAsync

/-- Atoms of one name and one size. -/
structure SameNaming (a b : Atom) : Prop where
  name : a.name = b.name
  complexity : a.complexity = b.complexity
  linesOfCode : a.linesOfCode = b.linesOfCode

lemma contextualRecord_eq_iff {a b : Atom} {h k : String} :
    contextualRecord a h = contextualRecord b k ↔ SameContext a b ∧ h = k := by
  rw [contextualRecord, contextualRecord, Json.obj.injEq]
  simp only [List.cons.injEq, Prod.mk.injEq, true_and, and_true, Json.str.injEq, Json.bool.injEq,
    Faithful.optStr.injective.eq_iff, Faithful.optSeverity.injective.eq_iff]
  constructor
  · rintro ⟨harchetype, hclass, hasync, hexported, htest, hpurpose, hseverity, hhash, htype⟩
    exact ⟨⟨harchetype, hseverity, hpurpose, htest, htype, hclass, hexported, hasync⟩, hhash⟩
  · rintro ⟨hcontext, hhash⟩
    exact ⟨hcontext.archetype, hcontext.className, hcontext.isAsync, hcontext.isExported,
      hcontext.isTestCallback, hcontext.purpose, hcontext.severity, hhash,
      hcontext.testCallbackType⟩

lemma semanticRecord_eq_iff {a b : Atom} {h k f g : String} :
    semanticRecord a h f = semanticRecord b k g ↔ SameNaming a b ∧ h = k ∧ f = g := by
  rw [semanticRecord, semanticRecord, Json.obj.injEq]
  simp only [List.cons.injEq, Prod.mk.injEq, true_and, and_true, Json.str.injEq,
    Faithful.int.injective.eq_iff]
  constructor
  · rintro ⟨hcomplexity, hhash, hlines, hname, hfingerprint⟩
    exact ⟨⟨hname, hcomplexity, hlines⟩, hhash, hfingerprint⟩
  · rintro ⟨hnaming, hhash, hfingerprint⟩
    exact ⟨hnaming.complexity, hhash, hnaming.linesOfCode, hnaming.name, hfingerprint⟩

lemma isExact_contextualRecord (a : Atom) (h : String) : IsExact (contextualRecord a h) :=
  ⟨Faithful.optStr.exact _, Faithful.optStr.exact _, trivial, trivial, trivial,
    Faithful.optStr.exact _, Faithful.optSeverity.exact _, trivial, Faithful.optStr.exact _,
    trivial⟩

lemma isExact_semanticRecord (a : Atom) (h f : String) : IsExact (semanticRecord a h f) :=
  ⟨Faithful.int.exact _, trivial, Faithful.int.exact _, trivial, trivial, trivial⟩

/-- The record whose hash is the id. -/
def idRecord (dna : Dna) : Json :=
  .list .str [dna.semanticHash, dna.patternHash, dna.semanticFingerprint]

lemma idRecord_eq_iff {x y : Dna} :
    idRecord x = idRecord y ↔ x.semanticHash = y.semanticHash ∧ x.patternHash = y.patternHash ∧
      x.semanticFingerprint = y.semanticFingerprint := by
  simp [idRecord, Json.list]

/-! ### Hashes without collisions -/

/-- The hash tells the texts of two records apart. -/
def Separates (r s : Json) : Prop :=
  hash hashLength r = hash hashLength s → r.compact = s.compact

lemma separates_of_ne {r s : Json} (h : hash hashLength r ≠ hash hashLength s) : Separates r s :=
  fun heq => absurd heq h

lemma Separates.hash_eq_iff {r s : Json} (h : Separates r s) (hr : IsExact r) (hs : IsExact s) :
    hash hashLength r = hash hashLength s ↔ r = s := by
  constructor
  · intro heq
    exact Json.eq_of_compact_eq hr hs (h heq)
  · rintro rfl
    rfl

/-- No layer of two atoms with the given sketches has two texts with one hash. -/
structure CollisionFree (a b : Atom) (d e : DataFlow) : Prop where
  structural : Separates (structuralRecord d) (structuralRecord e)
  contextual : Separates (contextualRecord a (extract a).structuralHash)
    (contextualRecord b (extract b).structuralHash)
  semantic :
    Separates (semanticRecord a (extract a).contextualHash (extract a).semanticFingerprint)
      (semanticRecord b (extract b).contextualHash (extract b).semanticFingerprint)
  id : Separates (idRecord (extract a)) (idRecord (extract b))

section Layers

variable {a b : Atom} {d e : DataFlow}

lemma extract_of_dataFlow (ha : a.dataFlow = some d) : extract a = ofDataFlow a d := by
  rw [extract, ha]

lemma structuralHash_extract (ha : a.dataFlow = some d) :
    (extract a).structuralHash = hash hashLength (structuralRecord d) := by
  rw [extract_of_dataFlow ha]
  rfl

lemma contextualHash_extract (ha : a.dataFlow = some d) :
    (extract a).contextualHash =
      hash hashLength (contextualRecord a (extract a).structuralHash) := by
  rw [extract_of_dataFlow ha]
  rfl

lemma semanticHash_extract (ha : a.dataFlow = some d) :
    (extract a).semanticHash =
      hash hashLength
        (semanticRecord a (extract a).contextualHash (extract a).semanticFingerprint) := by
  rw [extract_of_dataFlow ha]
  rfl

lemma id_extract (ha : a.dataFlow = some d) :
    (extract a).id = hash hashLength (idRecord (extract a)) := by
  rw [extract_of_dataFlow ha]
  rfl

lemma structuralHash_eq_iff (ha : a.dataFlow = some d) (hb : b.dataFlow = some e)
    (hfree : CollisionFree a b d e) :
    (extract a).structuralHash = (extract b).structuralHash ↔ d.SameShape e := by
  rw [structuralHash_extract ha, structuralHash_extract hb, ← Layer.structuralRecord_eq_iff]
  exact hfree.structural.hash_eq_iff (Layer.isExact_structuralRecord d)
    (Layer.isExact_structuralRecord e)

lemma contextualHash_eq_iff (ha : a.dataFlow = some d) (hb : b.dataFlow = some e)
    (hfree : CollisionFree a b d e) :
    (extract a).contextualHash = (extract b).contextualHash ↔
      SameContext a b ∧ (extract a).structuralHash = (extract b).structuralHash := by
  rw [contextualHash_extract ha, contextualHash_extract hb, ← contextualRecord_eq_iff]
  exact hfree.contextual.hash_eq_iff (isExact_contextualRecord _ _) (isExact_contextualRecord _ _)

lemma semanticHash_eq_iff (ha : a.dataFlow = some d) (hb : b.dataFlow = some e)
    (hfree : CollisionFree a b d e) :
    (extract a).semanticHash = (extract b).semanticHash ↔
      SameNaming a b ∧ (extract a).contextualHash = (extract b).contextualHash ∧
        (extract a).semanticFingerprint = (extract b).semanticFingerprint := by
  rw [semanticHash_extract ha, semanticHash_extract hb, ← semanticRecord_eq_iff]
  exact hfree.semantic.hash_eq_iff (isExact_semanticRecord _ _ _) (isExact_semanticRecord _ _ _)

lemma id_eq_iff (ha : a.dataFlow = some d) (hb : b.dataFlow = some e)
    (hfree : CollisionFree a b d e) :
    (extract a).id = (extract b).id ↔
      (extract a).semanticHash = (extract b).semanticHash ∧
        (extract a).patternHash = (extract b).patternHash ∧
        (extract a).semanticFingerprint = (extract b).semanticFingerprint := by
  rw [id_extract ha, id_extract hb, ← idRecord_eq_iff]
  exact hfree.id.hash_eq_iff (Faithful.str.list.exact _) (Faithful.str.list.exact _)

/-- The pattern hash is made from the shape alone, so it adds nothing to an id. -/
lemma patternHash_eq_of_sameShape (ha : a.dataFlow = some d) (hb : b.dataFlow = some e)
    (h : d.SameShape e) : (extract a).patternHash = (extract b).patternHash := by
  rw [extract_of_dataFlow ha, extract_of_dataFlow hb]
  simp only [ofDataFlow, Layer.pattern, Layer.patternText, h.operationNames_eq]

end Layers

/-! ### Identity -/

/-- Atoms with the given sketches that agree on everything that goes into an id. -/
structure SameIdentity (a b : Atom) (d e : DataFlow) : Prop where
  shape : d.SameShape e
  context : SameContext a b
  naming : SameNaming a b
  fingerprint : (extract a).semanticFingerprint = (extract b).semanticFingerprint

/-- **An id stands for a shape, a context, a name, a size and a fingerprint.**  A higher layer tells
the layers below it. -/
theorem id_eq_iff_sameIdentity {a b : Atom} {d e : DataFlow} (ha : a.dataFlow = some d)
    (hb : b.dataFlow = some e) (hfree : CollisionFree a b d e) :
    ((extract a).id = (extract b).id ↔ SameIdentity a b d e) ∧
      ((extract a).semanticHash = (extract b).semanticHash →
        (extract a).contextualHash = (extract b).contextualHash) ∧
      ((extract a).contextualHash = (extract b).contextualHash →
        (extract a).structuralHash = (extract b).structuralHash) := by
  have hstructural := structuralHash_eq_iff ha hb hfree
  have hcontextual := contextualHash_eq_iff ha hb hfree
  have hsemantic := semanticHash_eq_iff ha hb hfree
  refine ⟨?_, fun h => (hsemantic.1 h).2.1, fun h => (hcontextual.1 h).2⟩
  rw [id_eq_iff ha hb hfree, hsemantic, hcontextual, hstructural]
  constructor
  · rintro ⟨⟨hnaming, ⟨hcontext, hshape⟩, hfingerprint⟩, -, -⟩
    exact ⟨hshape, hcontext, hnaming, hfingerprint⟩
  · intro h
    exact ⟨⟨h.naming, ⟨h.context, h.shape⟩, h.fingerprint⟩,
      patternHash_eq_of_sameShape ha hb h.shape, h.fingerprint⟩

/-- A function with an empty sketch and the given severity. -/
def gradedAtom (severity : Severity) : Atom where
  id := "f"
  name := "f"
  filePath := ""
  line := 1
  isExported := false
  isAsync := false
  imports := []
  calls := []
  dataFlow := some ⟨[], [], []⟩
  archetype := some ⟨none, some severity⟩
  purpose := none
  complexity := 1
  linesOfCode := 0
  isTestCallback := false
  testCallbackType := none
  className := none
  semantic := none
  code := ""

/-- A severity of five is another than the word for it. -/
theorem id_eq_iff_sameIdentity_severity :
    CollisionFree (gradedAtom (.level 5)) (gradedAtom (.word "5")) ⟨[], [], []⟩ ⟨[], [], []⟩ ∧
      (extract (gradedAtom (.level 5))).id ≠ (extract (gradedAtom (.word "5"))).id := by
  -- each layer is evaluated from the text of the hash below it
  have hstructural : hash hashLength (structuralRecord ⟨[], [], []⟩) = "d36b0181b70a7031" := by
    rw [Layer.hash, Json.compact, Sha256.digest_ofList]
    decide +kernel
  have hlevel : (extract (gradedAtom (.level 5))).contextualHash = "9ad2055f89f5eb36" := by
    rw [contextualHash_extract rfl, structuralHash_extract rfl, hstructural, Layer.hash,
      Json.compact, Sha256.digest_ofList]
    decide +kernel
  have hword : (extract (gradedAtom (.word "5"))).contextualHash = "e351407c68620163" := by
    rw [contextualHash_extract rfl, structuralHash_extract rfl, hstructural, Layer.hash,
      Json.compact, Sha256.digest_ofList]
    decide +kernel
  have hlevel' : (extract (gradedAtom (.level 5))).semanticHash = "9dd51c929c68a7df" := by
    rw [semanticHash_extract rfl, hlevel, Layer.hash, Json.compact, Sha256.digest_ofList]
    decide +kernel
  have hword' : (extract (gradedAtom (.word "5"))).semanticHash = "370c35385aa76290" := by
    rw [semanticHash_extract rfl, hword, Layer.hash, Json.compact, Sha256.digest_ofList]
    decide +kernel
  have hlevelId : (extract (gradedAtom (.level 5))).id = "b050ff972328c146" := by
    rw [id_extract rfl, idRecord, hlevel', Layer.hash, Json.compact, Sha256.digest_ofList]
    decide +kernel
  have hwordId : (extract (gradedAtom (.word "5"))).id = "0976ec4b0a250136" := by
    rw [id_extract rfl, idRecord, hword', Layer.hash, Json.compact, Sha256.digest_ofList]
    decide +kernel
  have hfree : CollisionFree (gradedAtom (.level 5)) (gradedAtom (.word "5"))
      ⟨[], [], []⟩ ⟨[], [], []⟩ := by
    refine ⟨fun _ => rfl, separates_of_ne ?_, separates_of_ne ?_, separates_of_ne ?_⟩
    · rw [← contextualHash_extract rfl, ← contextualHash_extract rfl, hlevel, hword]
      decide
    · rw [← semanticHash_extract rfl, ← semanticHash_extract rfl, hlevel', hword']
      decide
    · rw [← id_extract rfl, ← id_extract rfl, hlevelId, hwordId]
      decide
  refine ⟨hfree, fun hid => ?_⟩
  have hsame := (id_eq_iff_sameIdentity rfl rfl hfree).1.1 hid
  exact absurd hsame.context.severity (by decide)

end Lineage.Dna
