/-
A snapshot tells everything that the DNA of its atom is made from.

The text of an atom's record may lose something, since a number that is not finite is settled to
null. Such numbers stand only in the arguments of calls.  Every field that a DNA is made from is
written faithfully, so two atoms with one snapshot have one DNA.
-/
import Lineage.Dna.Cache
import Lineage.Proofs.Atom.Faithful

namespace Lineage

open Json

namespace DnaCache

/-! ### Settling -/

mutual

/-- A value with whole numbers is settled already. -/
lemma settle_of_isExact {v : Json} (h : IsExact v) : settle v = v := by
  cases v with
  | null => rfl
  | bool b => rfl
  | num n =>
      obtain ⟨i, rfl⟩ := h
      rfl
  | str s => rfl
  | arr items => rw [settle, settleItems_of_exactItems h]
  | obj fields => rw [settle, settleFields_of_exactFields h]

lemma settleItems_of_exactItems {items : List Json} (h : ExactItems items) :
    settleItems items = items := by
  cases items with
  | nil => rfl
  | cons item items =>
      rw [settleItems, settle_of_isExact h.1, settleItems_of_exactItems h.2]

lemma settleFields_of_exactFields {fields : List (String × Json)} (h : ExactFields fields) :
    settleFields fields = fields := by
  match fields with
  | [] => rfl
  | (key, item) :: fields =>
      rw [settleFields, settle_of_isExact h.1, settleFields_of_exactFields h.2]

end

lemma alikeFields_settle_cons {key : String} {x y : Json} {xs ys : List (String × Json)}
    (h : AlikeFields (settleFields ((key, x) :: xs)) (settleFields ((key, y) :: ys))) :
    Alike (settle x) (settle y) ∧ AlikeFields (settleFields xs) (settleFields ys) := by
  obtain ⟨y', ys', heq, hhead, hrest⟩ := h
  obtain ⟨hfield, rfl⟩ := List.cons.inj heq
  obtain rfl := (Prod.mk.inj hfield).2
  exact ⟨hhead, hrest⟩

/-- What is written faithfully survives the settling and the printing. -/
lemma eq_of_alike_settle {α : Type} {write : α → Json} (hwrite : Faithful write) {a b : α}
    (h : Alike (settle (write a)) (settle (write b))) : a = b := by
  rw [settle_of_isExact (hwrite.exact a), settle_of_isExact (hwrite.exact b)] at h
  exact hwrite.injective (eq_of_alike (hwrite.exact a) (hwrite.exact b) h)

end DnaCache

/-! ### What a DNA is made from -/

/-- Two atoms agree on everything that a DNA is made from. -/
structure Atom.SameMakeup (a b : Atom) : Prop where
  name : a.name = b.name
  isExported : a.isExported = b.isExported
  isAsync : a.isAsync = b.isAsync
  dataFlow : a.dataFlow = b.dataFlow
  archetype : a.archetype = b.archetype
  purpose : a.purpose = b.purpose
  complexity : a.complexity = b.complexity
  linesOfCode : a.linesOfCode = b.linesOfCode
  isTestCallback : a.isTestCallback = b.isTestCallback
  testCallbackType : a.testCallbackType = b.testCallbackType
  className : a.className = b.className
  semantic : a.semantic = b.semantic

namespace DnaCache

/-- Atoms with one snapshot have the same makeup; the arguments of their calls may differ. -/
lemma sameMakeup_of_snapshot_eq {a b : Atom} (h : snapshot a = snapshot b) : a.SameMakeup b := by
  obtain ⟨fields, heq, hid⟩ : Alike (settle a.toJson) (settle b.toJson) := alike_of_compact_eq h
  obtain rfl := Json.obj.inj heq
  -- one step for each field of the record, in the order in which they are written
  obtain ⟨-, hname⟩ := alikeFields_settle_cons hid
  obtain ⟨name, hpath⟩ := alikeFields_settle_cons hname
  obtain ⟨-, hline⟩ := alikeFields_settle_cons hpath
  obtain ⟨-, hexported⟩ := alikeFields_settle_cons hline
  obtain ⟨isExported, hasync⟩ := alikeFields_settle_cons hexported
  obtain ⟨isAsync, himports⟩ := alikeFields_settle_cons hasync
  obtain ⟨-, hcalls⟩ := alikeFields_settle_cons himports
  obtain ⟨-, hflow⟩ := alikeFields_settle_cons hcalls
  obtain ⟨dataFlow, harchetype⟩ := alikeFields_settle_cons hflow
  obtain ⟨archetype, hpurpose⟩ := alikeFields_settle_cons harchetype
  obtain ⟨purpose, hcomplexity⟩ := alikeFields_settle_cons hpurpose
  obtain ⟨complexity, hlines⟩ := alikeFields_settle_cons hcomplexity
  obtain ⟨linesOfCode, htest⟩ := alikeFields_settle_cons hlines
  obtain ⟨isTestCallback, htype⟩ := alikeFields_settle_cons htest
  obtain ⟨testCallbackType, hclass⟩ := alikeFields_settle_cons htype
  obtain ⟨className, hsemantic⟩ := alikeFields_settle_cons hclass
  obtain ⟨semantic, -⟩ := alikeFields_settle_cons hsemantic
  exact
    { name := eq_of_alike_settle .str name
      isExported := eq_of_alike_settle .bool isExported
      isAsync := eq_of_alike_settle .bool isAsync
      dataFlow := eq_of_alike_settle .optDataFlow dataFlow
      archetype := eq_of_alike_settle .optArchetype archetype
      purpose := eq_of_alike_settle .optStr purpose
      complexity := eq_of_alike_settle .int complexity
      linesOfCode := eq_of_alike_settle .int linesOfCode
      isTestCallback := eq_of_alike_settle .bool isTestCallback
      testCallbackType := eq_of_alike_settle .optStr testCallbackType
      className := eq_of_alike_settle .optStr className
      semantic := eq_of_alike_settle .optMeaning semantic }

end DnaCache

/-- A DNA is made from the makeup of its atom and nothing else. -/
lemma Atom.SameMakeup.extract_eq {a b : Atom} (h : a.SameMakeup b) :
    Dna.extract a = Dna.extract b := by
  have hfingerprint (flow : FlowType) : Dna.fingerprint a flow = Dna.fingerprint b flow := by
    simp only [Dna.fingerprint, Dna.inferredFingerprint, h.semantic, h.name, h.purpose]
  have hcontextual (hash : String) : Dna.Layer.contextual a hash = Dna.Layer.contextual b hash := by
    simp only [Dna.Layer.contextual, Dna.Layer.contextualRecord, h.archetype, h.className,
      h.isAsync, h.isExported, h.isTestCallback, h.purpose, h.testCallbackType]
  have hsemantic (hash fingerprint : String) :
      Dna.Layer.semantic a hash fingerprint = Dna.Layer.semantic b hash fingerprint := by
    simp only [Dna.Layer.semantic, Dna.Layer.semanticRecord, h.complexity, h.linesOfCode, h.name]
  have hscore (d : DataFlow) : Dna.Score.duplicability a d = Dna.Score.duplicability b d := by
    simp only [Dna.Score.duplicability, h.purpose, h.testCallbackType, h.isTestCallback,
      h.className, h.complexity, h.linesOfCode, h.name, h.isExported]
  simp only [Dna.extract, Dna.ofDataFlow, h.dataFlow, hfingerprint, hcontextual, hsemantic, hscore]

/-- **A snapshot tells the DNA of its atom.** -/
lemma DnaCache.extract_eq_of_snapshot_eq {a b : Atom} (h : snapshot a = snapshot b) :
    Dna.extract a = Dna.extract b :=
  (sameMakeup_of_snapshot_eq h).extract_eq

end Lineage
