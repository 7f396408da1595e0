/-
Uses of a returned value.

What becomes of a returned value is one of four things (`track_cases`).  The parts of each of them
agree with each other, and the lines that use the value are lines of the caller, in order, below the
call (`wellFormed_track`).
-/
import Lineage.Binding.ReturnUse
import Lineage.Proofs.Source.Mention

namespace Lineage.ReturnUse

open Source Text

/-- The line of the call in the code of the caller; the first line for a call from above it. -/
def callOffset (caller : Atom) (call : CallSite) : Int := max (call.line - caller.line) 0

/-- The lines of the caller below the call that mention the name, with their numbers in the file. -/
def usesBelow (caller : Atom) (call : CallSite) (name : String) : List (Int × String) :=
  (usagesAfter caller.code name (callOffset caller call)).map fun (i, text) =>
    (caller.line + i, text)

lemma mem_usesBelow_iff {caller : Atom} {call : CallSite} {name : String} {i : Nat}
    {text : String} :
    (caller.line + i, text) ∈ usesBelow caller call name ↔
      (i, text) ∈ usagesAfter caller.code name (callOffset caller call) := by
  rw [usesBelow, List.mem_map]
  constructor
  · rintro ⟨⟨j, text'⟩, hmem, heq⟩
    obtain ⟨hline, rfl⟩ := Prod.mk.inj heq
    rwa [← Int.ofNat_inj.1 (Int.add_left_cancel hline)]
  · exact fun hmem => ⟨(i, text), hmem, rfl⟩

lemma track_of_hasReturn {caller callee : Atom} {call : CallSite}
    (h : callee.dataFlow.any DataFlow.hasReturn = true) :
    track caller callee call =
      match resultBinding? caller.code callee.name (callOffset caller call) with
      | some name => assigned name (usesBelow caller call name)
      | Option.none =>
          if occursIn callee.name.toList caller.code.toList then direct
          else none .notReferenced := by
  rw [track, if_pos h]
  rfl

/-- The four things that may become of a returned value. -/
lemma track_cases (caller callee : Atom) (call : CallSite) :
    (callee.dataFlow.any DataFlow.hasReturn = false ∧ track caller callee call = none .noReturn) ∨
    (callee.dataFlow.any DataFlow.hasReturn = true ∧
      ∃ name, resultBinding? caller.code callee.name (callOffset caller call) = some name ∧
        track caller callee call = assigned name (usesBelow caller call name)) ∨
    (resultBinding? caller.code callee.name (callOffset caller call) = Option.none ∧
      (track caller callee call = direct ∨ track caller callee call = none .notReferenced)) := by
  by_cases hreturn : callee.dataFlow.any DataFlow.hasReturn = true
  · right
    rw [track_of_hasReturn hreturn]
    cases resultBinding? caller.code callee.name (callOffset caller call) with
    | some name => exact Or.inl ⟨hreturn, name, rfl, rfl⟩
    | none =>
        refine Or.inr ⟨rfl, ?_⟩
        by_cases hoccurs : occursIn callee.name.toList caller.code.toList = true
        · exact Or.inl (if_pos hoccurs)
        · exact Or.inr (if_neg hoccurs)
  · left
    rw [track, if_neg hreturn]
    exact ⟨by simpa using hreturn, rfl⟩

/-! ### Well-formed uses -/

lemma pairwise_usesBelow (caller : Atom) (call : CallSite) (name : String) :
    (usesBelow caller call name).Pairwise fun x y => x.1 < y.1 := by
  rw [usesBelow, List.pairwise_map]
  exact (pairwise_usagesAfter _ _ _).imp fun h => Int.add_lt_add_left (Int.ofNat_lt.2 h) _

/-- A use is below the call and the beginning of the caller, and above its end. -/
lemma line_of_mem_usesBelow {caller : Atom} {call : CallSite} {name : String} {use : Int × String}
    (h : use ∈ usesBelow caller call name) :
    max call.line caller.line < use.1 ∧
      use.1 < caller.line + (lines caller.code.toList).length := by
  obtain ⟨⟨i, text⟩, hmem, rfl⟩ := List.mem_map.1 h
  obtain ⟨hlast, line, hline, -⟩ := mem_usagesAfter_iff.1 hmem
  have hlength : i < (lines caller.code.toList).length := (List.getElem?_eq_some_iff.1 hline).1
  rw [callOffset] at hlast
  constructor
  · change max call.line caller.line < caller.line + (i : Int)
    omega
  · change caller.line + (i : Int) < caller.line + _
    omega

/-- The parts of a use of the returned value agree with each other, and its lines are lines of the
caller, in order, below the call and the beginning of the caller. -/
structure WellFormed (caller : Atom) (call : CallSite) (use : ReturnUse) : Prop where
  increasing : use.usages.Pairwise fun x y => x.1 < y.1
  inside : ∀ usage ∈ use.usages, max call.line caller.line < usage.1 ∧
    usage.1 < caller.line + (lines caller.code.toList).length
  assigned_of_usages : use.usages ≠ [] → use.usageType? = some "assigned"
  assignedTo_iff : use.assignedTo?.isSome = true ↔ use.usageType? = some "assigned"
  reason_iff : use.reason? = Option.none ↔ use.isUsed = true
  usages_of_unused : use.isUsed = false → use.usages = []

lemma wellFormed_assigned (caller : Atom) (call : CallSite) (name : String) :
    (assigned name (usesBelow caller call name)).WellFormed caller call where
  increasing := pairwise_usesBelow caller call name
  inside := fun _ hmem => line_of_mem_usesBelow hmem
  assigned_of_usages := fun _ => rfl
  assignedTo_iff := iff_of_true rfl rfl
  reason_iff := by simp [reason?, isUsed]
  usages_of_unused := by simp [isUsed, usages]

lemma wellFormed_direct (caller : Atom) (call : CallSite) : direct.WellFormed caller call := by
  constructor <;> simp [usages, usageType?, assignedTo?, reason?, isUsed]

lemma wellFormed_none (caller : Atom) (call : CallSite) (reason : Unused) :
    (none reason).WellFormed caller call := by
  constructor <;> simp [usages, usageType?, assignedTo?, reason?, isUsed]

lemma wellFormed_track (caller callee : Atom) (call : CallSite) :
    (track caller callee call).WellFormed caller call := by
  rcases track_cases caller callee call with ⟨-, h⟩ | ⟨-, name, -, h⟩ | ⟨-, h | h⟩
  · exact h ▸ wellFormed_none caller call .noReturn
  · exact h ▸ wellFormed_assigned caller call name
  · exact h ▸ wellFormed_direct caller call
  · exact h ▸ wellFormed_none caller call .notReferenced

end Lineage.ReturnUse
