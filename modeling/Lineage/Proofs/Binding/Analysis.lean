/-
The analysis of a call.

A call whose arguments can all be read is analyzed.  There is one binding for each argument that has
a parameter (`length_bindings_of_bind`), at most one link for each binding, and nothing goes on
exactly if every value is passed under its own name and the result is not used
(`complexity_eq_zero_iff`).  The main statement is `analyze_wellFormed`.
-/
import Lineage.Binding.Analysis
import Lineage.Proofs.Binding.Positional
import Lineage.Proofs.Binding.ReturnUse
import Lineage.Proofs.Schema.RoundTrip

namespace Lineage

lemma Transform.isDirect_iff {t : Transform} : t.isDirect = true ↔ t.kind = "DIRECT_PASS" := by
  cases t <;> simp [isDirect, kind]

namespace CallAnalysis

/-- Nothing goes on if each value is passed under its own name and the result is not used; a result
that is not used has no lines that use it. -/
lemma complexity_eq_zero_iff {a : CallAnalysis}
    (husages : a.returnUse.isUsed = false → a.returnUse.usages = []) :
    a.complexity = 0 ↔
      (∀ b ∈ a.binding.bindings, b.transform.kind = "DIRECT_PASS") ∧
        a.returnUse.isUsed = false := by
  have hchanging : a.changing.length = 0 ↔
      ∀ b ∈ a.binding.bindings, b.transform.kind = "DIRECT_PASS" := by
    simp [changing, ← Transform.isDirect_iff]
  rw [complexity, Nat.add_eq_zero_iff, Nat.add_eq_zero_iff, hchanging]
  cases hused : a.returnUse.isUsed with
  | true => simp
  | false => simp [husages hused]

/-- **Analyses are well formed.**  A call whose arguments can all be read is analyzed.  The use of
its result is well formed, there are at most as many links as there are arguments and as there are
parameters, and the complexity is zero exactly if each value is passed under its own name and the
result is not used. -/
theorem analyze_wellFormed (caller callee : Atom) (call : CallSite)
    (hread : ∀ v ∈ call.arguments, ∃ a, Argument.ofJson v = .valid a) :
    ∃ analysis, analyze caller callee call = .ok analysis ∧
      analysis.returnUse.WellFormed caller call ∧
      analysis.chains.length ≤ min call.arguments.length callee.parameters.length ∧
      (analysis.complexity = 0 ↔
        (∀ b ∈ analysis.binding.bindings, b.transform.kind = "DIRECT_PASS") ∧
          analysis.returnUse.isUsed = false) := by
  have hrefused : ∀ v ∈ call.arguments, ¬Argument.Refused v := fun v hv =>
    Argument.not_refused_iff.2 (hread v hv)
  obtain ⟨binding, hbind⟩ := (CallBinding.exists_bind_iff caller callee call).2 hrefused
  have huse := ReturnUse.wellFormed_track caller callee call
  refine ⟨⟨binding, ReturnUse.track caller callee call,
    chainsOf caller callee binding.bindings⟩, ?_, huse, ?_, ?_⟩
  · rw [analyze, hbind]
    rfl
  · rw [← CallBinding.length_bindings_of_bind hbind]
    exact List.length_filterMap_le _ binding.bindings
  · exact complexity_eq_zero_iff huse.usages_of_unused

/-- A caller that makes a record, passes it on, and uses what it gets back. -/
def packer : Atom :=
  { Atom.ofRequired "app.js::run" "run" "app.js" with
    line := 4
    dataFlow := some ⟨[], [], [⟨some "packet", ["user"], some "object_literal", none, none⟩]⟩
    code := "const id = save(packet);\nlog(id);" }

/-- A function with one parameter that returns something. -/
def store : Atom :=
  { Atom.ofRequired "lib.js::save" "save" "lib.js" with
    dataFlow := some ⟨[⟨"data", .simple, 0, false, none, [], none⟩], [.returned ⟨none, none⟩], []⟩ }

/-- The call of the one by the other. -/
def packing : CallSite :=
  ⟨"save", 4, some [.obj [("type", .str "Identifier"), ("name", .str "packet")]]⟩

/-- One value that changes its name, a result that is used, and one line that uses it. -/
theorem analyze_wellFormed_packer :
    (∀ v ∈ packing.arguments, ∃ a, Argument.ofJson v = .valid a) ∧
      ∃ analysis, analyze packer store packing = .ok analysis ∧
        analysis.returnUse.WellFormed packer packing ∧
        analysis.returnUse.usages = [(5, "log(id);")] ∧
        analysis.chains.length ≤ min packing.arguments.length store.parameters.length ∧
        analysis.complexity = 3 := by
  have hread : ∀ v ∈ packing.arguments, ∃ a, Argument.ofJson v = .valid a := by
    intro v hv
    rw [List.mem_singleton.1 hv]
    exact ⟨_, rfl⟩
  have hvalue : (analyze packer store packing).toOption.map
      (fun a => (a.returnUse.usages, a.complexity)) = some ([(5, "log(id);")], 3) := by
    decide +kernel
  obtain ⟨analysis, hanalyze, huse, hchains, -⟩ := analyze_wellFormed packer store packing hread
  rw [hanalyze] at hvalue
  obtain ⟨husages, hcomplexity⟩ := Prod.mk.inj (Option.some.inj hvalue)
  exact ⟨hread, analysis, hanalyze, huse, husages, hchains, hcomplexity⟩

end CallAnalysis

end Lineage
