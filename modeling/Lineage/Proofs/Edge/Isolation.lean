/-
Arguments that cannot be read.

A call whose arguments cannot be read still has its edge.  The fault stays in the binding of that
edge, which is then blank: neither the choice of the callee nor the confidence looks at what the
arguments are, and no edge looks at the calls of any atom but its caller.  The main statement is
`faults_stay_in_binding`.
-/
import Lineage.Proofs.Binding.Reading
import Lineage.Proofs.Edge.Resolution

namespace Lineage

/-- The atom without its calls. -/
def Atom.withoutCalls (a : Atom) : Atom := { a with calls := [] }

/-- The call with the given arguments in place of its own. -/
def CallSite.withArgs (args : List Json) (call : CallSite) : CallSite :=
  { call with args := some args }

/-- The atom with the given arguments in place of those of its call number `j`. -/
def Atom.withArgs (j : Nat) (args : List Json) (a : Atom) : Atom :=
  { a with calls := a.calls.modify j (CallSite.withArgs args) }

/-- Nothing is bound, and nothing is said about either side of the call. -/
structure CallBinding.IsBlank (b : CallBinding) : Prop where
  bindings : b.bindings = []
  totalArgs : b.totalArgs = 0
  totalParams : b.totalParams = 0
  hasSpread : b.hasSpread = false
  hasDestructuring : b.hasDestructuring = false

namespace Edge

variable {atoms : List Atom} {caller callee : Atom} {call : CallSite}

/-! ### The binding of an edge -/

/-- The binding of an edge is failed exactly if some argument of the call is refused. -/
lemma failed_bindingOf_iff :
    (bindingOf caller callee call).value.failed = true ↔
      ∃ v ∈ call.arguments, Argument.Refused v := by
  rw [← CallBinding.exists_error_iff caller callee call]
  unfold bindingOf
  cases hbind : CallBinding.bind caller callee call with
  | ok b =>
      simp only [Noted.value_plain, CallBinding.failed_of_bind hbind, Bool.false_eq_true, false_iff]
      rintro ⟨_, herror⟩
      cases herror
  | error fault => exact iff_of_true rfl ⟨fault, rfl⟩

lemma bindingOf_of_failed (h : (bindingOf caller callee call).value.failed = true) :
    (bindingOf caller callee call).value = CallBinding.failure caller callee call := by
  unfold bindingOf at h ⊢
  cases hbind : CallBinding.bind caller callee call with
  | ok b =>
      rw [hbind] at h
      exact absurd h (by simp [CallBinding.failed_of_bind hbind])
  | error fault => rfl

/-! ### What an edge does not depend on -/

/-- Where the scans end does not depend on what the atoms call. -/
lemma scan?_withoutCalls (atoms : List Atom) (caller : Atom) (call : CallSite) :
    scan? (atoms.map Atom.withoutCalls) caller.withoutCalls call =
      (scan? atoms caller call).map Atom.withoutCalls := by
  have honly (as : List Atom) :
      only? (as.map Atom.withoutCalls) = (only? as).map Atom.withoutCalls := by
    rcases as with _ | ⟨a, _ | ⟨b, more⟩⟩ <;> rfl
  rw [scan?, scan?, List.find?_map, List.filter_map, List.find?_map, honly, Option.map_or,
    Option.map_or]
  rfl

/-- No edge depends on the calls of other atoms, nor on the other calls of its caller. -/
lemma ofCall?_withoutCalls (atoms : List Atom) (caller : Atom) (call : CallSite) :
    ofCall? (atoms.map Atom.withoutCalls) caller.withoutCalls call =
      ofCall? atoms caller call := by
  rw [ofCall?_eq_scan, ofCall?_eq_scan, scan?_withoutCalls, Option.map_map]
  rfl

lemma ofCall?_congr {atoms' : List Atom} {caller' : Atom}
    (hatoms : atoms'.map Atom.withoutCalls = atoms.map Atom.withoutCalls)
    (hcaller : caller'.withoutCalls = caller.withoutCalls) (call : CallSite) :
    ofCall? atoms' caller' call = ofCall? atoms caller call := by
  rw [← ofCall?_withoutCalls atoms', ← ofCall?_withoutCalls atoms, hatoms, hcaller]

/-- Edges that differ in their bindings at most. -/
def SameButBinding (e e' : Edge) : Prop :=
  e' = { e with binding := e'.binding }

/-- The confidence asks whether there are arguments, not what they are. -/
lemma confidenceOf_withArgs (hcall : call.arguments ≠ []) {args : List Json} (hargs : args ≠ []) :
    confidenceOf caller callee (call.withArgs args) = confidenceOf caller callee call := by
  have hempty : call.arguments.isEmpty = false := List.isEmpty_eq_false_iff.2 hcall
  have hempty' : (call.withArgs args).arguments.isEmpty = false := List.isEmpty_eq_false_iff.2 hargs
  rw [confidenceOf, confidenceOf, hempty, hempty']

/-- With other arguments, a call that has arguments keeps its edge but for the binding. -/
lemma ofCall?_withArgs (hcall : call.arguments ≠ []) {args : List Json} (hargs : args ≠ []) :
    Option.Rel SameButBinding (ofCall? atoms caller call)
      (ofCall? atoms caller (call.withArgs args)) := by
  have hscan : scan? atoms caller (call.withArgs args) = scan? atoms caller call := rfl
  rw [ofCall?_eq_scan, ofCall?_eq_scan, hscan]
  cases scan? atoms caller call with
  | none => exact .none
  | some callee =>
      refine .some ?_
      simp only [build, SameButBinding, Noted.value_bind, Noted.value_pure,
        confidenceOf_withArgs hcall hargs]
      rfl

/-! ### Faults and their edges -/

/-- What an argument that cannot be read does to the edge of its call.  The binding is failed, and
blank; and everything else is as with arguments that can be read. -/
structure Contained (atoms : List Atom) (caller : Atom) (call : CallSite) (e : Edge) : Prop where
  failed_iff : e.binding.failed = true ↔ ∃ v ∈ call.arguments, Argument.Refused v
  blank : e.binding.failed = true → e.binding.IsBlank
  readable : e.binding.failed = true → ∀ args : List Json, args ≠ [] →
    (∀ v ∈ args, ¬Argument.Refused v) →
      ∃ e', ofCall? atoms caller (call.withArgs args) = some e' ∧ e'.binding.failed = false ∧
        SameButBinding e e'

/-- The binding of an edge is that of its call to some callee. -/
lemma exists_bindingOf {e : Edge} (h : ofCall? atoms caller call = some e) :
    ∃ callee, e.binding = (bindingOf caller callee call).value := by
  rw [ofCall?_eq_scan, Option.map_eq_some_iff] at h
  obtain ⟨callee, -, rfl⟩ := h
  exact ⟨callee, rfl⟩

lemma contained_of_ofCall? {e : Edge} (h : ofCall? atoms caller call = some e) :
    Contained atoms caller call e := by
  obtain ⟨callee, hbinding⟩ := exists_bindingOf h
  refine ⟨by rw [hbinding, failed_bindingOf_iff], fun hfailed => ?_, ?_⟩
  · rw [hbinding] at hfailed ⊢
    rw [bindingOf_of_failed hfailed]
    exact ⟨rfl, rfl, rfl, rfl, rfl⟩
  · intro hfailed args hargs hall
    rw [hbinding, failed_bindingOf_iff] at hfailed
    obtain ⟨v, hv, -⟩ := hfailed
    have hrel : Option.Rel SameButBinding (ofCall? atoms caller call)
        (ofCall? atoms caller (call.withArgs args)) :=
      ofCall?_withArgs (List.ne_nil_of_mem hv) hargs
    rw [h] at hrel
    cases hedge : ofCall? atoms caller (call.withArgs args) with
    | none =>
        rw [hedge] at hrel
        cases hrel
    | some e' =>
        rw [hedge] at hrel
        obtain ⟨callee', hbinding'⟩ := exists_bindingOf hedge
        cases hrel with
        | some hsame =>
            refine ⟨e', rfl, ?_, hsame⟩
            rw [hbinding', ← Bool.not_eq_true, failed_bindingOf_iff]
            rintro ⟨w, hw, hrefused⟩
            exact hall w hw hrefused

/-! ### Other arguments in one call -/

/-- The atoms with the given arguments in place of those of call number `j` of atom number `i`. -/
def replaceArgs (i j : Nat) (args : List Json) (atoms : List Atom) : List Atom :=
  atoms.modify i (Atom.withArgs j args)

/-- The edges around the edge of one call. -/
lemma value_all_split {front back : List Atom} {earlier later : List CallSite}
    (hatoms : atoms = front ++ caller :: back) (hcalls : caller.calls = earlier ++ call :: later) :
    (all atoms).value =
      (front.flatMap (fun a => a.calls.filterMap (ofCall? atoms a)) ++
          earlier.filterMap (ofCall? atoms caller)) ++
        (ofCall? atoms caller call).toList ++
        (later.filterMap (ofCall? atoms caller) ++
          back.flatMap (fun a => a.calls.filterMap (ofCall? atoms a))) := by
  have hown : (call :: later).filterMap (ofCall? atoms caller) =
      (ofCall? atoms caller call).toList ++ later.filterMap (ofCall? atoms caller) := by
    rw [List.filterMap_cons]
    cases ofCall? atoms caller call <;> rfl
  rw [value_all]
  nth_rewrite 2 [hatoms]
  rw [List.flatMap_append, List.flatMap_cons, hcalls, List.filterMap_append, hown]
  simp only [List.append_assoc]

/-- A position splits a list, and changing the member there changes nothing else. -/
lemma exists_split_modify {α : Type} {xs : List α} {i : Nat} {x : α} (h : xs[i]? = some x)
    (f : α → α) : ∃ front back, xs = front ++ x :: back ∧ xs.modify i f = front ++ f x :: back := by
  obtain ⟨hi, hx⟩ := List.getElem?_eq_some_iff.1 h
  refine ⟨xs.take i, xs.drop (i + 1), ?_, ?_⟩
  · rw [← hx, List.getElem_cons_drop, List.take_append_drop]
  · rw [List.modify_eq_take_cons_drop hi, hx]

/-- Other arguments in one call change the binding of its own edge at most. -/
lemma value_all_replaceArgs {i j : Nat} {args : List Json} (hcaller : atoms[i]? = some caller)
    (hcall : caller.calls[j]? = some call) (hhas : call.arguments ≠ []) (hargs : args ≠ []) :
    ∃ before after,
      (all atoms).value = before ++ (ofCall? atoms caller call).toList ++ after ∧
      (all (replaceArgs i j args atoms)).value =
        before ++ (ofCall? (replaceArgs i j args atoms) (caller.withArgs j args)
          (call.withArgs args)).toList ++ after ∧
      Option.Rel SameButBinding (ofCall? atoms caller call)
        (ofCall? (replaceArgs i j args atoms) (caller.withArgs j args) (call.withArgs args)) := by
  obtain ⟨front, back, hatoms, hmodify⟩ := exists_split_modify hcaller (Atom.withArgs j args)
  obtain ⟨earlier, later, hcalls, hcalls'⟩ := exists_split_modify hcall (CallSite.withArgs args)
  have hatoms' : replaceArgs i j args atoms = front ++ caller.withArgs j args :: back := hmodify
  -- up to their calls, the caller and the atoms are what they were
  have hsame : (caller.withArgs j args).withoutCalls = caller.withoutCalls := rfl
  have hsames :
      (replaceArgs i j args atoms).map Atom.withoutCalls = atoms.map Atom.withoutCalls := by
    rw [hatoms', hatoms, List.map_append, List.map_append, List.map_cons, List.map_cons, hsame]
  have hother (a : Atom) : ofCall? (replaceArgs i j args atoms) a = ofCall? atoms a :=
    funext fun c => ofCall?_congr hsames rfl c
  have hown :
      ofCall? (replaceArgs i j args atoms) (caller.withArgs j args) = ofCall? atoms caller :=
    funext fun c => ofCall?_congr hsames hsame c
  refine ⟨_, _, value_all_split hatoms hcalls, ?_, ?_⟩
  · rw [value_all_split hatoms' hcalls', hown]
    simp only [hother]
  · rw [hown]
    exact ofCall?_withArgs hhas hargs

/-- **A fault in the arguments of a call stays in the binding of its edge.**  Every call that means
some atom has its edge, whatever its arguments are.  Whether these can be read decides whether the
binding of the edge is failed, and a failed binding is blank; other arguments in one call change no
edge but its own, and that one only in its binding. -/
theorem faults_stay_in_binding (atoms : List Atom) :
    ((all atoms).value =
      atoms.flatMap fun caller => caller.calls.filterMap (ofCall? atoms caller)) ∧
    (∀ caller call, (ofCall? atoms caller call).isSome ↔ ∃ a ∈ atoms, Meant caller call a) ∧
    (∀ caller call e, ofCall? atoms caller call = some e → Contained atoms caller call e) ∧
    (∀ i j caller call args, atoms[i]? = some caller → caller.calls[j]? = some call →
      call.arguments ≠ [] → args ≠ [] →
        ∃ before after,
          (all atoms).value = before ++ (ofCall? atoms caller call).toList ++ after ∧
          (all (replaceArgs i j args atoms)).value =
            before ++ (ofCall? (replaceArgs i j args atoms) (caller.withArgs j args)
              (call.withArgs args)).toList ++ after ∧
          Option.Rel SameButBinding (ofCall? atoms caller call)
            (ofCall? (replaceArgs i j args atoms) (caller.withArgs j args) (call.withArgs args))) :=
  ⟨value_all atoms, fun _ _ => isSome_ofCall?_iff, fun _ _ _ h => contained_of_ofCall? h,
    fun _ _ _ _ _ hcaller hcall hhas hargs => value_all_replaceArgs hcaller hcall hhas hargs⟩

/-- A caller whose first call passes a bare text and whose second call passes a variable. -/
def careless : Atom :=
  { fileAtom "careless" "a.js" false with
    calls := [⟨"f", 1, some [.str "x"]⟩,
      ⟨"f", 2, some [.obj [("type", .str "Identifier"), ("name", .str "x")]]⟩] }

/-- The caller, and the function of another file that it calls. -/
def carelessAtoms : List Atom := [careless, fileAtom "f" "b.js" true]

/-- The bare text fails the binding of the first edge; the record of a literal in its place mends
it, and changes nothing else. -/
theorem faults_stay_in_binding_careless :
    (all carelessAtoms).value.map (·.binding.failed) = [true, false] ∧
      ∃ before after e e',
        (all carelessAtoms).value = before ++ [e] ++ after ∧
        (all (replaceArgs 0 0 [.obj [("type", .str "Literal")]] carelessAtoms)).value =
          before ++ [e'] ++ after ∧
        e.binding.failed = true ∧ e.binding.IsBlank ∧ e'.binding.failed = false ∧
        SameButBinding e e' := by
  refine ⟨by decide +kernel, ?_⟩
  obtain ⟨-, -, hcontained, hreplace⟩ := faults_stay_in_binding carelessAtoms
  obtain ⟨before, after, hall, hall', hrel⟩ := hreplace 0 0 careless ⟨"f", 1, some [.str "x"]⟩
    [.obj [("type", .str "Literal")]] rfl rfl (List.cons_ne_nil _ _) (List.cons_ne_nil _ _)
  have hsome : (ofCall? carelessAtoms careless ⟨"f", 1, some [.str "x"]⟩).isSome := by
    decide +kernel
  obtain ⟨e, he⟩ := Option.isSome_iff_exists.1 hsome
  have hedge := hcontained _ _ e he
  have hfailed : e.binding.failed = true :=
    hedge.failed_iff.2 ⟨.str "x", List.mem_singleton_self _, Or.inl fun ⟨_, h⟩ => nomatch h⟩
  rw [he] at hall hrel
  generalize hown : ofCall? (replaceArgs 0 0 _ carelessAtoms) _ _ = own at hall' hrel
  cases hrel with
  | @some _ e' hsame =>
      have hread : ¬∃ v ∈ [.obj [("type", .str "Literal")]], Argument.Refused v := by
        rintro ⟨v, hv, hrefused⟩
        rw [List.mem_singleton.1 hv] at hrefused
        exact Argument.not_refused_iff.2 ⟨_, rfl⟩ hrefused
      have hedge' := (faults_stay_in_binding _).2.2.1 _ _ e' hown
      refine ⟨before, after, e, e', hall, hall', hfailed, hedge.blank hfailed, ?_, hsame⟩
      rw [← Bool.not_eq_true, hedge'.failed_iff]
      exact hread

end Edge

end Lineage
