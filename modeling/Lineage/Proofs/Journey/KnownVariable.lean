/-
Variables that an atom knows.

Two readers look for a variable in the arguments of an atom's calls.  A journey reads an argument as
what it is, and leaves by it if the variable is the binding that it reads from, or its source text
(`Argument.Follows`).  The check whether the atom knows the variable looks at the name and the
variable of the record alone (`Argument.Names`).  Most arguments tell their variable there; the
object of a property access, what a spread spreads and the source text stand elsewhere, and the
check does not see them (`Argument.Hides`).  The main statement, `reported_unknown_iff`, says
exactly when a journey leaves an atom with a variable that the atom is said not to know.
-/
import Lineage.Journey.Trace
import Lineage.Proofs.Atom.Given
import Lineage.Proofs.Binding.Positional
import Lineage.Proofs.Edge.Resolution
import Lineage.Proofs.Journey.DepthLimit

namespace Lineage

namespace Argument

/-! ### Two ways to read an argument -/

/-- A journey of the variable leaves by the argument: the variable is the binding that it reads
from, or its source text. -/
def Follows (var : String) (a : Argument) : Prop :=
  a.rootVariable = some var ∨ a.render = var

/-- The variable is the name of the argument, or its variable. -/
def Names (var : String) (a : Argument) : Prop :=
  a.name = some var ∨ a.var = some var

/-- The source text of an argument that does not bring one along, put together from its parts; plain
names have none. -/
def builtText? (a : Argument) : Option String :=
  if a.isMember then some (givenOr a.objectName "?" ++ "." ++ givenOr a.propertyName "?")
  else if a.isCall then some (givenOr a.callee "?" ++ "()")
  else if a.isLiteral then some a.value.spaced
  else if a.isSpread then some ("..." ++ givenOr a.spreadSource "?")
  else none

/-- The variable stands in the argument elsewhere than in its name and its variable. -/
inductive Hides (var : String) (a : Argument) : Prop
  /-- It is the source text that the argument brings along. -/
  | code : a.code = some var → var ≠ "" → Hides var a
  /-- It is the object of a property access, up to the first point. -/
  | object (o : String) : a.isMember = true → a.objectName = some o → o ≠ "" →
      beforePoint o = var → Hides var a
  /-- It is what a spread spreads. -/
  | spread : a.isSpread = true → a.argument = some var → var ≠ "" → Hides var a
  /-- It is the source text that is put together. -/
  | built : isGiven a.code = false → a.builtText? = some var → Hides var a
  /-- It is empty, and so is the text of the argument. -/
  | blank : isGiven a.code = false → a.builtText? = none → a.name = none → a.var = none →
      var = "" → Hides var a

lemma render_eq (a : Argument) :
    a.render = givenOr a.code (a.builtText?.getD (givenOr a.name (givenOr a.var ""))) := by
  rcases givenOr_cases a.code (a.builtText?.getD (givenOr a.name (givenOr a.var ""))) with
    ⟨s, hcode, hs, hgiven⟩ | ⟨hcode, hgiven⟩
  · have hcode' : isGiven a.code = true := by simp [hcode, isGiven, hs]
    rw [hgiven, render, if_pos hcode', hcode]
    simp [givenOr, given, isGiven, hs]
  · rw [hgiven, render, hcode, if_neg Bool.false_ne_true, builtText?]
    split
    · rfl
    · split
      · rfl
      · split
        · rfl
        · split <;> rfl

lemma isSpread_kind {a : Argument} (h : a.isSpread = true) :
    a.isIdentifier = false ∧ a.isMember = false := by
  simp only [isSpread, Bool.or_eq_true, decide_eq_true_eq] at h
  rcases h with h | h <;> simp [isIdentifier, isMember, h]

lemma isMember_kind {a : Argument} (h : a.isMember = true) : a.isIdentifier = false := by
  simp only [isMember, decide_eq_true_eq] at h
  simp [isIdentifier, h]

variable {var : String} {a : Argument}

lemma names_or_hides_of_rootVariable (h : a.rootVariable = some var) :
    Names var a ∨ Hides var a := by
  have hgiven : given a.name a.var = some var → Names var a := by
    intro hgiven
    rcases given_cases a.name a.var with ⟨s, hname, -, heq⟩ | ⟨-, heq⟩
    · exact Or.inl (hname.trans (heq.symm.trans hgiven))
    · exact Or.inr (heq.symm.trans hgiven)
  unfold rootVariable at h
  split at h
  · exact Or.inl (hgiven h)
  · split at h
    · next hmember =>
        split at h
        · next hobject =>
            obtain ⟨o, ho, hvar⟩ := Option.map_eq_some_iff.1 h
            have hne : o ≠ "" := by simpa [ho, isGiven] using hobject
            exact Or.inr (.object o hmember ho hne hvar)
        · exact Or.inl (Or.inr h)
    · split at h
      · next hspread =>
          rcases given_cases a.argument (given a.name a.var) with ⟨s, harg, hne, heq⟩ | ⟨-, heq⟩
          · obtain rfl : s = var := Option.some.inj (heq.symm.trans h)
            exact Or.inr (.spread hspread harg hne)
          · exact Or.inl (hgiven (heq.symm.trans h))
      · exact Or.inl (Or.inr h)

lemma names_or_hides_of_render (h : a.render = var) : Names var a ∨ Hides var a := by
  rw [render_eq] at h
  rcases givenOr_cases a.code (a.builtText?.getD (givenOr a.name (givenOr a.var ""))) with
    ⟨s, hcode, hne, heq⟩ | ⟨hcode, heq⟩
  · obtain rfl : s = var := heq.symm.trans h
    exact Or.inr (.code hcode hne)
  · rw [heq] at h
    cases hbuilt : a.builtText? with
    | some t =>
        rw [hbuilt, Option.getD_some] at h
        exact Or.inr (.built hcode (hbuilt.trans (congrArg some h)))
    | none =>
        rw [hbuilt, Option.getD_none] at h
        rcases givenOr_cases a.name (givenOr a.var "") with ⟨s, hname, -, heq⟩ | ⟨hname, heq⟩
        · exact Or.inl (Or.inl (hname.trans (congrArg some (heq.symm.trans h))))
        rw [heq] at h
        rcases givenOr_cases a.var "" with ⟨s, hvar, -, heq⟩ | ⟨hvar, heq⟩
        · exact Or.inl (Or.inr (hvar.trans (congrArg some (heq.symm.trans h))))
        -- neither is given; an empty one is still the empty variable
        obtain rfl : "" = var := heq.symm.trans h
        rcases eq_none_or_empty hname with hname | hname
        · rcases eq_none_or_empty hvar with hvar | hvar
          · exact Or.inr (.blank hcode hbuilt hname hvar rfl)
          · exact Or.inl (Or.inr hvar)
        · exact Or.inl (Or.inl hname)

/-- What stands in the argument elsewhere is followed all the same. -/
lemma Hides.follows (h : Hides var a) : Follows var a := by
  cases h with
  | code hcode hne =>
      right
      rw [render_eq, hcode]
      simp [givenOr, given, isGiven, hne]
  | object o hmember ho hne hvar =>
      left
      have hobject : isGiven a.objectName = true := by simp [ho, isGiven, hne]
      rw [rootVariable, isMember_kind hmember, if_neg Bool.false_ne_true, if_pos hmember,
        if_pos hobject, ho, Option.map_some, hvar]
  | spread hspread harg hne =>
      left
      obtain ⟨hidentifier, hmember⟩ := isSpread_kind hspread
      rw [rootVariable, hidentifier, if_neg Bool.false_ne_true, hmember,
        if_neg Bool.false_ne_true, if_pos hspread, spreadSource, harg]
      simp [given, isGiven, hne]
  | built hcode hbuilt =>
      right
      rw [render_eq, hbuilt, Option.getD_some]
      exact givenOr_of_not_isGiven hcode var
  | blank hcode hbuilt hname hvar hempty =>
      right
      rw [render_eq, hbuilt, Option.getD_none, hname, hvar, hempty]
      exact givenOr_of_not_isGiven hcode ""

/-- A journey leaves by an argument only with a variable that the argument names or hides. -/
lemma Follows.names_or_hides (h : Follows var a) : Names var a ∨ Hides var a :=
  h.elim names_or_hides_of_rootVariable names_or_hides_of_render

/-! ### The record of an argument -/

/-- The record has the variable under `variable` or under `name`. -/
def RecordNames (var : String) (v : Json) : Prop :=
  v.field? "variable" = some (.str var) ∨ v.field? "name" = some (.str var)

lemma argumentNames_iff {v : Json} :
    Journey.argumentNames var v = true ↔ RecordNames var v := by
  simp only [Journey.argumentNames, Bool.or_eq_true]
  refine or_congr ?_ ?_
  all_goals
    split
    · next s hs => rw [hs, decide_eq_true_eq, Option.some.injEq, Json.str.injEq]
    · next hother => exact iff_of_false Bool.false_ne_true fun h => hother var h

/-- A field that may hold a text holds the one that is read from it. -/
lemma lookup_eq_str_iff {fields : List (String × Json)} {key : String} {o : Option String}
    (h : Schema.optional fields [key] none (Schema.nullable Schema.text) = .valid o) (s : String) :
    fields.lookup key = some (.str s) ↔ o = some s := by
  have hfind : Schema.find? fields [key] = (fields.lookup key).map (key, ·) := by
    rw [Schema.find?, List.findSome?_cons]
    cases fields.lookup key <;> rfl
  rw [Schema.optional, hfind] at h
  cases hlookup : fields.lookup key with
  | none =>
      rw [hlookup] at h
      cases h
      simp
  | some v =>
      rw [hlookup, Option.map_some, Checked.within_eq_valid_iff] at h
      cases v with
      | null =>
          cases h
          simp
      | str t =>
          cases h
          simp
      | _ => cases h

/-- What an argument names is what its record does. -/
lemma recordNames_iff {v : Json} (h : ofJson v = .valid a) : RecordNames var v ↔ Names var a := by
  cases v with
  | obj fields =>
      simp only [ofJson, Schema.record, Checked.seq_eq_valid_iff, Checked.map_eq_valid_iff] at h
      -- the checks are undone from the last field to the first
      iterate 7 obtain ⟨_, h, _, -, rfl⟩ := h
      obtain ⟨_, h, _, hvar, rfl⟩ := h
      obtain ⟨_, h, _, hname, rfl⟩ := h
      obtain ⟨_, -, rfl⟩ := h
      exact (or_congr (lookup_eq_str_iff hvar var) (lookup_eq_str_iff hname var)).trans or_comm
  | _ => cases h

end Argument

/-! ### Leaving an atom -/

/-- The atoms of a list are known by their ids. -/
lemma Atom.isSome_find?_index {atoms : List Atom} {a : Atom} (ha : a ∈ atoms) :
    (Assoc.find? a.id (Atom.index atoms)).isSome = true := by
  rw [Atom.index, Assoc.find?_ofList, Option.isSome_map, List.find?_isSome]
  exact ⟨(a.id, a), List.mem_reverse.2 (List.mem_map.2 ⟨a, ha, rfl⟩), decide_eq_true rfl⟩

/-- With distinct ids, what leaves the id of an atom are the edges of the atom's own calls. -/
lemma EdgeMap.mem_leaving_iff {atoms : List Atom} (hids : (atoms.map Atom.id).Nodup) {x : Atom}
    (hx : x ∈ atoms) {e : Edge} :
    e ∈ (EdgeMap.ofAtoms atoms).leaving x.id ↔
      ∃ call ∈ x.calls, Edge.ofCall? atoms x call = some e := by
  rw [leaving_ofAtoms, List.mem_filter, decide_eq_true_eq, Edge.value_all, List.mem_flatMap]
  simp only [List.mem_filterMap]
  constructor
  · rintro ⟨⟨caller, hcaller, call, hcall, he⟩, hid⟩
    have hsame : caller.id = x.id := (Edge.callerId_ofCall he).symm.trans hid
    obtain rfl : caller = x := List.inj_on_of_nodup_map hids hcaller hx hsame
    exact ⟨call, hcall, he⟩
  · rintro ⟨call, hcall, he⟩
    exact ⟨⟨x, hx, call, hcall, he⟩, Edge.callerId_ofCall he⟩

/-- The bindings of an edge are those of the arguments that have a parameter, if all arguments can
be read. -/
lemma Edge.mem_bindings_build_iff {caller callee : Atom} {call : CallSite} {b : Binding} :
    b ∈ (build caller callee call).value.binding.bindings ↔
      ∃ args, Argument.Reads call.arguments args ∧
        ∃ i a p, args[i]? = some a ∧ callee.parameters[i]? = some p ∧ Binding.of i a p = b := by
  have hbinding : (build caller callee call).value.binding = (bindingOf caller callee call).value :=
    rfl
  rw [hbinding, bindingOf]
  cases hbind : CallBinding.bind caller callee call with
  | ok binding =>
      obtain ⟨args, hread, hvalue⟩ := bind_eq_ok_iff.1 hbind
      rw [Argument.readFrom_eq_ok_iff] at hread
      cases hvalue
      simp only [Noted.value_plain, Binding.mem_pairFrom_iff, Nat.zero_add]
      constructor
      · exact fun h => ⟨args, hread, h⟩
      · rintro ⟨args', hread', h⟩
        rwa [Argument.Reads.unique hread' hread] at h
  | error fault =>
      refine iff_of_false List.not_mem_nil ?_
      rintro ⟨args, hread, -⟩
      obtain ⟨binding, hok, -⟩ := CallBinding.bind_pairs hread caller callee
      rw [hbind] at hok
      cases hok

namespace Journey

/-- A call of the atom passes the argument on, to a parameter of a function in another file. -/
def PassesOn (atoms : List Atom) (x : Atom) (a : Argument) : Prop :=
  ∃ call ∈ x.calls, ∃ callee, Edge.scan? atoms x call = some callee ∧
    ∃ args, Argument.Reads call.arguments args ∧
      ∃ i < callee.parameters.length, args[i]? = some a

lemma mem_passages_iff {edges : EdgeMap} {known : List (String × Atom)} {id var : String} {e : Edge}
    {b : Binding} :
    (e, b) ∈ passages edges known id var ↔
      e ∈ edges.leaving id ∧ b ∈ e.binding.bindings ∧
        (Assoc.find? e.calleeId known).isSome = true ∧ (b.var = some var ∨ b.code = var) := by
  simp only [passages, List.mem_filter, List.mem_flatMap, List.mem_map, decide_eq_true_eq]
  constructor
  · rintro ⟨⟨e', he, b', hb, heq⟩, hpasses⟩
    cases heq
    exact ⟨he, hb, hpasses⟩
  · rintro ⟨he, hb, hpasses⟩
    exact ⟨⟨e, he, b, hb, rfl⟩, hpasses⟩

/-- A journey with room for a step reports one exactly if there is a passage from its start. -/
lemma trace_eq_nil_iff {edges : EdgeMap} {known : List (String × Atom)} {start var : String}
    {maxDepth : Int} (hdepth : 1 ≤ maxDepth) :
    trace edges known start var maxDepth = [] ↔ passages edges known start var = [] := by
  obtain ⟨room, hroom⟩ : ∃ room, maxDepth.toNat = room + 1 := ⟨maxDepth.toNat - 1, by omega⟩
  have hexpand (onward : JourneyStep → List String → List String × List JourneyStep)
      (steps : List JourneyStep) (visited : List String) :
      (expand onward steps visited).2 = [] ↔ steps = [] := by
    cases steps <;> simp [expand]
  rw [trace, hroom, walk, if_neg (by simp), hexpand, stepsFrom, List.map_eq_nil_iff,
    exits_eq_passages]

/-- A journey leaves an atom exactly if the atom passes on an argument that the variable is followed
through. -/
lemma among_ne_nil_iff {atoms : List Atom} (hids : (atoms.map Atom.id).Nodup) {x : Atom}
    (hx : x ∈ atoms) (var : String) {maxDepth : Int} (hdepth : 1 ≤ maxDepth) :
    among atoms x.id var maxDepth ≠ [] ↔ ∃ a, PassesOn atoms x a ∧ a.Follows var := by
  rw [among, ne_eq, trace_eq_nil_iff hdepth]
  constructor
  · intro hne
    obtain ⟨⟨e, b⟩, hpassage⟩ := List.exists_mem_of_ne_nil _ hne
    obtain ⟨he, hb, -, hfollows⟩ := mem_passages_iff.1 hpassage
    obtain ⟨call, hcall, hedge⟩ := (EdgeMap.mem_leaving_iff hids hx).1 he
    rw [Edge.ofCall?_eq_scan, Option.map_eq_some_iff] at hedge
    obtain ⟨callee, hscan, rfl⟩ := hedge
    obtain ⟨args, hread, i, a, p, ha, hp, rfl⟩ := Edge.mem_bindings_build_iff.1 hb
    have hi : i < callee.parameters.length := (List.getElem?_eq_some_iff.1 hp).1
    exact ⟨a, ⟨call, hcall, callee, hscan, args, hread, i, hi, ha⟩, hfollows⟩
  · rintro ⟨a, ⟨call, hcall, callee, hscan, args, hread, i, hi, ha⟩, hfollows⟩
    have hedge : Edge.ofCall? atoms x call = some (Edge.build x callee call).value := by
      rw [Edge.ofCall?_eq_scan, hscan, Option.map_some]
    have hb : Binding.of i a callee.parameters[i] ∈
        (Edge.build x callee call).value.binding.bindings :=
      Edge.mem_bindings_build_iff.2
        ⟨args, hread, i, a, _, ha, List.getElem?_eq_getElem hi, rfl⟩
    have hknown : (Assoc.find? callee.id (Atom.index atoms)).isSome = true :=
      Atom.isSome_find?_index (Edge.meant_of_scan? hscan).1
    refine List.ne_nil_of_mem (mem_passages_iff.2 ⟨?_, hb, hknown, hfollows⟩)
    exact (EdgeMap.mem_leaving_iff hids hx).2 ⟨call, hcall, hedge⟩

/-! ### Knowing a variable -/

/-- An atom is said not to know a variable exactly if none of its parameters is it, and no record of
an argument names it. -/
lemma knowsVariable_eq_false_iff {x : Atom} {var : String} :
    knowsVariable x var = false ↔
      (∀ p ∈ x.parameters, p.name ≠ var) ∧
        ∀ call ∈ x.calls, ∀ v ∈ call.arguments, ¬Argument.RecordNames var v := by
  rw [knowsVariable, Bool.or_eq_false_iff]
  simp only [List.any_eq_false, decide_eq_true_eq, List.any_eq_true, Argument.argumentNames_iff,
    not_exists, not_and, ne_eq]

/-- **When a journey leaves an atom with a variable that the atom does not know.**  Of atoms with
distinct ids, with room for one step at least: the variable is no parameter of the atom and no
record of an argument names it, yet it stands elsewhere in an argument that a call of the atom
passes on to a function of another file. -/
theorem reported_unknown_iff (atoms : List Atom) (hids : (atoms.map Atom.id).Nodup) (x : Atom)
    (hx : x ∈ atoms) (var : String) (maxDepth : Int) (hdepth : 1 ≤ maxDepth) :
    (among atoms x.id var maxDepth ≠ [] ∧ knowsVariable x var = false) ↔
      (∀ p ∈ x.parameters, p.name ≠ var) ∧
      (∀ call ∈ x.calls, ∀ v ∈ call.arguments, ¬Argument.RecordNames var v) ∧
      ∃ a, PassesOn atoms x a ∧ a.Hides var := by
  rw [among_ne_nil_iff hids hx var hdepth, knowsVariable_eq_false_iff, and_comm, and_assoc]
  refine and_congr_right fun _ => and_congr_right fun hrecords => ?_
  constructor
  · rintro ⟨a, hpasses, hfollows⟩
    refine ⟨a, hpasses, hfollows.names_or_hides.resolve_left fun hnames => ?_⟩
    -- the argument is read from a record, and the record would name the variable
    obtain ⟨call, hcall, callee, -, args, hread, i, -, ha⟩ := hpasses
    obtain ⟨v, hv, hvalid⟩ := hread.exists_record ha
    exact hrecords call hcall v hv ((Argument.recordNames_iff hvalid).2 hnames)
  · rintro ⟨a, hpasses, hhides⟩
    exact ⟨a, hpasses, hhides.follows⟩

/-- A call that passes a property of `user`, and spreads `items`. -/
def sending : CallSite :=
  ⟨"save", 1, some [
    .obj [("type", .str "MemberExpression"), ("object", .str "user"), ("property", .str "id")],
    .obj [("type", .str "SpreadElement"), ("argument", .obj [("name", .str "items")])]]⟩

/-- A function that makes the call. -/
def sender : Atom := { Edge.fileAtom "main" "a.js" false with calls := [sending] }

/-- The function of another file that is called, with two parameters. -/
def receiver : Atom :=
  { Edge.fileAtom "save" "b.js" true with
    dataFlow := some ⟨[⟨"key", .simple, 0, false, none, [], none⟩,
      ⟨"rest", .rest, 1, false, none, [], none⟩], [], []⟩ }

/-- The journey of `user` leaves by the property that is passed on, and the function is said not to
know `user`. -/
theorem object_followed_unknown :
    ([sender, receiver].map Atom.id).Nodup ∧
      among [sender, receiver] sender.id "user" 1 ≠ [] ∧ knowsVariable sender "user" = false :=
  ⟨by decide +kernel, List.isEmpty_eq_false_iff.1 (by decide +kernel), by decide +kernel⟩

/-- It is the same with `items`, which is spread. -/
theorem reported_unknown_iff_items :
    ([sender, receiver].map Atom.id).Nodup ∧ (1 : Int) ≤ 5 ∧
      among [sender, receiver] sender.id "items" 5 ≠ [] ∧
        knowsVariable sender "items" = false := by
  have hids : ([sender, receiver].map Atom.id).Nodup := by decide +kernel
  have hunknown : knowsVariable sender "items" = false := by decide +kernel
  obtain ⟨hparameters, hrecords⟩ := knowsVariable_eq_false_iff.1 hunknown
  refine ⟨hids, by decide, (reported_unknown_iff [sender, receiver] hids sender List.mem_cons_self
    "items" 5 (by decide)).2 ⟨hparameters, hrecords, ?_⟩⟩
  have hread : Argument.Reads sending.arguments [_, _] := .cons rfl (.cons rfl .nil)
  exact ⟨_, ⟨sending, List.mem_cons_self, receiver, rfl, _, hread, 1, by decide, rfl⟩,
    .spread rfl rfl (by decide)⟩

end Journey

end Lineage
