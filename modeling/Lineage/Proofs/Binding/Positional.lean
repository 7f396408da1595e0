/-
Arguments and parameters, paired by position.

The binding of a call goes along its arguments and the parameters of its callee together, and stops
where the shorter side ends (`pairFrom_eq_map_zipIdx`).  What it says of the two sides as wholes
covers also what was not paired.  A call with an argument that is refused is not bound at all, even
where no parameter would take that argument.  The main statement is
`bind_positional_or_first_refused`.
-/
import Lineage.Proofs.Binding.Reading
import Lineage.Proofs.Schema.RoundTrip

namespace Lineage

/-! ### Refused arguments -/

/-- What is said of a value that is refused as the argument at a position: of what type it is, or
how many faults the check of its record finds. -/
def Argument.refusal (position : Nat) (v : Json) : String :=
  match v with
  | .obj _ => s!"Argument {position} is malformed: {(ofJson v).faults.length} error(s)"
  | _ => s!"Argument {position} is {ArgumentFault.typeName v}, expected an object"

lemma Argument.message_of_read {i : Nat} {v : Json} {fault : ArgumentFault}
    (h : read i v = .error fault) : fault.message = refusal i v := by
  cases v with
  | obj fields =>
      unfold read at h
      cases hread : ofJson (.obj fields) with
      | valid a =>
          simp only [hread] at h
          cases h
      | invalid first others =>
          have hcount : others.length + 1 = (ofJson (.obj fields)).faults.length := by
            rw [hread]
            rfl
          simp only [hread] at h
          cases h
          exact congrArg (fun n => s!"Argument {i} is malformed: {n} error(s)") hcount
  | _ =>
      cases h
      rfl

/-! ### Pairs -/

namespace Binding

/-- The bindings are those of the pairs, each with its position. -/
lemma pairFrom_eq_map_zipIdx (i : Nat) (args : List Argument) (params : List Parameter) :
    pairFrom i args params =
      ((args.zip params).zipIdx i).map fun ((a, p), position) => of position a p := by
  induction args generalizing i params with
  | nil => rfl
  | cons a args ih =>
      cases params with
      | nil => rfl
      | cons p params =>
          rw [pairFrom, ih, List.zip_cons_cons, List.zipIdx_cons, List.map_cons]

lemma length_pairFrom (i : Nat) (args : List Argument) (params : List Parameter) :
    (pairFrom i args params).length = min args.length params.length := by
  rw [pairFrom_eq_map_zipIdx, List.length_map, List.length_zipIdx, List.length_zip]

lemma getElem?_pairFrom {i k : Nat} {args : List Argument} {params : List Parameter} {a : Argument}
    {p : Parameter} (ha : args[k]? = some a) (hp : params[k]? = some p) :
    (pairFrom i args params)[k]? = some (of (i + k) a p) := by
  have hpair : (args.zip params)[k]? = some (a, p) := List.getElem?_zip_eq_some.2 ⟨ha, hp⟩
  rw [pairFrom_eq_map_zipIdx, List.getElem?_map, List.getElem?_zipIdx, hpair]
  rfl

lemma mem_pairFrom_iff {i : Nat} {args : List Argument} {params : List Parameter} {b : Binding} :
    b ∈ pairFrom i args params ↔
      ∃ k a p, args[k]? = some a ∧ params[k]? = some p ∧ of (i + k) a p = b := by
  constructor
  · intro hb
    rw [pairFrom_eq_map_zipIdx] at hb
    obtain ⟨⟨⟨a, p⟩, position⟩, hmem, hof⟩ := List.mem_map.1 hb
    obtain ⟨hle, hpair⟩ := List.mk_mem_zipIdx_iff_le_and_getElem?_sub.1 hmem
    obtain ⟨ha, hp⟩ := List.getElem?_zip_eq_some.1 hpair
    exact ⟨position - i, a, p, ha, hp, by rw [Nat.add_sub_cancel' hle]; exact hof⟩
  · rintro ⟨k, a, p, ha, hp, rfl⟩
    exact List.mem_of_getElem? (getElem?_pairFrom ha hp)

/-- The binding is that of the argument `a` to the parameter `p`, both at the same position, and
tells nothing but what these two are. -/
structure Joins (position : Nat) (a : Argument) (p : Parameter) (b : Binding) : Prop where
  position : b.position = position
  code : b.code = a.render
  argumentKind : b.argumentKind = a.kind
  var : b.var = a.rootVariable
  parameterName : b.parameterName = p.name
  parameterShape : b.parameterShape = p.shape
  parameterPosition : b.parameterPosition = p.position
  transform : b.transform = Transform.detect a p
  confidence : b.confidence = confidenceOf a p

lemma joins_of (position : Nat) (a : Argument) (p : Parameter) :
    Joins position a p (of position a p) := by
  constructor <;> rfl

end Binding

namespace CallBinding

lemma length_bindings_of_bind {caller callee : Atom} {call : CallSite} {b : CallBinding}
    (h : bind caller callee call = .ok b) :
    b.bindings.length = min call.arguments.length callee.parameters.length := by
  obtain ⟨args, hread, hvalue⟩ := bind_eq_ok_iff.1 h
  cases hvalue
  rw [Binding.length_pairFrom, (Argument.readFrom_eq_ok_iff.1 hread).length_eq]

/-- The binding of a call pairs its arguments with the parameters of the callee by position.  The
totals and the remarks on spreads and patterns are about all of them, paired or not. -/
structure Pairs (caller callee : Atom) (call : CallSite) (args : List Argument) (b : CallBinding) :
    Prop where
  length : b.bindings.length = min args.length callee.parameters.length
  joins : ∀ i a p, args[i]? = some a → callee.parameters[i]? = some p →
    ∃ binding : Binding, b.bindings[i]? = some binding ∧ binding.Joins i a p
  totalArgs : b.totalArgs = args.length
  totalParams : b.totalParams = callee.parameters.length
  hasSpread : b.hasSpread = true ↔ ∃ a ∈ args, a.isSpread = true
  hasDestructuring : b.hasDestructuring = true ↔ ∃ p ∈ callee.parameters, p.shape.isPattern = true
  callerName : b.caller = caller.name
  calleeName : b.callee = callee.name
  callSite : b.callSite = call.line
  failed : b.failed = false

/-- A call whose arguments can be read is bound, and its binding pairs them with the parameters. -/
lemma bind_pairs {call : CallSite} {args : List Argument}
    (hread : Argument.Reads call.arguments args) (caller callee : Atom) :
    ∃ b, bind caller callee call = .ok b ∧ b.Pairs caller callee call args := by
  refine ⟨_, bind_eq_ok_iff.2 ⟨args, Argument.readFrom_eq_ok_iff.2 hread, rfl⟩, ?_⟩
  constructor
  case length => exact Binding.length_pairFrom 0 args callee.parameters
  case joins =>
    intro i a p ha hp
    have hbinding := Binding.getElem?_pairFrom (i := 0) ha hp
    rw [Nat.zero_add] at hbinding
    exact ⟨_, hbinding, Binding.joins_of i a p⟩
  case hasSpread => exact List.any_eq_true
  case hasDestructuring => exact List.any_eq_true
  all_goals rfl

/-- **Arguments are bound by position, or not at all.**  A call is not bound exactly if some
argument is refused, and then the fault tells the position of the first such argument and what is
wrong with it.  If none is refused, each is read by itself, and the binding pairs them with the
parameters. -/
theorem bind_positional_or_first_refused (caller callee : Atom) (call : CallSite) :
    ((∃ fault, bind caller callee call = .error fault) ↔
      ∃ v ∈ call.arguments, Argument.Refused v) ∧
    (∀ fault, bind caller callee call = .error fault →
      ∃ i v, Argument.FirstRefused call.arguments i v ∧ fault.message = Argument.refusal i v) ∧
    ((∀ v ∈ call.arguments, ¬Argument.Refused v) →
      ∃ args b, Argument.Reads call.arguments args ∧ bind caller callee call = .ok b ∧
        b.Pairs caller callee call args) := by
  refine ⟨exists_error_iff caller callee call, fun fault herror => ?_, fun hnone => ?_⟩
  · have hsome := (exists_error_iff caller callee call).1 ⟨fault, herror⟩
    obtain ⟨i, v, hfirst⟩ := Argument.exists_firstRefused hsome
    obtain ⟨told, hread, hfault⟩ := Argument.readFrom_of_firstRefused (i := 0) hfirst
    have htold : bind caller callee call = .error told := by
      rw [bind, hread]
      rfl
    rw [Nat.zero_add] at hfault
    obtain rfl : fault = told := Except.error.inj (herror.symm.trans htold)
    exact ⟨i, v, hfirst, Argument.message_of_read hfault⟩
  · obtain ⟨args, hread⟩ := Argument.exists_reads_iff.2 hnone
    obtain ⟨b, hbind, hpairs⟩ := bind_pairs hread caller callee
    exact ⟨args, b, hread, hbind, hpairs⟩

/-- A function with one parameter. -/
def taker : Atom :=
  { Atom.ofRequired "lib.js::take" "take" "lib.js" with
    dataFlow := some ⟨[⟨"item", .simple, 0, false, none, [], none⟩], [], []⟩ }

/-- A call of it that passes a variable and one thing more. -/
def taking (more : Json) : CallSite :=
  ⟨"take", 1, some [.obj [("type", .str "Identifier"), ("name", .str "x")], more]⟩

/-- The record of a spread. -/
def spreadRecord : Json := .obj [("type", .str "SpreadElement"), ("argument", .str "rest")]

/-- No parameter takes the second argument; yet a bare text there keeps the call from being bound,
and a spread there is remarked on. -/
theorem bind_positional_or_first_refused_taking :
    (∃ fault, bind taker taker (taking (.str "y")) = .error fault ∧
      fault.message = "Argument 1 is str, expected an object") ∧
    (∀ v ∈ (taking spreadRecord).arguments, ¬Argument.Refused v) ∧
    ∃ args b, Argument.Reads (taking spreadRecord).arguments args ∧
      bind taker taker (taking spreadRecord) = .ok b ∧
      b.Pairs taker taker (taking spreadRecord) args ∧ b.bindings.length = 1 ∧ b.hasSpread = true := by
  have hidentifier : ¬Argument.Refused (.obj [("type", .str "Identifier"), ("name", .str "x")]) :=
    Argument.not_refused_iff.2 ⟨_, rfl⟩
  have hspread : ¬Argument.Refused spreadRecord := Argument.not_refused_iff.2 ⟨_, rfl⟩
  have hread : ∀ v ∈ (taking spreadRecord).arguments, ¬Argument.Refused v := by
    intro v hv
    rcases List.mem_cons.1 hv with rfl | hv
    · exact hidentifier
    · exact List.mem_singleton.1 hv ▸ hspread
  refine ⟨?_, hread, ?_⟩
  · obtain ⟨herror, hfirst, -⟩ := bind_positional_or_first_refused taker taker (taking (.str "y"))
    obtain ⟨fault, hfault⟩ := herror.2
      ⟨.str "y", List.mem_cons_of_mem _ List.mem_cons_self, Or.inl fun ⟨_, h⟩ => nomatch h⟩
    obtain ⟨i, v, hi, hmessage⟩ := hfirst fault hfault
    have hplace : i = 1 := by
      have hlt : i < 2 := (List.getElem?_eq_some_iff.1 hi.here).1
      have hne : i ≠ 0 := by
        rintro rfl
        exact hidentifier (Option.some.inj hi.here ▸ hi.refused)
      omega
    subst hplace
    obtain rfl : Json.str "y" = v := Option.some.inj hi.here
    exact ⟨fault, hfault, hmessage.trans (by decide)⟩
  · obtain ⟨args, b, hargs, hbind, hpairs⟩ :=
      (bind_positional_or_first_refused taker taker (taking spreadRecord)).2.2 hread
    have hvalue : (bind taker taker (taking spreadRecord)).toOption.map
        (fun b => (b.bindings.length, b.hasSpread)) = some (1, true) := by
      decide +kernel
    rw [hbind] at hvalue
    obtain ⟨hlength, hflag⟩ := Prod.mk.inj (Option.some.inj hvalue)
    exact ⟨args, b, hargs, hbind, hpairs, hlength, hflag⟩

end CallBinding

end Lineage
