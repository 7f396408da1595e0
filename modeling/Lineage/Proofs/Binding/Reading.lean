/-
Reading the arguments of a call.

The arguments of a call are read before any is bound, those that no parameter takes included.  They
are read if each is the record of an argument (`readFrom_eq_ok_iff`), and otherwise the first that
is refused is what the fault is about (`readFrom_of_firstRefused`).  So a call is bound exactly if
none of its arguments is refused (`exists_bind_iff`), however many parameters there are.
-/
import Mathlib.Data.List.Forall2
import Mathlib.Tactic.ByContra
import Mathlib.Tactic.Lemma
import Lineage.Binding.Basic

namespace Lineage

/-- A step after another succeeds exactly if both do. -/
lemma bind_eq_ok_iff {ε α β : Type} {x : Except ε α} {f : α → Except ε β} {r : β} :
    x >>= f = .ok r ↔ ∃ a, x = .ok a ∧ f a = .ok r := by
  cases x with
  | error e => simp [bind, Except.bind]
  | ok a => simp [bind, Except.bind]

namespace Argument

/-- A value that is no argument: it is no object, or not the record of an argument. -/
def Refused (v : Json) : Prop :=
  (¬∃ fields, v = .obj fields) ∨ ¬∃ a, ofJson v = .valid a

lemma read_eq_ok_iff {i : Nat} {v : Json} {a : Argument} :
    read i v = .ok a ↔ ofJson v = .valid a := by
  cases v with
  | obj fields =>
      unfold read
      cases hread : ofJson (.obj fields) with
      | valid b => simp [hread]
      | invalid first others => simp [hread]
  | _ =>
      -- anything but an object is refused by both readers
      constructor <;> intro h <;> cases h

/-- Only objects are records of arguments. -/
lemma not_refused_iff {v : Json} : ¬Refused v ↔ ∃ a, ofJson v = .valid a := by
  constructor
  · intro h
    by_contra hnone
    exact h (Or.inr hnone)
  · rintro ⟨a, ha⟩ (hobj | hnone)
    · cases v with
      | obj fields => exact hobj ⟨fields, rfl⟩
      | _ => cases ha
    · exact hnone ⟨a, ha⟩

/-- The values are the records of the arguments, one by one. -/
def Reads (vs : List Json) (args : List Argument) : Prop :=
  List.Forall₂ (fun v a => ofJson v = .valid a) vs args

/-- A value is the record of one argument at most. -/
lemma Reads.unique {vs : List Json} {args args' : List Argument} (h : Reads vs args)
    (h' : Reads vs args') : args = args' := by
  induction h generalizing args' with
  | nil =>
      cases h'
      rfl
  | cons hv _ ih =>
      cases h' with
      | cons hv' hvs' =>
          obtain rfl := Checked.valid.inj (hv.symm.trans hv')
          rw [ih hvs']

/-- Each argument has its record among the values. -/
lemma Reads.exists_record {vs : List Json} {args : List Argument} (h : Reads vs args) {i : Nat}
    {a : Argument} (ha : args[i]? = some a) : ∃ v ∈ vs, ofJson v = .valid a := by
  induction h generalizing i with
  | nil => cases ha
  | cons hv _ ih =>
      cases i with
      | zero =>
          obtain rfl := Option.some.inj ha
          exact ⟨_, List.mem_cons_self, hv⟩
      | succ i =>
          obtain ⟨w, hw, hvalid⟩ := ih ha
          exact ⟨w, List.mem_cons_of_mem _ hw, hvalid⟩

lemma exists_reads_iff {vs : List Json} : (∃ args, Reads vs args) ↔ ∀ v ∈ vs, ¬Refused v := by
  simp only [not_refused_iff]
  induction vs with
  | nil => exact ⟨fun _ v hv => absurd hv List.not_mem_nil, fun _ => ⟨[], .nil⟩⟩
  | cons v vs ih =>
      rw [List.forall_mem_cons, ← ih]
      constructor
      · rintro ⟨_, hargs⟩
        cases hargs with
        | cons hv hvs => exact ⟨⟨_, hv⟩, _, hvs⟩
      · rintro ⟨⟨a, hv⟩, args, hvs⟩
        exact ⟨a :: args, .cons hv hvs⟩

/-- The arguments are read as those that the values are the records of, from whatever position
on. -/
lemma readFrom_eq_ok_iff {i : Nat} {vs : List Json} {args : List Argument} :
    readFrom i vs = .ok args ↔ Reads vs args := by
  induction vs generalizing i args with
  | nil =>
      constructor
      · intro h
        cases h
        exact .nil
      · intro h
        cases h
        rfl
  | cons v vs ih =>
      rw [readFrom, bind_eq_ok_iff]
      simp only [bind_eq_ok_iff, read_eq_ok_iff, ih]
      constructor
      · rintro ⟨a, hv, as, hvs, hcons⟩
        cases hcons
        exact .cons hv hvs
      · intro h
        cases h with
        | cons hv hvs => exact ⟨_, hv, _, hvs, rfl⟩

/-- The value at position `i` is the first that is refused. -/
structure FirstRefused (vs : List Json) (i : Nat) (v : Json) : Prop where
  here : vs[i]? = some v
  refused : Refused v
  first : ∀ j < i, ∀ w, vs[j]? = some w → ¬Refused w

lemma exists_firstRefused {vs : List Json} (h : ∃ v ∈ vs, Refused v) :
    ∃ i v, FirstRefused vs i v := by
  induction vs with
  | nil =>
      obtain ⟨v, hv, -⟩ := h
      cases hv
  | cons w vs ih =>
      by_cases hw : Refused w
      · exact ⟨0, w, rfl, hw, fun j hj => absurd hj j.not_lt_zero⟩
      · obtain ⟨v, hv, hrefused⟩ := h
        have hlater : v ∈ vs := (List.mem_cons.1 hv).resolve_left fun heq => hw (heq ▸ hrefused)
        obtain ⟨i, u, hfirst⟩ := ih ⟨v, hlater, hrefused⟩
        refine ⟨i + 1, u, hfirst.here, hfirst.refused, fun j hj x hx => ?_⟩
        cases j with
        | zero => exact Option.some.inj hx ▸ hw
        | succ j => exact hfirst.first j (Nat.lt_of_succ_lt_succ hj) x hx

/-- A fault in the arguments is that of the first value that is refused. -/
lemma readFrom_of_firstRefused {i k : Nat} {vs : List Json} {v : Json} (h : FirstRefused vs k v) :
    ∃ fault, readFrom i vs = .error fault ∧ read (i + k) v = .error fault := by
  induction vs generalizing i k with
  | nil => cases h.here
  | cons w vs ih =>
      cases k with
      | zero =>
          obtain rfl := Option.some.inj h.here
          cases hread : read i w with
          | error fault =>
              exact ⟨fault, by rw [readFrom, hread]; rfl, rfl⟩
          | ok a => exact absurd h.refused (not_refused_iff.2 ⟨a, read_eq_ok_iff.1 hread⟩)
      | succ k =>
          obtain ⟨a, ha⟩ := not_refused_iff.1 (h.first 0 k.succ_pos w rfl)
          have htail : FirstRefused vs k v :=
            ⟨h.here, h.refused, fun j hj => h.first (j + 1) (Nat.succ_lt_succ hj)⟩
          obtain ⟨fault, hvs, hread⟩ := ih (i := i + 1) htail
          refine ⟨fault, ?_, by rwa [Nat.add_right_comm] at hread⟩
          rw [readFrom, read_eq_ok_iff.2 ha, hvs]
          rfl

end Argument

namespace CallBinding

/-- A call is bound exactly if none of its arguments is refused. -/
lemma exists_bind_iff (caller callee : Atom) (call : CallSite) :
    (∃ b, bind caller callee call = .ok b) ↔ ∀ v ∈ call.arguments, ¬Argument.Refused v := by
  rw [← Argument.exists_reads_iff]
  simp only [bind, bind_eq_ok_iff, Argument.readFrom_eq_ok_iff]
  exact ⟨fun ⟨_, args, hread, _⟩ => ⟨args, hread⟩, fun ⟨args, hread⟩ => ⟨_, args, hread, rfl⟩⟩

/-- A call is not bound exactly if some argument of it is refused. -/
lemma exists_error_iff (caller callee : Atom) (call : CallSite) :
    (∃ fault, bind caller callee call = .error fault) ↔
      ∃ v ∈ call.arguments, Argument.Refused v := by
  have hbound := exists_bind_iff caller callee call
  cases hbind : bind caller callee call with
  | ok b =>
      refine iff_of_false (fun ⟨_, h⟩ => nomatch h) ?_
      rintro ⟨v, hv, hrefused⟩
      exact hbound.1 ⟨b, hbind⟩ v hv hrefused
  | error fault =>
      refine iff_of_true ⟨fault, rfl⟩ ?_
      by_contra hnone
      obtain ⟨b, hb⟩ := hbound.2 fun v hv hrefused => hnone ⟨v, hv, hrefused⟩
      rw [hbind] at hb
      cases hb

lemma failed_of_bind {caller callee : Atom} {call : CallSite} {b : CallBinding}
    (h : bind caller callee call = .ok b) : b.failed = false := by
  obtain ⟨args, -, hvalue⟩ := bind_eq_ok_iff.1 h
  cases hvalue
  rfl

end CallBinding

end Lineage
