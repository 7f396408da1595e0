/-
The semantic fingerprint of an atom: a verb, a domain and an entity.

An analysis that came with the atom is taken where it names a verb.  Otherwise the verb and the
entity come from the name, and the domain from the purpose or the kind of flow.
-/
import Lineage.Atom.Basic
import Lineage.Dna.FlowType
import Lineage.Source.Identifier
import Lineage.Text.Basic

namespace Lineage.Dna

/-- The words of a purpose, in small letters. -/
def purposeWords (purpose : Option String) : List String :=
  match purpose with
  | some s =>
      if s.isEmpty then []
      else
        (Text.pieces '_' (Text.substitute '-' '_' (Text.lower s.toList))).map String.ofList
  | none => []

/-- The purposes whose domain their own words do not tell. -/
def purposeDomains : List (String × String) :=
  [("PRIVATE_HELPER", "internal"), ("TEST_CALLBACK", "test")]

/-- The domains that a purpose may name, the first of them first. -/
def namedDomains : List String := ["api", "test", "config", "internal"]

/-- The domain of an atom, from its purpose or, failing that, from the kind of flow. -/
def inferDomain (purpose : Option String) (flow : FlowType) : String :=
  let known := purpose.bind fun s => purposeDomains.lookup (String.ofList (Text.upper s.toList))
  let named := namedDomains.find? (purposeWords purpose).contains
  (known.orElse fun _ => named).getD flow.domain

/-- A verb, a domain and an entity in one text. -/
def fingerprintText (verb domain entity : String) : String :=
  verb ++ ":" ++ domain ++ ":" ++ entity

/-- The last word of a name in small letters, after the verb that it begins with. -/
def entityOf (name : String) (verb : Option String) : String :=
  let rest := String.ofList (name.toList.drop ((verb.map String.length).getD 0))
  match (Source.splitIdentifier rest).getLast? with
  | some word => String.ofList (Text.lower word.toList)
  | none => "unknown"

/-- The fingerprint that the name, the purpose and the kind of flow give. -/
def inferredFingerprint (a : Atom) (flow : FlowType) : String :=
  let verb := Source.matchVerb a.name
  fingerprintText (verb.getD "process") (inferDomain a.purpose flow) (entityOf a.name verb)

/-- The verb of an analysis, if it names one. -/
def namedVerb? (m : Meaning) : Option String :=
  match m.verb with
  | some verb => if verb = "" ∨ verb = "unknown" then none else some verb
  | none => none

/-- The semantic fingerprint of an atom. -/
def fingerprint (a : Atom) (flow : FlowType) : String :=
  match a.semantic with
  | some m =>
      match namedVerb? m with
      | some verb => fingerprintText verb (givenOr m.domain "core") (givenOr m.entity "unknown")
      | none => inferredFingerprint a flow
  | none => inferredFingerprint a flow

end Lineage.Dna
