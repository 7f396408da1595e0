/-
The summary of a journey.
-/
import Lineage.Journey.Trace

namespace Lineage

/-- How far a journey went, and its hops by their depth. -/
structure JourneySummary where
  totalSteps : Nat
  maxDepthReached : Int
  uniqueFiles : Nat
  uniqueFunctions : Nat
  avgConfidence : Double
  byDepth : List (Int × List String)
deriving Repr

namespace Hop

/-- A hop on one line. -/
def line (h : Hop) : String :=
  let kind := (h.transform.map Transform.kind).getD "none"
  s!"{h.callerName} ({h.callerFile}:{h.callSite}) -> " ++
    s!"{h.calleeName} ({h.calleeFile}) as {h.parameterIn} [{kind}]"

end Hop

namespace JourneySummary

/-- The mean confidence of hops, to whole hundredths. -/
def meanConfidence (hops : List Hop) : Double :=
  let sum := hops.foldl (fun sum h => sum.add h.confidence) (Double.ofInt 0)
  (sum.divNat hops.length).roundHundredths

/-- The greatest depth of hops, of which there is at least one. -/
def greatestDepth (first : Hop) (others : List Hop) : Int :=
  others.foldl (fun depth h => max depth h.depth) first.depth

/-- The lines of hops by depth, the depths in the order in which they first come. -/
def linesByDepth (hops : List Hop) : List (Int × List String) :=
  hops.foldl (fun table h => Assoc.append h.depth [h.line] table) []

/-- The summary of the hops of a journey. -/
def ofHops : List Hop → JourneySummary
  | [] => ⟨0, 0, 0, 0, Double.ofInt 0, []⟩
  | first :: others =>
      let hops := first :: others
      { totalSteps := hops.length
        maxDepthReached := greatestDepth first others
        uniqueFiles := (Assoc.distinct (hops.map Hop.calleeFile)).length
        uniqueFunctions := (Assoc.distinct (hops.map Hop.calleeId)).length
        avgConfidence := meanConfidence hops
        byDepth := linesByDepth hops }

/-- The summary of a journey. -/
def ofSteps (steps : List JourneyStep) : JourneySummary :=
  ofHops (steps.map JourneyStep.hop)

/-- The counts of a summary, as fields of a record. -/
def countFields (s : JourneySummary) : List (String × Json) :=
  [("totalSteps", .int s.totalSteps), ("maxDepthReached", .int s.maxDepthReached),
    ("uniqueFiles", .int s.uniqueFiles), ("uniqueFunctions", .int s.uniqueFunctions),
    ("avgConfidence", .real s.avgConfidence)]

end JourneySummary

end Lineage
