/-
The event log of an analysis: one event on each line.
-/
import Lineage.Json.Printer

namespace Lineage

/-- Something that happened, what there is to say about it, and how long it took. -/
structure Event where
  kind : String
  data : Json
  durationMs : Option Int
deriving Repr

/-- How a timed block ended. -/
inductive Ending where
  | success
  | failure (text : String)
  | interrupted
deriving DecidableEq, Repr

namespace Ending

/-- What an ending sets in the data of its event; an interruption leaves them as they are. -/
def updates : Ending → List (String × Json)
  | success => [("status", .str "success")]
  | failure text => [("status", .str "error"), ("error", .str text)]
  | interrupted => []

end Ending

namespace Event

/-- The event of a timed block: it starts with `data`, the block sets `updates`, and the ending
comes last. -/
def timed (kind : String) (data updates : List (String × Json)) (ending : Ending)
    (durationMs : Int) : Event where
  kind
  data := .obj (Json.putAll (Json.putAll (Json.putAll [("status", .str "started")] data) updates)
    ending.updates)
  durationMs := some durationMs

/-- The record of an event at a point in time. -/
def entry (e : Event) (timestamp : String) : Json :=
  .obj [("event_type", .str e.kind), ("data", e.data), ("duration_ms", .opt .int e.durationMs),
    ("timestamp", .str timestamp)]

/-- The line of an event, without its line feed. -/
def line (e : Event) (timestamp : String) : List Char :=
  Json.inline .spaced (e.entry timestamp)

end Event

/-- The text of a log of events, each with its point in time. -/
def EventLog.text (events : List (Event × String)) : List Char :=
  events.flatMap fun (e, timestamp) => e.line timestamp ++ ['\n']

end Lineage
