/-
The log of a day, call by call.

Each call adds the record of one event and a line feed to the end of the file.  No record holds a
character that ends a line, so the lines of the file are the records of the calls, in their order.
Of a timed block the record tells how it ended: with success, with the text of an error, or, where
it was interrupted, with whatever the block left there.  The main statement is
`one_line_for_each_call`.
-/
import Lineage.EventLog
import Lineage.Proofs.Assoc
import Lineage.Proofs.Json.Printable
import Lineage.Proofs.Text.Lines

namespace Lineage

/-! ### Lines without breaks -/

lemma Text.lines_append_feed {line : List Char} (hline : ∀ c ∈ line, isLineBreak c = false)
    (rest : List Char) : lines (line ++ '\n' :: rest) = line :: lines rest :=
  lines_append_break hline (Or.inr ⟨'\n', rfl, by decide, fun hpair => absurd hpair.1 (by decide)⟩)

lemma Json.isLineBreak_of_isAscii {c : Char} (h : IsAscii c) : Text.isLineBreak c = false := by
  obtain ⟨hlow, hhigh⟩ := h
  simp only [Text.isLineBreak, Bool.or_eq_false_iff, Bool.and_eq_false_iff,
    decide_eq_false_iff_not, beq_eq_false_iff_ne]
  omega

namespace EventLog

/-! ### Calls -/

/-- What is asked of the log: to write an event, or to time a block and write how it ended.  The
block starts with `data` and sets `updates`. -/
inductive Call where
  | log (kind : String) (data : Json) (durationMs : Option Int)
  | timed (kind : String) (data updates : List (String × Json)) (ending : Ending) (durationMs : Int)

/-- The event that a call writes. -/
def Call.event : Call → Event
  | log kind data durationMs => ⟨kind, data, durationMs⟩
  | timed kind data updates ending durationMs => .timed kind data updates ending durationMs

/-- The file after one more call, at a point in time. -/
def write (file : List Char) (call : Call × String) : List Char :=
  file ++ text [(call.1.event, call.2)]

/-- The file after calls, one after the other, on a day that begins without a file. -/
def after (calls : List (Call × String)) : List Char :=
  calls.foldl write []

lemma after_eq_text (calls : List (Call × String)) :
    after calls = text (calls.map fun call => (call.1.event, call.2)) := by
  have hstep (call : Call × String) : text [(call.1.event, call.2)] =
      call.1.event.line call.2 ++ ['\n'] := by simp [text]
  unfold after write
  simp only [hstep, List.foldl_append_eq_append, List.nil_append]
  rw [text, List.flatMap_map, List.flatMap_def]

lemma isLineBreak_of_mem_line (e : Event) (timestamp : String) :
    ∀ c ∈ e.line timestamp, Text.isLineBreak c = false := fun c hc =>
  Json.isLineBreak_of_isAscii (Json.isAscii_inline Json.Layout.isAscii_spaced _ c hc)

/-- The lines of a log are the records of its events. -/
lemma lines_text (events : List (Event × String)) :
    Text.lines (text events) = events.map fun event => event.1.line event.2 := by
  induction events with
  | nil => rfl
  | cons event events ih =>
      obtain ⟨e, timestamp⟩ := event
      have htext : text ((e, timestamp) :: events) = e.line timestamp ++ '\n' :: text events := by
        simp [text]
      rw [htext, Text.lines_append_feed (isLineBreak_of_mem_line e timestamp), ih, List.map_cons]

/-! ### How a block ended -/

/-- What is set last under a key. -/
def lastSet (key : String) (updates : List (String × Json)) : Option Json :=
  (updates.reverse.find? (·.1 = key)).map Prod.snd

lemma field?_putAll (key : String) (fields updates : List (String × Json)) :
    (Json.obj (Json.putAll fields updates)).field? key =
      (lastSet key updates).or ((Json.obj fields).field? key) := by
  simp only [Json.field?, Json.putAll, Assoc.lookup_eq_find?, Assoc.find?_foldl_insert, lastSet]

lemma putAll_append (fields first second : List (String × Json)) :
    Json.putAll (Json.putAll fields first) second = Json.putAll fields (first ++ second) := by
  rw [Json.putAll, Json.putAll, Json.putAll, List.foldl_append]

/-- The status that a block leaves before its ending sets one: the last that it was given, and at
first that it started. -/
def statusLeft (data updates : List (String × Json)) : Json :=
  (lastSet "status" (data ++ updates)).getD (.str "started")

section

variable (kind : String) (data updates : List (String × Json)) (ending : Ending) (durationMs : Int)

lemma field?_timed (key : String) :
    (Event.timed kind data updates ending durationMs).data.field? key =
      (lastSet key ending.updates).or ((lastSet key (data ++ updates)).or
        ((Json.obj [("status", .str "started")]).field? key)) := by
  rw [Event.timed, field?_putAll, putAll_append, field?_putAll]

lemma status_timed :
    (Event.timed kind data updates ending durationMs).data.field? "status" =
      some ((lastSet "status" ending.updates).getD (statusLeft data updates)) := by
  have hstarted : (Json.obj [("status", .str "started")]).field? "status" =
      some (.str "started") := rfl
  rw [field?_timed, hstarted, statusLeft]
  cases lastSet "status" ending.updates <;> cases lastSet "status" (data ++ updates) <;> rfl

end

/-- **Each call adds one line to the log.**  The lines of the file are the records of the calls, in
their order.  The record of a timed block has the status `success` where the block ended well, and
`error` with the text of the error where it failed.  Where the block was interrupted, the status is
the one that it left, which is `success` only if its data or the block itself set it so. -/
theorem one_line_for_each_call (calls : List (Call × String)) :
    Text.lines (after calls) =
      calls.map (fun call => Json.inline .spaced (call.1.event.entry call.2)) ∧
    ∀ kind data updates durationMs,
      let told (ending : Ending) :=
        (Call.timed kind data updates ending durationMs).event.data.field?
      (∀ ending, told ending "status" = some (.str "success") ↔
        ending = .success ∨
          (ending = .interrupted ∧ statusLeft data updates = .str "success")) ∧
      (∀ message, told (.failure message) "status" = some (.str "error") ∧
        told (.failure message) "error" = some (.str message)) ∧
      told .interrupted "status" = some (statusLeft data updates) := by
  constructor
  · rw [after_eq_text, lines_text, List.map_map]
    rfl
  · intro kind data updates durationMs told
    have hstatus (ending : Ending) : told ending "status" =
        some ((lastSet "status" ending.updates).getD (statusLeft data updates)) :=
      status_timed kind data updates ending durationMs
    have herror (message : String) : told (.failure message) "error" = some (.str message) :=
      field?_timed kind data updates (.failure message) durationMs "error"
    refine ⟨fun ending => ?_, fun message => ⟨hstatus _, herror message⟩, hstatus _⟩
    rw [hstatus]
    cases ending <;> simp [Ending.updates, lastSet]

/-- A block that was given the status `success` tells it although it was interrupted. -/
theorem interrupted_tells_success :
    (Call.timed "run" [("status", .str "success")] [] .interrupted 0).event.data.field? "status" =
        some (.str "success") ∧
      Ending.interrupted ≠ .success :=
  ⟨rfl, by decide⟩

end EventLog

end Lineage
