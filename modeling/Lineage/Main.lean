/-
The command line: reads the file of a command, runs the command, prints its report and adds its
events to the log of the day.
-/
import Lineage.Command.Report
import Lineage.Command.Run
import Std.Time

open Lineage

/-- How the commands are given. -/
def usage : String :=
  "usage: dna FILE [--atom ID] [--json]\n" ++
  "       edges FILE [--json]\n" ++
  "       trace FILE ATOM VARIABLE [--max-depth N] [--json]\n" ++
  "       duplicates FILE [--threshold X] [--min-score N] [--json]"

/-- The text of a file, or why it cannot be had. -/
def readSource (path : Path) : IO (Except FileError String) := do
  try
    let bytes ← IO.FS.readBinFile path.text
    return (Tree.decode bytes).map fun s => String.ofList (Tree.unifyBreaks s.toList)
  catch
    | .noFileOrDirectory _ _ _ => return .error .notFound
    | .inappropriateType _ _ _ => return .error .isFolder
    | error => throw error

/-- Adds events to the log of the day. -/
def logEvents (settings : Settings) (durationMs : Nat) (events : List Event) : IO Unit := do
  let now := Std.Time.DateTime.ofTimestampWithZone (← Std.Time.Timestamp.now) .UTC
  let timestamp := now.format "uuuu-MM-dd'T'HH:mm:ss.SSSSSS" ++ "+00:00"
  let file := settings.logDir.child ("atomflow-" ++ now.format "uuuu-MM-dd" ++ ".jsonl")
  let timed := events.map fun e => ({ e with durationMs := some durationMs }, timestamp)
  let log ← IO.FS.Handle.mk file.text .append
  log.putStr (String.ofList (EventLog.text timed))

/-- Runs a command and prints its report. -/
def perform (settings : Settings) (command : Command) : IO UInt32 := do
  IO.FS.createDirAll settings.logDir.text
  let source ← readSource (Path.ofText command.file)
  let start ← IO.monoMsNow
  let report := command.run settings (Atom.load source)
  IO.print report.output
  for item in report.printed do
    for line in Command.printedLines item do
      IO.println line
  if let some stop := report.stopped then
    IO.eprintln s!"cannot read {command.file}: {stop.message}"
  logEvents settings ((← IO.monoMsNow) - start) report.events
  return UInt32.ofNat report.exitCode

/-- Runs the command that the arguments give. -/
def main (args : List String) : IO UInt32 := do
  match Command.parse? args with
  | none =>
      IO.eprintln usage
      return 2
  | some command =>
      let home := Path.ofText ((← IO.getEnv "HOME").getD "")
      perform (Settings.standard home) command
