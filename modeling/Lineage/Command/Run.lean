/-
What each command does with the atoms of its file.
-/
import Lineage.Command.Basic
import Lineage.Command.Report
import Lineage.Dna.Consistency
import Lineage.Edge.Basic
import Lineage.Journey.Summary
import Lineage.Journey.Trace

namespace Lineage.Command

/-! ### Atoms and DNA -/

/-- The entry of an atom with the given id and DNA. -/
def dnaEntry (id : String) (d : Dna) : Json :=
  .obj (d.fields ++ [("atomId", .str id), ("valid", .bool d.isConsistent)])

/-- The row of an atom's DNA. -/
def dnaRow (a : Atom) (d : Dna) : List String :=
  [escape a.id, d.flowType.name, d.semanticFingerprint, d.structuralHash,
    toString d.complexityScore, toString d.duplicabilityScore]

/-- The DNA of each atom, as it stands in the table by id. -/
def withDna (table : List (String × Dna)) (atoms : List Atom) : List (Atom × Dna) :=
  atoms.filterMap fun a => (Assoc.find? a.id table).map (a, ·)

/-- The line for an atom that is not there. -/
def atomNotFound (id : String) : Printed :=
  .line ("[red]Atom not found:[/red] " ++ escape id)

/-- Prints the DNA of all atoms, or of those with the given id. -/
def runDna (file : String) (only : Option String) (json : Bool) (atoms : List Atom) : Report :=
  let chosen :=
    match only with
    | some id => atoms.filter fun a => a.id = id
    | none => atoms
  match only, chosen with
  | some id, [] => .failure [atomNotFound id]
  | _, chosen =>
      let table := (DnaCache.empty.getMany chosen).value.1
      let event := Event.timed "dna.extract" [("atoms_file", .str file)]
        [("atoms", .int table.length)] .success 0
      let found := withDna table chosen
      if json then .ofData event (.list (fun ((a, d) : Atom × Dna) => dnaEntry a.id d) found)
      else
        .ofPrinted event
          [.table
            { title := s!"DNA ({chosen.length} atoms)"
              columns := [("Atom", .left), ("Flow type", .left), ("Fingerprint", .left),
                ("Structural", .left), ("Cx", .right), ("Dup", .right)]
              rows := found.map fun (a, d) => dnaRow a d }]

/-! ### Edges -/

/-- The row of an edge. -/
def edgeRow (e : Edge) : List String :=
  [escape e.callerId, escape s!"{e.calleeName} ({e.calleeFile})", toString e.callSite,
    if e.binding.failed then "error" else toString e.binding.bindings.length, e.confidence.text]

/-- Prints the edges between the atoms. -/
def runEdges (file : String) (json : Bool) (atoms : List Atom) : Report :=
  let edges := (Edge.all atoms).value
  let event := Event.timed "edges.resolve" [("atoms_file", .str file)]
    [("atoms", .int atoms.length), ("edges", .int edges.length),
      ("mapping_errors", .int (edges.filter fun e => e.binding.failed).length)] .success 0
  if json then .ofData event (.list Edge.toJson edges)
  else if edges.isEmpty then .ofPrinted event [.line "[dim]No cross-file edges found.[/dim]"]
  else
    .ofPrinted event
      [.table
        { title := s!"Cross-file edges ({edges.length})"
          columns := [("Caller", .left), ("Callee", .left), ("Line", .right), ("Args", .right),
            ("Confidence", .right)]
          rows := edges.map edgeRow }]

/-! ### Journeys -/

/-- The parts of an id before and after its last double colon. -/
def splitId? (id : String) : Option (String × String) :=
  let rec go : List Char → Option (List Char × List Char)
    | [] => none
    | c :: rest =>
        match go rest with
        | some (before, after) => some (c :: before, after)
        | none =>
            match c, rest with
            | ':', ':' :: after => some ([], after)
            | _, _ => none
  (go id.toList).map fun (before, after) => (String.ofList before, String.ofList after)

/-- The atom that a journey starts from: the one with the id or, failing that, one whose file and
name the id may mean. -/
def startOf? (atoms : List Atom) (id : String) : Option Atom :=
  match Assoc.find? id (Atom.index atoms) with
  | some a => some a
  | none => (splitId? id).bind fun (file, name) => Journey.findSource? atoms file name

/-- The data of a journey. -/
def journeyData (source : Atom) (var : String) (s : JourneySummary) : Json :=
  .obj [("source", .obj [("id", .str source.id), ("name", .str source.name),
      ("variable", .str var)]),
    ("summary", .obj s.countFields),
    ("journey", .obj (s.byDepth.map fun (depth, hops) => (toString depth, .list .str hops)))]

/-- The lines of a journey: a heading, and each hop indented by its depth. -/
def journeyLines (source : Atom) (var : String) (s : JourneySummary) : List Printed :=
  let average := String.ofList s.avgConfidence.fixedText
  let heading := "[bold]" ++ escape var ++ "[/bold] from " ++ escape source.name ++
    s!": {s.totalSteps} hop(s), {s.uniqueFiles} file(s), avg confidence {average}"
  let hops := s.byDepth.flatMap fun (depth, hops) =>
    hops.map fun hop =>
      let indent := String.ofList (List.replicate (2 * depth.toNat) ' ')
      .line (indent ++ escape hop)
  .line heading :: hops

/-- The line for a variable without a journey. -/
def noJourney (source : Atom) (var : String) : Printed :=
  .line ("'" ++ escape var ++ "' " ++
    if Journey.knowsVariable source var then
      "is used in " ++ escape source.name ++ " but never passed across files."
    else "is not a parameter or call argument of " ++ escape source.name ++ ".")

/-- Prints the journey of a variable. -/
def runTrace (atomId var : String) (maxDepth : Int) (json : Bool) (atoms : List Atom) : Report :=
  match startOf? atoms atomId with
  | none => .failure [atomNotFound atomId]
  | some source =>
      let steps := Journey.trace (EdgeMap.ofAtoms atoms) (Atom.index atoms) source.id var maxDepth
      let event := Event.timed "journey.trace" [("atom_id", .str source.id), ("variable", .str var)]
        [("steps", .int steps.length)] .success 0
      let summary := JourneySummary.ofSteps steps
      if json then .ofData event (journeyData source var summary)
      else if steps.isEmpty then .ofPrinted event [noJourney source var]
      else .ofPrinted event (journeyLines source var summary)

/-! ### Duplicates -/

/-- The row of a pair. -/
def duplicateRow (d : Duplicate) : List String :=
  [escape d.firstId, escape d.secondId, d.similarity.text]

/-- Prints the pairs of atoms that may be duplicates. -/
def runDuplicates (file : String) (filter : Duplicate.Filter) (json : Bool) (atoms : List Atom) :
    Report :=
  let found := (Duplicate.find filter .empty atoms).value.1
  let event := Event.timed "dna.duplicates" [("atoms_file", .str file)]
    [("candidates", .int found.length)] .success 0
  if json then .ofData event (.list Duplicate.toJson found)
  else if found.isEmpty then .ofPrinted event [.line "[dim]No duplicate candidates found.[/dim]"]
  else
    .ofPrinted event
      [.table
        { title := s!"Duplicate candidates ({found.length})"
          columns := [("First", .left), ("Second", .left), ("Similarity", .right)]
          rows := found.map duplicateRow }]

/-! ### All commands -/

/-- What a command does with its atoms. -/
def runOn (settings : Settings) (atoms : List Atom) : Command → Report
  | dna file atom json => runDna file atom json atoms
  | edges file json => runEdges file json atoms
  | trace _ atomId var maxDepth json =>
      runTrace atomId var (maxDepth.getD settings.journeyMaxDepth) json atoms
  | duplicates file threshold minScore json =>
      runDuplicates file
        ⟨(threshold.map .real).getD settings.duplicateThreshold,
          minScore.getD settings.minDuplicability⟩
        json atoms

/-- What a command does, given what loading its file came to. -/
def run (settings : Settings) (command : Command) : Except LoadFailure (List Atom) → Report
  | .ok atoms => command.runOn settings atoms
  | .error (.refused error) =>
      .failure [.line ("[red]Could not load atoms:[/red] " ++
        escape (error.message (Path.ofText command.file).text))]
  | .error (.stopped stop) => ⟨1, "", [], [], some stop⟩

end Lineage.Command
