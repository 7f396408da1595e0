/-
Text on the console.

What a command prints is made of pieces: words of its own, which may be markup, numbers, and text
that the atoms or the command line bring.  Text is escaped, so that the console shows it as it is,
with one exception: the fingerprints in the table of DNAs are printed as they come.  An inferred
fingerprint needs no escape, but one that an analysis brings may hold a tag.  The main statement,
`text_escaped_unless_fingerprint`, says which atoms break the table.
-/
import Lineage.Proofs.Command.DnaReport
import Lineage.Proofs.Command.Markup
import Lineage.Proofs.Dna.Consistency

namespace Lineage.Command

/-! ### Pieces -/

/-- What the commands say in words of their own. -/
def phrases : List String :=
  ["[red]Atom not found:[/red] ",
    "DNA (", " atoms)", "Atom", "Flow type", "Fingerprint", "Structural", "Cx", "Dup",
    "Cross-file edges (", ")", "Caller", "Callee", "Line", "Args", "Confidence", "error",
    "[dim]No cross-file edges found.[/dim]",
    "[bold]", "[/bold] from ", ": ", " hop(s), ", " file(s), avg confidence ",
    "'", "' ", "is used in ", " but never passed across files.",
    "is not a parameter or call argument of ", ".",
    "Duplicate candidates (", "First", "Second", "Similarity",
    "[dim]No duplicate candidates found.[/dim]"]

/-- A piece of what is printed.  Only text and fingerprints can tell what stands in an atom. -/
inductive Piece where
  | words (phrase : String) (own : phrase ∈ phrases := by decide)
  | flow (f : FlowType)
  | count (n : Nat)
  | number (n : Int)
  | score (h : Hundredths)
  | average (x : Double)
  | blanks (n : Nat)
  | text (s : String)
  | fingerprint (s : String)

namespace Piece

/-- The markup of a piece; `shown` is what becomes of fingerprints. -/
def markup (shown : String → String) : Piece → String
  | words phrase _ => phrase
  | flow f => f.name
  | count n => toString n
  | number n => toString n
  | score h => h.text
  | average x => String.ofList x.fixedText
  | blanks n => String.ofList (List.replicate n ' ')
  | text s => escape s
  | fingerprint s => shown s

/-- The markup of pieces in a row. -/
def joined (shown : String → String) (pieces : List Piece) : String :=
  pieces.foldr (fun piece rest => piece.markup shown ++ rest) ""

lemma joined_count (shown : String → String) {front back : String} (hfront : front ∈ phrases)
    (hback : back ∈ phrases) (n : Nat) :
    joined shown [.words front hfront, .count n, .words back hback] =
      front ++ toString n ++ back := by
  rw [String.append_assoc]
  simp only [joined, markup, List.foldr_cons, List.foldr_nil, String.append_empty]

end Piece

/-- Something printed, in pieces; each cell of a table is one piece. -/
inductive View where
  | line (pieces : List Piece)
  | table (title : List Piece) (columns : List (Piece × Side)) (rows : List (List Piece))

namespace View

/-- The markup of what is printed. -/
def markup (shown : String → String) : View → Printed
  | line pieces => .line (Piece.joined shown pieces)
  | table title columns rows =>
      .table
        { title := Piece.joined shown title
          columns := columns.map fun (header, side) => (header.markup shown, side)
          rows := rows.map fun row => row.map (Piece.markup shown) }

end View

/-! ### Views of the reports -/

/-- The view of an atom that is not there. -/
def missingView (id : String) : View :=
  .line [.words "[red]Atom not found:[/red] ", .text id]

/-- The atoms whose DNA is asked for. -/
def chosenBy (only : Option String) (atoms : List Atom) : List Atom :=
  match only with
  | some id => atoms.filter fun a => a.id = id
  | none => atoms

/-- The cells of an atom's DNA. -/
def dnaCells (a : Atom) (d : Dna) : List Piece :=
  [.text a.id, .flow d.flowType, .fingerprint d.semanticFingerprint, .text d.structuralHash,
    .number d.complexityScore, .number d.duplicabilityScore]

/-- The table of the DNAs of atoms. -/
def dnaTable (atoms : List Atom) : View :=
  .table [.words "DNA (", .count atoms.length, .words " atoms)"]
    [(.words "Atom", .left), (.words "Flow type", .left), (.words "Fingerprint", .left),
      (.words "Structural", .left), (.words "Cx", .right), (.words "Dup", .right)]
    (atoms.map fun a => dnaCells a (dnaInTable atoms a))

/-- The view of the DNA of all atoms, or of those with the given id. -/
def dnaView (only : Option String) (atoms : List Atom) : View :=
  match only, chosenBy only atoms with
  | some id, [] => missingView id
  | _, chosen => dnaTable chosen

/-- The cells of an edge. -/
def edgeCells (e : Edge) : List Piece :=
  [.text e.callerId, .text s!"{e.calleeName} ({e.calleeFile})", .number e.callSite,
    if e.binding.failed then .words "error" else .count e.binding.bindings.length,
    .score e.confidence]

/-- The view of edges. -/
def edgesView (edges : List Edge) : View :=
  if edges.isEmpty then .line [.words "[dim]No cross-file edges found.[/dim]"]
  else
    .table [.words "Cross-file edges (", .count edges.length, .words ")"]
      [(.words "Caller", .left), (.words "Callee", .left), (.words "Line", .right),
        (.words "Args", .right), (.words "Confidence", .right)]
      (edges.map edgeCells)

/-- The view of a variable without a journey. -/
def noJourneyView (source : Atom) (var : String) : View :=
  .line ([.words "'", .text var, .words "' "] ++
    if Journey.knowsVariable source var then
      [.words "is used in ", .text source.name, .words " but never passed across files."]
    else [.words "is not a parameter or call argument of ", .text source.name, .words "."])

/-- The views of a journey: a heading, and each hop indented by its depth. -/
def journeyViews (source : Atom) (var : String) (s : JourneySummary) : List View :=
  .line [.words "[bold]", .text var, .words "[/bold] from ", .text source.name, .words ": ",
      .count s.totalSteps, .words " hop(s), ", .count s.uniqueFiles,
      .words " file(s), avg confidence ", .average s.avgConfidence] ::
    s.byDepth.flatMap fun (depth, hops) =>
      hops.map fun hop => .line [.blanks (2 * depth.toNat), .text hop]

/-- The views of what becomes of a variable. -/
def traceViews (atoms : List Atom) (atomId var : String) (maxDepth : Int) : List View :=
  match startOf? atoms atomId with
  | none => [missingView atomId]
  | some source =>
      let steps := Journey.trace (EdgeMap.ofAtoms atoms) (Atom.index atoms) source.id var maxDepth
      if steps.isEmpty then [noJourneyView source var]
      else journeyViews source var (JourneySummary.ofSteps steps)

/-- The view of pairs that may be duplicates. -/
def duplicatesView (found : List Duplicate) : View :=
  if found.isEmpty then .line [.words "[dim]No duplicate candidates found.[/dim]"]
  else
    .table [.words "Duplicate candidates (", .count found.length, .words ")"]
      [(.words "First", .left), (.words "Second", .left), (.words "Similarity", .right)]
      (found.map fun d => [.text d.firstId, .text d.secondId, .score d.similarity])

/-- What a command prints about atoms, in pieces. -/
def views (settings : Settings) (atoms : List Atom) : Command → List View
  | dna _ only _ => [dnaView only atoms]
  | edges _ _ => [edgesView (Edge.all atoms).value]
  | trace _ atomId var maxDepth _ =>
      traceViews atoms atomId var (maxDepth.getD settings.journeyMaxDepth)
  | duplicates _ threshold minScore _ =>
      let filter : Duplicate.Filter :=
        ⟨(threshold.map .real).getD settings.duplicateThreshold,
          minScore.getD settings.minDuplicability⟩
      [duplicatesView (Duplicate.find filter .empty atoms).value.1]

/-! ### What is printed -/

lemma markup_missingView (shown : String → String) (id : String) :
    (missingView id).markup shown = atomNotFound id := by
  simp [missingView, View.markup, Piece.joined, Piece.markup, atomNotFound]

lemma map_markup_edgeCells (shown : String → String) (e : Edge) :
    (edgeCells e).map (Piece.markup shown) = edgeRow e := by
  rw [edgeCells, edgeRow]
  split <;> rfl

lemma printed_runEdges (shown : String → String) (file : String) (atoms : List Atom) :
    (runEdges file false atoms).printed = [(edgesView (Edge.all atoms).value).markup shown] := by
  simp only [runEdges, edgesView, Bool.false_eq_true, if_false]
  split
  · simp [Report.ofPrinted, View.markup, Piece.joined, Piece.markup]
  · simp only [View.markup, Piece.joined_count, List.map_map, Function.comp_def,
      map_markup_edgeCells]
    rfl

lemma printed_runDuplicates (shown : String → String) (file : String) (filter : Duplicate.Filter)
    (atoms : List Atom) :
    (runDuplicates file filter false atoms).printed =
      [(duplicatesView (Duplicate.find filter .empty atoms).value.1).markup shown] := by
  simp only [runDuplicates, duplicatesView, Bool.false_eq_true, if_false]
  split
  · simp [Report.ofPrinted, View.markup, Piece.joined, Piece.markup]
  · simp only [View.markup, Piece.joined_count, List.map_map, Function.comp_def]
    rfl

lemma markup_noJourneyView (shown : String → String) (source : Atom) (var : String) :
    (noJourneyView source var).markup shown = noJourney source var := by
  rw [noJourneyView, noJourney]
  split <;> simp [View.markup, Piece.joined, Piece.markup, String.append_assoc]

lemma map_markup_journeyViews (shown : String → String) (source : Atom) (var : String)
    (s : JourneySummary) :
    (journeyViews source var s).map (View.markup shown) = journeyLines source var s := by
  have hhop (depth : Int) (hop : String) :
      View.markup shown (.line [.blanks (2 * depth.toNat), .text hop]) =
        .line (String.ofList (List.replicate (2 * depth.toNat) ' ') ++ escape hop) := by
    simp [View.markup, Piece.joined, Piece.markup]
  simp only [journeyViews, journeyLines, List.map_cons, List.map_flatMap, List.map_map,
    Function.comp_def, hhop]
  simp only [View.markup, Piece.joined, Piece.markup, List.foldr_cons, List.foldr_nil,
    String.append_empty, String.append_assoc, toString]

lemma printed_runTrace (shown : String → String) (atomId var : String) (maxDepth : Int)
    (atoms : List Atom) :
    (runTrace atomId var maxDepth false atoms).printed =
      (traceViews atoms atomId var maxDepth).map (View.markup shown) := by
  rw [runTrace, traceViews]
  cases startOf? atoms atomId with
  | none => exact congrArg (fun line => [line]) (markup_missingView shown atomId).symm
  | some source =>
      simp only [Bool.false_eq_true, if_false]
      split
      · exact congrArg (fun line => [line]) (markup_noJourneyView shown source var).symm
      · exact (map_markup_journeyViews shown source var _).symm

/-! ### Fingerprints -/

lemma escape_structuralHash (a : Atom) :
    escape (Dna.extract a).structuralHash = (Dna.extract a).structuralHash := by
  have hhex := (Dna.wellMade_extract a).structuralHash.2
  exact escape_eq_self_of_notMem (fun h => absurd (hhex _ h) (by decide))
    fun h => absurd (hhex _ h) (by decide)

lemma map_markup_dnaCells {atoms : List Atom} {a : Atom} (ha : a ∈ atoms) :
    (dnaCells a (dnaInTable atoms a)).map (Piece.markup id) = dnaRow a (dnaInTable atoms a) := by
  obtain ⟨last, -, hlast⟩ := exists_dnaInTable ha
  simp only [dnaCells, dnaRow, List.map_cons, List.map_nil, Piece.markup, hlast,
    escape_structuralHash]
  rfl

lemma markup_dnaTable (atoms : List Atom) :
    (dnaTable atoms).markup id =
      .table
        { title := s!"DNA ({atoms.length} atoms)"
          columns := [("Atom", .left), ("Flow type", .left), ("Fingerprint", .left),
            ("Structural", .left), ("Cx", .right), ("Dup", .right)]
          rows := (withDna (DnaCache.empty.getMany atoms).value.1 atoms).map
            fun (a, d) => dnaRow a d } := by
  have hrows : (atoms.map fun a => dnaCells a (dnaInTable atoms a)).map
      (fun row => row.map (Piece.markup id)) =
      (withDna (DnaCache.empty.getMany atoms).value.1 atoms).map fun (a, d) => dnaRow a d := by
    rw [withDna_getMany, List.map_map, List.map_map]
    exact List.map_congr_left fun a ha => map_markup_dnaCells ha
  simp only [dnaTable, View.markup, Piece.joined_count, hrows]
  rfl

lemma printed_runDna (file : String) (only : Option String) (atoms : List Atom) :
    (runDna file only false atoms).printed = [(dnaView only atoms).markup id] := by
  cases only with
  | none => exact congrArg (fun table => [table]) (markup_dnaTable atoms).symm
  | some wanted =>
      simp only [runDna, dnaView, chosenBy]
      cases atoms.filter fun a => a.id = wanted with
      | nil => exact congrArg (fun line => [line]) (markup_missingView id wanted).symm
      | cons a chosen => exact congrArg (fun table => [table]) (markup_dnaTable (a :: chosen)).symm

/-! ### Fingerprints that bring markup -/

/-- The fingerprint of the atom is the one that an analysis gives, and it has a tag or ends in
exactly one backslash. -/
def BringsMarkup (a : Atom) : Prop :=
  a.dataFlow.isSome = true ∧
    ∃ m verb, a.semantic = some m ∧ m.verb = some verb ∧ verb ≠ "" ∧ verb ≠ "unknown" ∧
      let given := Dna.fingerprintText verb (givenOr m.domain "core") (givenOr m.entity "unknown")
      HasTag given.toList ∨ endsInOneBackslash given.toList = true

lemma escape_inferredFingerprint (a : Atom) (flow : FlowType) :
    escape (Dna.inferredFingerprint a flow) = Dna.inferredFingerprint a flow := by
  have hplain := Dna.isBody_or_colon_of_mem_inferredFingerprint a flow
  refine escape_eq_self_of_notMem (fun h => ?_) fun h => ?_
  · rcases hplain _ h with h | h <;> exact absurd h (by decide)
  · rcases hplain _ h with h | h <;> exact absurd h (by decide)

lemma escape_fingerprint_eq_self_iff {a : Atom} (hflow : a.dataFlow.isSome = true)
    (flow : FlowType) :
    escape (Dna.fingerprint a flow) = Dna.fingerprint a flow ↔ ¬BringsMarkup a := by
  rcases Dna.fingerprint_cases a flow with ⟨m, verb, hm, hverb, hempty, hunknown, hgiven⟩ |
    ⟨hunnamed, hinferred⟩
  · rw [hgiven, escape_eq_self_iff, ← Bool.not_eq_true, ← not_or, not_iff_not]
    constructor
    · intro hmarkup
      exact ⟨hflow, m, verb, hm, hverb, hempty, hunknown, hmarkup⟩
    · rintro ⟨-, m', verb', hm', hverb', -, -, hmarkup⟩
      obtain rfl := Option.some.inj (hm.symm.trans hm')
      obtain rfl := Option.some.inj (hverb.symm.trans hverb')
      exact hmarkup
  · rw [hinferred]
    refine iff_of_true (escape_inferredFingerprint a flow) ?_
    rintro ⟨-, m, verb, hm, hverb, hempty, hunknown, -⟩
    exact hunknown (hunnamed m verb hm hverb hempty)

lemma escape_extract_eq_self_iff (a : Atom) :
    escape (Dna.extract a).semanticFingerprint = (Dna.extract a).semanticFingerprint ↔
      ¬BringsMarkup a := by
  cases hflow : a.dataFlow with
  | none =>
      have hblank : escape Dna.blankFingerprint = Dna.blankFingerprint :=
        escape_eq_self_of_notMem (by decide) (by decide)
      rw [Dna.extract, hflow]
      refine iff_of_true hblank fun h => ?_
      rw [BringsMarkup, hflow] at h
      exact Bool.noConfusion h.1
  | some d =>
      have hfingerprint : (Dna.extract a).semanticFingerprint =
          Dna.fingerprint a (FlowType.classify d) := by
        rw [Dna.extract, hflow]
        rfl
      rw [hfingerprint]
      exact escape_fingerprint_eq_self_iff (by rw [hflow, Option.isSome_some]) _

/-- The table of DNAs is as it should be exactly if none of its fingerprints needs an escape. -/
lemma markup_dnaTable_eq_iff (atoms : List Atom) :
    (dnaTable atoms).markup id = (dnaTable atoms).markup escape ↔
      ∀ a ∈ atoms, escape (dnaInTable atoms a).semanticFingerprint =
        (dnaInTable atoms a).semanticFingerprint := by
  simp [dnaTable, View.markup, Piece.joined, Piece.markup, dnaCells, eq_comm]

lemma fingerprints_plain_iff (atoms : List Atom) :
    (∀ a ∈ atoms, escape (dnaInTable atoms a).semanticFingerprint =
        (dnaInTable atoms a).semanticFingerprint) ↔
      ∀ a, IsLast atoms a.id a → ¬BringsMarkup a := by
  constructor
  · intro hplain last hlast
    obtain ⟨front, back, hsplit, -⟩ := id hlast
    have hmem : last ∈ atoms := hsplit ▸ List.mem_append_right front List.mem_cons_self
    have hfingerprint := hplain last hmem
    rwa [hlast.dnaInTable_eq, escape_extract_eq_self_iff] at hfingerprint
  · intro hclean a ha
    obtain ⟨last, hlast, hdna⟩ := exists_dnaInTable ha
    obtain ⟨-, -, -, hid, -⟩ := id hlast
    rw [hdna, escape_extract_eq_self_iff]
    exact hclean last (hid.symm ▸ hlast)

/-! ### All commands -/

/-- Whether a command gives data in place of a display. -/
def givesData : Command → Bool
  | dna _ _ json => json
  | edges _ json => json
  | trace _ _ _ _ json => json
  | duplicates _ _ _ json => json

/-- The atoms whose fingerprints a command displays. -/
def fingerprinted (atoms : List Atom) : Command → List Atom
  | dna _ only _ => chosenBy only atoms
  | _ => []

lemma not_isLast_nil {id : String} {a : Atom} : ¬IsLast [] id a := by
  rintro ⟨front, back, hsplit, -⟩
  simp at hsplit

lemma markup_dnaView_eq_iff (only : Option String) (atoms : List Atom) :
    (dnaView only atoms).markup id = (dnaView only atoms).markup escape ↔
      ∀ a, IsLast (chosenBy only atoms) a.id a → ¬BringsMarkup a := by
  unfold dnaView
  split
  · next hchosen =>
      rw [hchosen, markup_missingView, markup_missingView]
      exact iff_of_true rfl fun a ha => absurd ha not_isLast_nil
  · rw [markup_dnaTable_eq_iff, fingerprints_plain_iff]

/-- **Text is escaped, but for the fingerprints.**  A command that displays prints its views, in
which the text from the atoms and the command line is escaped and the fingerprints are left as they
are.  That is the same as with the fingerprints escaped exactly if no atom that is the last of its
id brings markup.  The console shows an escaped text as it is, with one more backslash if it ends in
exactly one. -/
theorem text_escaped_unless_fingerprint (settings : Settings) (command : Command)
    (atoms : List Atom) (hdisplay : command.givesData = false) :
    (run settings command (.ok atoms)).printed =
      (command.views settings atoms).map (View.markup id) ∧
    ((run settings command (.ok atoms)).printed =
        (command.views settings atoms).map (View.markup escape) ↔
      ∀ a, IsLast (command.fingerprinted atoms) a.id a → ¬BringsMarkup a) ∧
    ∀ s, plain (escape s) = if endsInOneBackslash s.toList then s ++ "\\" else s := by
  -- the other commands print the same whatever becomes of fingerprints, since they have none
  have hnone (a : Atom) (ha : IsLast [] a.id a) : ¬BringsMarkup a := absurd ha not_isLast_nil
  rw [← and_assoc]
  refine ⟨?_, plain_escape⟩
  cases command with
  | dna file only json =>
      obtain rfl : json = false := hdisplay
      refine ⟨printed_runDna file only atoms, ?_⟩
      rw [show (run settings (.dna file only false) (.ok atoms)).printed = _ from
        printed_runDna file only atoms]
      simpa [views, fingerprinted] using markup_dnaView_eq_iff only atoms
  | edges file json =>
      obtain rfl : json = false := hdisplay
      exact ⟨printed_runEdges id file atoms,
        iff_of_true (printed_runEdges escape file atoms) hnone⟩
  | trace file atomId var maxDepth json =>
      obtain rfl : json = false := hdisplay
      exact ⟨printed_runTrace id atomId var _ atoms,
        iff_of_true (printed_runTrace escape atomId var _ atoms) hnone⟩
  | duplicates file threshold minScore json =>
      obtain rfl : json = false := hdisplay
      exact ⟨printed_runDuplicates id file _ atoms,
        iff_of_true (printed_runDuplicates escape file _ atoms) hnone⟩

/-- An analysis that names a tag as its verb breaks the table. -/
theorem text_escaped_unless_fingerprint_tag :
    givesData (.dna "atoms.json" none false) = false ∧
    (run (.standard (.ofText "")) (.dna "atoms.json" none false)
        (.ok [Dna.analysedAtom "[/x]"])).printed ≠
      (views (.standard (.ofText "")) [Dna.analysedAtom "[/x]"]
        (.dna "atoms.json" none false)).map (View.markup escape) := by
  have hmarkup : BringsMarkup (Dna.analysedAtom "[/x]") :=
    ⟨rfl, _, "[/x]", rfl, rfl, by decide, by decide,
      Or.inl ⟨[], '/', ['x'], ":core:unknown".toList, by decide, by decide, by simp, by simp⟩⟩
  refine ⟨rfl, fun hescaped => ?_⟩
  exact (text_escaped_unless_fingerprint _ (.dna "atoms.json" none false) _ rfl).2.1.1 hescaped
    (Dna.analysedAtom "[/x]") ⟨[], [], rfl, rfl, by simp⟩ hmarkup

/-- The tag stands in the table as it came, and the console does not show it. -/
theorem tag_reaches_console :
    ∃ table row,
      (run (.standard (.ofText "")) (.dna "atoms.json" none false)
        (.ok [Dna.analysedAtom "[/x]"])).printed = [.table table] ∧
      table.rows = [row] ∧ row[2]? = some "[/x]:core:unknown" ∧
      escape "[/x]:core:unknown" = "\\[/x]:core:unknown" ∧
      plain "[/x]:core:unknown" = ":core:unknown" := by
  have hlast : IsLast [Dna.analysedAtom "[/x]"] "f" (Dna.analysedAtom "[/x]") :=
    ⟨[], [], rfl, rfl, by simp⟩
  refine ⟨_, _, printed_runDna "atoms.json" none [Dna.analysedAtom "[/x]"], rfl, ?_, ?_, ?_⟩
  · show some (dnaInTable [Dna.analysedAtom "[/x]"] (Dna.analysedAtom "[/x]")).semanticFingerprint
      = some "[/x]:core:unknown"
    rw [hlast.dnaInTable_eq]
    rfl
  · decide
  · decide

end Lineage.Command
