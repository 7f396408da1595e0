/-
Which declaration a returned value is assigned by.

The binding of a call's result is looked for in the text from the line of the call on.  A place of
that text is a place of the whole code, behind as many line feeds as there are lines left out; so
the search finds the first declaration that begins on the line of the call or on a later one
(`resultBinding?_eq_some_iff_line`).  It belongs to the line of the call only if a declaration
begins there; else it is taken from a later line, and the line with its name counts as a use of it
(`exists_usage_nameLine_iff`).  The main statement is `assigned_by_first_declaration`.
-/
import Mathlib.Data.Nat.Find
import Lineage.Proofs.Binding.ReturnUse
import Lineage.Proofs.Schema.RoundTrip
import Lineage.Proofs.Source.Declaration
import Lineage.Proofs.Text.Lines

namespace Lineage.Source

open Text

/-! ### The lines of a declaration -/

namespace Declaration

variable {callee text : List Char}

/-- The line on which a declaration begins: the number of line feeds before it. -/
def line (d : Declaration callee text) : Nat := d.before.count '\n'

/-- The line on which the declared name stands. -/
def nameLine (d : Declaration callee text) : Nat := (d.before ++ d.opening).count '\n'

/-- No other declaration that begins on line `k` or later begins before this one. -/
structure IsFirstFromLine (k : Nat) (d : Declaration callee text) : Prop where
  le : k ≤ d.line
  least : ∀ d' : Declaration callee text, k ≤ d'.line → d.position ≤ d'.position

lemma before_prefix (d : Declaration callee text) : d.before <+: text :=
  ⟨_, d.split.symm⟩

lemma line_eq_count (d : Declaration callee text) :
    d.line = (text.take d.position).count '\n' := by
  rw [position, ← List.prefix_iff_eq_take.1 d.before_prefix, line]

lemma line_le_line {d d' : Declaration callee text} (h : d.position ≤ d'.position) :
    d.line ≤ d'.line :=
  (List.prefix_of_prefix_length_le d.before_prefix d'.before_prefix h).sublist.count_le '\n'

lemma line_lt_length {all : List (List Char)} (hall : AreLines all)
    (d : Declaration callee (joinLines all)) : d.line < all.length := by
  have hne : all ≠ [] := by
    rintro rfl
    exact Nat.not_lt_zero _ d.position_lt_length
  obtain ⟨left, -, hline⟩ := exists_line_at hall hne d.split
  exact (List.getElem?_eq_some_iff.1 hline).1

/-- A declaration begins on line `k` or later exactly if it lies behind the first `k` lines. -/
lemma le_line_iff {all : List (List Char)} (hall : AreLines all) {k : Nat} (hk : k < all.length)
    (d : Declaration callee (joinLines all)) :
    k ≤ d.line ↔ (leading k all).length ≤ d.position := by
  have hlead : leading k all <+: joinLines all := ⟨_, (joinLines_eq_leading_append hk).symm⟩
  rw [position, length_le_iff_count_le hlead d.before_prefix (leading_eq_nil_or k all),
    count_leading hall hk.le, line]

lemma isFirstFromLine_iff {all : List (List Char)} (hall : AreLines all) {k : Nat}
    (hk : k < all.length) {d : Declaration callee (joinLines all)} :
    d.IsFirstFromLine k ↔ d.IsFirstFrom (leading k all).length := by
  constructor
  · rintro ⟨hle, hleast⟩
    exact ⟨(d.le_line_iff hall hk).1 hle, fun d' h => hleast d' ((d'.le_line_iff hall hk).2 h)⟩
  · rintro ⟨hle, hleast⟩
    exact ⟨(d.le_line_iff hall hk).2 hle, fun d' h => hleast d' ((d'.le_line_iff hall hk).1 h)⟩

lemma exists_isFirstFromLine {k : Nat} {d : Declaration callee text} (h : k ≤ d.line) :
    ∃ first : Declaration callee text, first.IsFirstFromLine k := by
  classical
  have hex : ∃ n, ∃ d : Declaration callee text, k ≤ d.line ∧ d.position = n := ⟨_, d, h, rfl⟩
  obtain ⟨first, hle, hposition⟩ := Nat.find_spec hex
  exact ⟨first, hle, fun d' h' => hposition ▸ Nat.find_min' hex ⟨d', h', rfl⟩⟩

/-- The first declaration from a line on begins on that line exactly if any does. -/
lemma IsFirstFromLine.line_eq_iff {k : Nat} {d : Declaration callee text}
    (h : d.IsFirstFromLine k) : d.line = k ↔ ∃ d' : Declaration callee text, d'.line = k := by
  refine ⟨fun hline => ⟨d, hline⟩, ?_⟩
  rintro ⟨d', rfl⟩
  exact Nat.le_antisymm (line_le_line (h.least d' le_rfl)) h.le

end Declaration

/-! ### The search from a line on -/

/-- Behind a character that belongs to no word, the search is as at the beginning of a text. -/
lemma firstDeclaration?_of_not_isWord {callee : List Char} {previous : Option Char}
    (h : previous.any isWord = false) (cs : List Char) :
    firstDeclaration? callee previous cs = firstDeclaration? callee none cs := by
  cases cs with
  | nil => rfl
  | cons c cs => rw [firstDeclaration?_cons, firstDeclaration?_cons, h, Option.any_none]

lemma getLast?_leading_any_isWord (k : Nat) (all : List (List Char)) :
    (leading k all).getLast?.any isWord = false := by
  rcases leading_eq_nil_or k all with hnil | ⟨init, hinit⟩
  · rw [hnil]
    rfl
  · rw [hinit, List.getLast?_concat]
    decide +kernel

/-- The search from a line on finds the first declaration of the whole source that begins on that
line or later. -/
lemma resultBinding?_eq_some_iff_line {source callee : String} (hcallee : callee ≠ "") {k : Nat}
    {name : String} :
    resultBinding? source callee k = some name ↔
      ∃ d : Declaration callee.toList (joinLines (lines source.toList)),
        d.IsFirstFromLine k ∧ d.name = name.toList := by
  have hall := areLines_lines source.toList
  rw [resultBinding?_eq_map hcallee]
  by_cases hk : k < (lines source.toList).length
  · rw [← firstDeclaration?_of_not_isWord (getLast?_leading_any_isWord k (lines source.toList))]
    simp only [Option.map_eq_some_iff, Declaration.isFirstFromLine_iff hall hk,
      firstDeclaration?_eq_some_iff (joinLines_eq_leading_append hk)]
    constructor
    · rintro ⟨_, ⟨d, hfirst, rfl⟩, rfl⟩
      exact ⟨d, hfirst, String.toList_ofList.symm⟩
    · rintro ⟨d, hfirst, hname⟩
      exact ⟨d.name, ⟨d, hfirst, rfl⟩, by rw [hname, String.ofList_toList]⟩
  · -- no line is left to search, and no declaration begins behind the last line
    rw [List.drop_eq_nil_of_le (Nat.le_of_not_lt hk)]
    refine iff_of_false (by simp [joinLines, join, firstDeclaration?]) ?_
    rintro ⟨d, hfirst, -⟩
    exact hk (hfirst.le.trans_lt (d.line_lt_length hall))

/-! ### The declared name as a use -/

lemma isEdge_eq (neighbour : Option Char) : isEdge neighbour = !neighbour.any isNameChar := by
  cases neighbour <;> rfl

/-- What opens a declaration ends with a blank, so no name reaches into it. -/
lemma IsOpening.getLast?_any_isNameChar {opening : List Char} (h : IsOpening opening)
    (before : List Char) : (before ++ opening).getLast?.any isNameChar = false := by
  obtain ⟨word, -, gap, hne, hgap, rfl⟩ := h
  obtain ⟨init, last, rfl⟩ := (List.eq_nil_or_concat gap).resolve_left hne
  rw [List.concat_eq_append, ← List.append_assoc, ← List.append_assoc, List.getLast?_concat]
  exact isNameChar_of_isBlank (hgap last (by simp))

lemma IsName.feed_notMem {name : List Char} (h : IsName name) : '\n' ∉ name := by
  obtain ⟨first, others, hfirst, hothers, rfl⟩ := h
  rw [List.mem_cons, not_or]
  constructor
  · rintro rfl
    exact absurd hfirst (by decide)
  · intro hmem
    exact absurd (hothers '\n' hmem) (by decide +kernel)

/-- The line with the declared name mentions it. -/
lemma Declaration.exists_mentioning_line {callee : List Char} {all : List (List Char)}
    (hall : AreLines all) (d : Declaration callee (joinLines all)) :
    ∃ line, all[d.nameLine]? = some line ∧ mentions d.name line = true := by
  have hne : all ≠ [] := by
    rintro rfl
    exact Nat.not_lt_zero _ d.position_lt_length
  have hsplit : joinLines all = (d.before ++ d.opening) ++ (d.name ++ d.tail) := by
    rw [List.append_assoc, ← d.split]
  obtain ⟨left, hleft, hline⟩ := exists_line_at hall hne hsplit
  have hname : ∀ c ∈ d.name, decide (c ≠ '\n') = true := fun c hc =>
    decide_eq_true fun heq => d.named.feed_notMem (heq ▸ hc)
  refine ⟨_, hline, mentions_iff.2 ⟨left, d.tail.takeWhile (· ≠ '\n'), ?_, ?_, ?_⟩⟩
  · -- at the beginning of the line, or behind the blank that the opening ends with
    have hlast := d.opens.getLast?_any_isNameChar d.before
    rw [List.nil_append, isEdge_eq]
    rcases List.eq_nil_or_concat left with rfl | ⟨init, last, rfl⟩
    · rfl
    · obtain ⟨skipped, hskipped⟩ := hleft
      rw [← hskipped, List.concat_eq_append, ← List.append_assoc, List.getLast?_concat] at hlast
      rw [List.concat_eq_append, List.getLast?_concat, hlast, Bool.not_false]
  · have hhead := d.binds.head?_any_isNameChar
    rw [isEdge_eq]
    cases htail : d.tail with
    | nil => rfl
    | cons c rest =>
        rw [htail] at hhead
        by_cases hc : c = '\n'
        · simp [hc]
        · simpa [List.takeWhile_cons, hc] using hhead
  · rw [List.takeWhile_append_of_pos hname]

/-- The line with the declared name is among the lines that use the name exactly if it comes behind
the line after which they are looked for. -/
lemma Declaration.exists_usage_nameLine_iff {source : String} {callee : List Char} {last : Int}
    {name : String} (d : Declaration callee (joinLines (lines source.toList)))
    (hname : d.name = name.toList) :
    (∃ text, (d.nameLine, text) ∈ usagesAfter source name last) ↔ last < d.nameLine := by
  obtain ⟨line, hline, hmentions⟩ := d.exists_mentioning_line (areLines_lines source.toList)
  simp only [mem_usagesAfter_iff]
  constructor
  · rintro ⟨text, hlast, -⟩
    exact hlast
  · intro hlast
    exact ⟨_, hlast, line, hline, hname ▸ hmentions, rfl⟩

end Lineage.Source

namespace Lineage.ReturnUse

open Source Text

/-! ### Assignments -/

/-- A declaration in the code of the caller that binds the result of the callee. -/
abbrev ResultDeclaration (caller callee : Atom) : Type :=
  Declaration callee.name.toList (joinLines (lines caller.code.toList))

lemma ne_empty_of_resultBinding? {source callee name : String} {start : Int}
    (h : resultBinding? source callee start = some name) : callee ≠ "" := by
  rintro rfl
  simp [resultBinding?] at h

lemma track_eq_assigned_iff {caller callee : Atom} {call : CallSite} {name : String}
    {usages : List (Int × String)} :
    track caller callee call = assigned name usages ↔
      callee.dataFlow.any DataFlow.hasReturn = true ∧
        resultBinding? caller.code callee.name (callOffset caller call) = some name ∧
        usages = usesBelow caller call name := by
  rcases track_cases caller callee call with
    ⟨hreturn, h⟩ | ⟨hreturn, found, hfound, h⟩ | ⟨hnone, h | h⟩
  · simp [h, hreturn]
  · rw [h, hfound, assigned.injEq, Option.some.injEq, and_iff_right hreturn]
    constructor
    · rintro ⟨rfl, rfl⟩
      exact ⟨rfl, rfl⟩
    · rintro ⟨rfl, rfl⟩
      exact ⟨rfl, rfl⟩
  · simp [h, hnone]
  · simp [h, hnone]

lemma track_eq_assigned_iff_first {caller callee : Atom} {call : CallSite} {k : Nat}
    (hk : callOffset caller call = k) {name : String} {usages : List (Int × String)} :
    track caller callee call = assigned name usages ↔
      callee.dataFlow.any DataFlow.hasReturn = true ∧ callee.name ≠ "" ∧
        (∃ d : ResultDeclaration caller callee, d.IsFirstFromLine k ∧ d.name = name.toList) ∧
        usages = usesBelow caller call name := by
  rw [track_eq_assigned_iff, hk]
  constructor
  · rintro ⟨hreturn, hfound, husages⟩
    have hcallee := ne_empty_of_resultBinding? hfound
    exact ⟨hreturn, hcallee, (resultBinding?_eq_some_iff_line hcallee).1 hfound, husages⟩
  · rintro ⟨hreturn, hcallee, hfirst, husages⟩
    exact ⟨hreturn, (resultBinding?_eq_some_iff_line hcallee).2 hfirst, husages⟩

/-- The declaration that a result is assigned by: the first one of the caller that begins on the
line of the call or later. -/
structure AssignedBy (caller callee : Atom) (call : CallSite)
    (d : ResultDeclaration caller callee) : Prop where
  le : call.line ≤ caller.line + d.line
  least : ∀ d' : ResultDeclaration caller callee, call.line ≤ caller.line + d'.line →
    d.position ≤ d'.position

/-- **Where the binding of a result comes from.**  Let a call be on the first line of its caller or
below it.  Its result is assigned exactly if the callee returns something and has a name, and some
declaration that binds its result begins on the line of the call or later.  The first of these gives
the name.  It begins on the line of the call exactly if any of them does; and the line with the
declared name is itself among the uses exactly if it comes below the call. -/
theorem assigned_by_first_declaration (caller callee : Atom) (call : CallSite)
    (hline : caller.line ≤ call.line) :
    ((∃ name usages, track caller callee call = assigned name usages) ↔
      callee.dataFlow.any DataFlow.hasReturn = true ∧ callee.name ≠ "" ∧
        ∃ d : ResultDeclaration caller callee, call.line ≤ caller.line + d.line) ∧
    ∀ name usages, track caller callee call = assigned name usages →
      ∃ d : ResultDeclaration caller callee,
        AssignedBy caller callee call d ∧ d.name = name.toList ∧
        (caller.line + d.line = call.line ↔
          ∃ d' : ResultDeclaration caller callee, caller.line + d'.line = call.line) ∧
        ((∃ text, (caller.line + d.nameLine, text) ∈ usages) ↔
          call.line < caller.line + d.nameLine) := by
  obtain ⟨k, hcall⟩ : ∃ k : Nat, call.line = caller.line + k :=
    ⟨(call.line - caller.line).toNat, by omega⟩
  have hk : callOffset caller call = k := by
    rw [callOffset]
    omega
  -- lines counted in the file, and counted from the first line of the caller
  have hle (n : Nat) : call.line ≤ caller.line + n ↔ k ≤ n := by omega
  have heq (n : Nat) : caller.line + n = call.line ↔ n = k := by omega
  have hlt (n : Nat) : call.line < caller.line + n ↔ (k : Int) < n := by omega
  simp only [track_eq_assigned_iff_first hk, hle, heq, hlt]
  constructor
  · constructor
    · rintro ⟨name, usages, hreturn, hcallee, ⟨d, hfirst, -⟩, -⟩
      exact ⟨hreturn, hcallee, d, hfirst.le⟩
    · rintro ⟨hreturn, hcallee, d, hd⟩
      obtain ⟨first, hfirst⟩ := Declaration.exists_isFirstFromLine hd
      exact ⟨String.ofList first.name, _, hreturn, hcallee,
        ⟨first, hfirst, String.toList_ofList.symm⟩, rfl⟩
  · rintro name usages ⟨-, -, ⟨d, hfirst, hname⟩, rfl⟩
    refine ⟨d, ⟨(hle _).2 hfirst.le, fun d' h' => hfirst.least d' ((hle _).1 h')⟩, hname,
      hfirst.line_eq_iff, ?_⟩
    simp only [mem_usesBelow_iff, hk]
    exact d.exists_usage_nameLine_iff hname

/-- A function that returns something. -/
def saver : Atom :=
  { Atom.ofRequired "lib.js::save" "save" "lib.js" with
    dataFlow := some ⟨[], [.returned ⟨.none, .none⟩], []⟩ }

/-- A caller that saves twice, and keeps the second result only. -/
def keeper : Atom :=
  { Atom.ofRequired "app.js::run" "run" "app.js" with
    code := "save(x);\nconst second = save(y);" }

/-- A call of the function on the given line. -/
def saveOn (line : Int) : CallSite := ⟨"save", line, .none⟩

/-- The result of the second call is assigned on the line of the call, and not used. -/
theorem assigned_by_first_declaration_keeper :
    keeper.line ≤ (saveOn 2).line ∧ track keeper saver (saveOn 2) = assigned "second" [] ∧
      ∃ d : ResultDeclaration keeper saver,
        AssignedBy keeper saver (saveOn 2) d ∧ d.name = "second".toList := by
  have hline : keeper.line ≤ (saveOn 2).line := by decide
  have htrack : track keeper saver (saveOn 2) = assigned "second" [] := by decide +kernel
  obtain ⟨d, hassigned, hname, -⟩ :=
    (assigned_by_first_declaration keeper saver (saveOn 2) hline).2 _ _ htrack
  exact ⟨hline, htrack, d, hassigned, hname⟩

/-- The first call takes the binding of the second one: it is said to be assigned to a name whose
only declaration begins on the line below, and that line counts as a use. -/
theorem later_binding_taken :
    keeper.line ≤ (saveOn 1).line ∧
      track keeper saver (saveOn 1) = assigned "second" [(2, "const second = save(y);")] ∧
      ∀ d : ResultDeclaration keeper saver, keeper.line + d.line = 2 := by
  refine ⟨by decide, by decide +kernel, fun d => ?_⟩
  have hread : ∀ n < (joinLines (lines keeper.code.toList)).length,
      (declarationAt? saver.name.toList ((joinLines (lines keeper.code.toList)).drop n)).isSome →
        ((joinLines (lines keeper.code.toList)).take n).count '\n' = 1 := by
    decide +kernel
  have hline : d.line = 1 := by
    rw [d.line_eq_count]
    exact hread d.position d.position_lt_length (Option.isSome_of_eq_some d.declarationAt?_drop)
  rw [hline]
  rfl

end Lineage.ReturnUse
