import Mathlib.Data.List.Basic
import ReleasePilot.Changelog.Section
import ReleasePilot.Proofs.Text.Lines
import ReleasePilot.Proofs.Text.Runs

/-!
# What inserting a section does

A changelog is cut in two where its first section begins, and the new section
stands between the parts (`insert_eq_ok_iff`). Both what stops an insertion and
where the cut is depend on nothing but the bare contents of the lines, of which
`bareLines_of_insert` gives an account.
-/

namespace ReleasePilot.Changelog

/-- The characters that may end a line. -/
def isBreak (character : Char) : Bool :=
  character == '\r' || character == '\n'

/-- Text without blanks has nothing at its end that could end a line. -/
theorem trimEnd_isBreak_eq_self {text : List Char}
    (solid : ∀ character ∈ text, Text.isBlank character = false) :
    Text.trimEnd isBreak text = text := by
  apply Text.trimEnd_eq_self
  intro character last
  have notBlank := solid character (List.mem_of_mem_getLast? last)
  cases ends : isBreak character with
  | false => rfl
  | true =>
    simp only [isBreak, Bool.or_eq_true, beq_iff_eq] at ends
    rcases ends with rfl | rfl <;> exact absurd notBlank (by decide)

/-- Three dashes or more, with nothing but blanks behind them. -/
def isDashes (content : List Char) : Bool :=
  3 ≤ (content.takeWhile (· == '-')).length && (content.dropWhile (· == '-')).all Text.isBlank

/-- The bare contents of the lines of a changelog. -/
def bareLines (contents : String) : List (List Char) :=
  (Line.split contents.toList).map bareContent

/-- Whether a terminator is one or is not there makes no difference to what a
line holds. -/
theorem bareContent_eq_trimEnd_text (line : Line) :
    bareContent line = Text.trimEnd isBreak line.text := by
  obtain ⟨content, ending⟩ := line
  change Text.trimEnd isBreak content = _
  cases ending <;> simp [Line.text, LineEnding.text, Text.trimEnd, isBreak]

/-- A section goes between `above` and `below`: the first underline stands in
`below` and has two lines over it there. -/
structure InsertionPoint (above below : List (List Char)) : Prop where
  noneAbove : ∀ content ∈ above, isDashes content = false
  opening : ∃ blank header underline rest, below = blank :: header :: underline :: rest ∧
    isDashes blank = false ∧ isDashes header = false ∧ isDashes underline = true

theorem InsertionPoint.below_ne_nil {above below : List (List Char)}
    (point : InsertionPoint above below) : below ≠ [] := by
  obtain ⟨blank, header, underline, rest, rfl, -⟩ := point.opening
  exact List.cons_ne_nil _ _

/-- The terminator of new lines above some others, which is that of the
underline among these. -/
def endingAbove (below : List Line) : LineEnding :=
  match (below[2]? : Option Line) with
  | some ⟨_, .returnNewline⟩ => .returnNewline
  | _ => .newline

/-- New lines never stay unterminated. -/
theorem endingAbove_ne_unterminated (below : List Line) :
    endingAbove below ≠ .unterminated := by
  unfold endingAbove
  split <;> exact nofun

/-- The first line that passes a test is the end of those that fail it. -/
theorem findIdx?_eq_some_iff_append {α : Type} {test : α → Bool} {lines : List α} {index : Nat} :
    lines.findIdx? test = some index ↔
      ∃ before found after, lines = before ++ found :: after ∧ before.length = index ∧
        (∀ line ∈ before, test line = false) ∧ test found = true := by
  constructor
  · intro first
    obtain ⟨bound, passes, earlier⟩ := List.findIdx?_eq_some_iff_getElem.1 first
    refine ⟨lines.take index, lines[index], lines.drop (index + 1), ?_, ?_, ?_, passes⟩
    · rw [List.getElem_cons_drop, List.take_append_drop]
    · rw [List.length_take, Nat.min_eq_left (Nat.le_of_lt bound)]
    · intro line member
      obtain ⟨position, inside, rfl⟩ := List.mem_iff_getElem.1 member
      rw [List.length_take] at inside
      rw [List.getElem_take]
      simpa using earlier position (by omega)
  · rintro ⟨before, found, after, rfl, rfl, earlier, passes⟩
    have absent : before.findIdx? test = none := List.findIdx?_eq_none_iff.2 earlier
    rw [List.findIdx?_append, absent, List.findIdx?_cons, passes]
    simp

/-- Where a section can be inserted, as the search for an underline finds it. -/
theorem findIdx?_isUnderline_iff {lines : List Line} {index : Nat} :
    (lines.findIdx? isUnderline = some index ∧ 2 ≤ index) ↔
      ∃ above below, lines = above ++ below ∧ index = above.length + 2 ∧
        InsertionPoint (above.map bareContent) (below.map bareContent) := by
  rw [findIdx?_eq_some_iff_append]
  constructor
  · rintro ⟨⟨before, underline, after, rfl, rfl, earlier, passes⟩, room⟩
    have cut := List.take_append_drop (before.length - 2) before
    obtain ⟨blank, header, pair⟩ : ∃ blank header, before.drop (before.length - 2) =
        [blank, header] := by
      apply List.length_eq_two.1
      rw [List.length_drop]
      omega
    rw [pair] at cut
    refine ⟨before.take (before.length - 2), blank :: header :: underline :: after, ?_, ?_, ?_⟩
    · calc before ++ underline :: after
          = (before.take (before.length - 2) ++ [blank, header]) ++
            underline :: after := by rw [cut]
        _ = _ := by simp
    · rw [List.length_take]
      omega
    · rw [← cut] at earlier
      refine ⟨fun content member => ?_, _, _, _, _, rfl, ?_, ?_, passes⟩
      · obtain ⟨line, inside, rfl⟩ := List.mem_map.1 member
        exact earlier line (List.mem_append_left _ inside)
      · exact earlier blank (by simp)
      · exact earlier header (by simp)
  · rintro ⟨above, below, rfl, rfl, noneAbove, blank, header, underline, rest, opening,
      plainBlank, plainHeader, dashes⟩
    match below, opening with
    | blankLine :: headerLine :: underlineLine :: others, opening =>
      simp only [List.map_cons, List.cons.injEq] at opening
      obtain ⟨rfl, rfl, rfl, -⟩ := opening
      refine ⟨⟨above ++ [blankLine, headerLine], underlineLine, others, by simp, by simp, ?_,
        dashes⟩, by omega⟩
      intro line member
      simp only [List.mem_append, List.mem_cons, List.not_mem_nil, or_false] at member
      rcases member with inside | rfl | rfl
      · exact noneAbove _ (List.mem_map_of_mem inside)
      · exact plainBlank
      · exact plainHeader

/-- The underline stands two lines behind the cut. -/
theorem getElem?_underline (above below : List Line) :
    (above ++ below)[above.length + 2]? = below[2]? := by
  rw [List.getElem?_append_right (Nat.le_add_right _ _), Nat.add_sub_cancel_left]

/-- The text of a section that is inserted above some lines. -/
def insertedText (entry : Section) (below : List Line) : List Char :=
  Line.join (entry.lines (endingAbove below))

/-- An insertion succeeds if no line is the header yet and there is a place for
the section, where it is then put. -/
theorem insert_eq_ok_iff {path contents result : String} {entry : Section} :
    insert path entry contents = .ok result ↔
      entry.header.toList ∉ bareLines contents ∧
      ∃ above below, Line.split contents.toList = above ++ below ∧
        InsertionPoint (above.map bareContent) (below.map bareContent) ∧
        result =
          String.ofList (Line.join above ++ insertedText entry below ++ Line.join below) := by
  have fresh : ((Line.split contents.toList).any fun line =>
      bareContent line == entry.header.toList) = true ↔
      entry.header.toList ∈ bareLines contents := by
    simp [bareLines]
  constructor
  · intro inserted
    unfold insert insertLines at inserted
    split at inserted
    · cases inserted
    · rename_i unused
      refine ⟨mt fresh.2 unused, ?_⟩
      split at inserted
      · cases inserted
      · rename_i index found
        split at inserted
        · cases inserted
        · rename_i room
          obtain ⟨above, below, lines, rfl, point⟩ :=
            findIdx?_isUnderline_iff.1 ⟨found, Nat.le_of_not_lt room⟩
          refine ⟨above, below, lines, point, ?_⟩
          have underline := getElem?_underline above below
          rw [lines] at inserted
          simp only [Nat.add_sub_cancel, List.take_left, List.drop_left, underline, Except.map,
            Except.ok.injEq] at inserted
          rw [← inserted, Line.join_append, Line.join_append]
          rfl
  · rintro ⟨unused, above, below, lines, point, rfl⟩
    obtain ⟨found, -⟩ := findIdx?_isUnderline_iff.2 ⟨above, below, lines, rfl, point⟩
    unfold insert insertLines
    rw [if_neg (mt fresh.1 unused), found, lines]
    simp only [Nat.add_sub_cancel, List.take_left, List.drop_left, getElem?_underline,
      Except.map, Nat.not_lt.2 (Nat.le_add_left 2 _), if_false]
    rw [Line.join_append, Line.join_append]
    rfl

/-! ## The lines afterwards -/

/-- The bare contents of the lines that a section adds. -/
def insertedLines (entry : Section) (below : List Line) : List (List Char) :=
  (Line.split (insertedText entry below)).map bareContent

theorem ending_of_mem_lines {entry : Section} {ending : LineEnding} {line : Line}
    (member : line ∈ entry.lines ending) : line.ending = ending := by
  obtain ⟨content, -, rfl⟩ := List.mem_map.1 member
  rfl

theorem terminated_of_mem_lines {entry : Section} {below : List Line} :
    ∀ line ∈ entry.lines (endingAbove below), line.ending ≠ .unterminated := by
  intro line member
  rw [ending_of_mem_lines member]
  exact endingAbove_ne_unterminated below

theorem endsLine_insertedText (entry : Section) (below : List Line) :
    Line.EndsLine (insertedText entry below) :=
  (Line.split_join terminated_of_mem_lines).1

/-- The lines of a changelog with a section between two parts of it. -/
theorem bareLines_between {contents : String} {entry : Section} {above below : List Line}
    (lines : Line.split contents.toList = above ++ below) (nonempty : below ≠ []) :
    bareLines (String.ofList (Line.join above ++ insertedText entry below ++ Line.join below)) =
      above.map bareContent ++ insertedLines entry below ++ below.map bareContent := by
  rw [bareLines, String.toList_ofList,
    Line.split_between lines nonempty (endsLine_insertedText entry below)]
  simp only [List.map_append]
  rfl

/-- An insertion puts the lines of the section between those that were there. -/
theorem bareLines_of_insert {path contents result : String} {entry : Section}
    (inserted : insert path entry contents = .ok result) :
    entry.header.toList ∉ bareLines contents ∧
      ∃ above below lines, bareLines contents = above ++ below ∧ InsertionPoint above below ∧
        bareLines result = above ++ insertedLines entry lines ++ below := by
  obtain ⟨unused, above, below, lines, point, rfl⟩ := insert_eq_ok_iff.1 inserted
  refine ⟨unused, _, _, below, ?_, point, ?_⟩
  · rw [bareLines, lines, List.map_append]
  · exact bareLines_between lines (mt List.map_eq_nil_iff.2 point.below_ne_nil)

/-- A section whose header is new can be inserted wherever there is a place. -/
theorem insert_of_insertionPoint (path : String) {contents : String} {entry : Section}
    {above below : List (List Char)} (lines : bareLines contents = above ++ below)
    (point : InsertionPoint above below) (unused : entry.header.toList ∉ bareLines contents) :
    ∃ result lines, insert path entry contents = .ok result ∧
      bareLines result = above ++ insertedLines entry lines ++ below := by
  obtain ⟨linesAbove, linesBelow, split, rfl, rfl⟩ := List.map_eq_append_iff.1 lines
  refine ⟨_, linesBelow, insert_eq_ok_iff.2 ⟨unused, _, _, split, point, rfl⟩, ?_⟩
  exact bareLines_between split (mt List.map_eq_nil_iff.2 point.below_ne_nil)

/-- What a line of a section holds once it stands in a changelog. -/
theorem map_bareContent_split {content : List Char} {ending : LineEnding}
    (inLine : '\n' ∉ content) (terminated : ending ≠ .unterminated) :
    (Line.split (Line.text ⟨content, ending⟩)).map bareContent =
      [Text.trimEnd isBreak content] := by
  have single {held : List Char} (inLine : '\n' ∉ held) :
      (Line.split (held ++ ['\n'])).map bareContent = [Text.trimEnd isBreak held] := by
    obtain ⟨line, lines, text⟩ := Line.split_singleton inLine
    rw [lines, List.map_singleton, bareContent_eq_trimEnd_text, text,
      Text.trimEnd_append_of_forall (by simp [isBreak])]
  cases ending with
  | unterminated => exact absurd rfl terminated
  | newline => exact single inLine
  | returnNewline =>
    have held : '\n' ∉ content ++ ['\r'] := by simp [inLine]
    have both : Line.text ⟨content, .returnNewline⟩ = (content ++ ['\r']) ++ ['\n'] := by
      simp [Line.text, LineEnding.text]
    rw [both, single held, Text.trimEnd_append_of_forall (by simp [isBreak])]

/-- The lines of a text that is made up of contents without newlines in them. -/
theorem map_bareContent_split_join {contents : List (List Char)} {ending : LineEnding}
    (inLine : ∀ content ∈ contents, '\n' ∉ content) (terminated : ending ≠ .unterminated) :
    (Line.split (Line.join (contents.map fun content => ⟨content, ending⟩))).map bareContent =
      contents.map (Text.trimEnd isBreak) := by
  have allTerminated : ∀ line ∈ contents.map fun content => (⟨content, ending⟩ : Line),
      line.ending ≠ .unterminated := by
    intro line member
    obtain ⟨content, -, rfl⟩ := List.mem_map.1 member
    exact terminated
  rw [(Line.split_join allTerminated).2]
  clear allTerminated
  induction contents with
  | nil => rfl
  | cons content more inductionHypothesis =>
    obtain ⟨first, others⟩ := List.forall_mem_cons.1 inLine
    rw [List.map_cons, List.flatMap_cons, List.map_append, inductionHypothesis others,
      map_bareContent_split first terminated]
    rfl

/-- The lines that a section adds, where none of its parts is more than a line. -/
theorem insertedLines_eq {entry : Section} (below : List Line)
    (header : '\n' ∉ entry.header.toList) (entries : ∀ item ∈ entry.entries, '\n' ∉ item.toList) :
    insertedLines entry below =
      ([[], entry.header.toList, List.replicate entry.header.length '-', []] ++
        entry.entries.map String.toList).map (Text.trimEnd isBreak) := by
  refine map_bareContent_split_join (fun content member => ?_) (endingAbove_ne_unterminated below)
  simp only [List.mem_append, List.mem_cons, List.not_mem_nil, or_false, List.mem_map] at member
  rcases member with (rfl | rfl | rfl | rfl) | ⟨item, member, rfl⟩
  · exact List.not_mem_nil
  · exact header
  · exact fun member => absurd (List.eq_of_mem_replicate member) (by decide)
  · exact List.not_mem_nil
  · exact entries item member

/-- The header stands on a line of its own, whatever the entries are. -/
theorem header_mem_insertedLines {entry : Section} (below : List Line)
    (inLine : '\n' ∉ entry.header.toList)
    (bare : Text.trimEnd isBreak entry.header.toList = entry.header.toList) :
    entry.header.toList ∈ insertedLines entry below := by
  have line : (⟨entry.header.toList, endingAbove below⟩ : Line) ∈
      entry.lines (endingAbove below) := by
    simp [Section.lines]
  have alone := map_bareContent_split inLine (endingAbove_ne_unterminated below)
  rw [bare] at alone
  unfold insertedLines insertedText
  rw [(Line.split_join terminated_of_mem_lines).2, List.map_flatMap, List.mem_flatMap]
  exact ⟨_, line, by rw [alone]; exact List.mem_singleton_self _⟩

end ReleasePilot.Changelog
