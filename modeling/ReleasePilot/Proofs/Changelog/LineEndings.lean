import ReleasePilot.Proofs.Changelog.Placement

/-!
# How the lines of a changelog end

New lines end as the first underline does, and so in most files as all lines do. Where the
underline is the last line and is left open, it shows no terminator, and new lines end with
a lone newline whatever the lines above do (`returnsAtNewlines_insert_iff`).
-/

namespace ReleasePilot.Changelog

/-- Every newline has a carriage return in front of it. -/
def ReturnsAtNewlines (text : List Char) : Prop :=
  ∀ front rest, text = front ++ '\n' :: rest → front.getLast? = some '\r'

/-- The header and the entries of a section have no characters in them that end a line. -/
structure Section.IsUnbroken (entry : Section) : Prop where
  header : ∀ character ∈ entry.header.toList, isBreak character = false
  entries : ∀ item ∈ entry.entries, ∀ character ∈ item.toList, isBreak character = false

/-! ## Parts of a text -/

theorem returnsAtNewlines_of_not_mem {text : List Char} (none : '\n' ∉ text) :
    ReturnsAtNewlines text := by
  rintro front rest rfl
  exact absurd List.mem_append_cons_self none

theorem ReturnsAtNewlines.append {first second : List Char} (left : ReturnsAtNewlines first)
    (right : ReturnsAtNewlines second) : ReturnsAtNewlines (first ++ second) := by
  intro front rest whole
  rcases List.append_eq_append_iff.1 whole with ⟨middle, rfl, later⟩ | ⟨middle, rfl, earlier⟩
  · rw [List.getLast?_append, right middle rest later]
    rfl
  · cases middle with
    | nil => cases right [] rest earlier.symm
    | cons character middle =>
      obtain ⟨rfl, -⟩ := List.cons.inj earlier
      exact left front middle rfl

theorem ReturnsAtNewlines.of_append {first second : List Char}
    (whole : ReturnsAtNewlines (first ++ second)) : ReturnsAtNewlines first := by
  rintro front rest rfl
  exact whole front (rest ++ second) (by simp)

/-- Of two parts that meet between lines, each shows how its own lines end. -/
theorem returnsAtNewlines_append_iff {first second : List Char} (ended : Line.EndsLine first) :
    ReturnsAtNewlines (first ++ second) ↔ ReturnsAtNewlines first ∧ ReturnsAtNewlines second := by
  refine ⟨fun whole => ⟨whole.of_append, ?_⟩, fun parts => parts.1.append parts.2⟩
  rintro front rest rfl
  have last := whole (first ++ front) rest (by simp)
  rw [List.getLast?_append] at last
  -- A newline right behind the first part has no return in front of it.
  cases behind : front.getLast? with
  | some character => rwa [behind] at last
  | none =>
    rw [behind, Option.none_or] at last
    rcases ended with rfl | newline
    · cases last
    · rw [newline] at last
      cases last

theorem returnsAtNewlines_returnNewline : ReturnsAtNewlines ['\r', '\n'] := by
  rintro (_ | ⟨first, _ | ⟨second, more⟩⟩) rest whole
  · cases whole
  · cases whole
    rfl
  · simp at whole

theorem returnsAtNewlines_join {lines : List Line}
    (each : ∀ line ∈ lines, ReturnsAtNewlines line.text) :
    ReturnsAtNewlines (Line.join lines) := by
  induction lines with
  | nil => exact returnsAtNewlines_of_not_mem List.not_mem_nil
  | cons line more inductionHypothesis =>
    obtain ⟨first, others⟩ := List.forall_mem_cons.1 each
    exact first.append (inductionHypothesis others)

theorem returnsAtNewlines_text {line : Line} (inLine : '\n' ∉ line.content)
    (ending : line.ending ≠ .newline) : ReturnsAtNewlines line.text := by
  refine (returnsAtNewlines_of_not_mem inLine).append ?_
  cases same : line.ending with
  | unterminated => exact returnsAtNewlines_of_not_mem List.not_mem_nil
  | newline => exact absurd same ending
  | returnNewline => exact returnsAtNewlines_returnNewline

/-- A newline without a return in front of it ends a line alone. -/
theorem returnsAtNewlines_iff {text : List Char} :
    ReturnsAtNewlines text ↔ ∀ line ∈ Line.split text, line.ending ≠ .newline := by
  constructor
  · intro returns line member newline
    obtain ⟨above, below, stands⟩ := Line.exists_standsBetween_iff.2 ⟨line, member, rfl⟩
    rw [stands.whole, List.append_assoc, returnsAtNewlines_append_iff stands.opens] at returns
    have last := returns.2.of_append line.content [] (by rw [Line.text, newline]; rfl)
    exact Line.content_getLast?_ne_return member newline last
  · intro endings
    rw [← Line.join_split text]
    exact returnsAtNewlines_join fun line member =>
      returnsAtNewlines_text (Line.newline_not_mem_content member) (endings line member)

/-! ## New lines -/

variable {path contents changed : String} {entry : Section}

theorem Section.IsUnbroken.content {ending : LineEnding} (unbroken : entry.IsUnbroken)
    {line : Line} (member : line ∈ entry.lines ending) :
    ∀ character ∈ line.content, isBreak character = false := by
  obtain ⟨content, among, rfl⟩ := List.mem_map.1 member
  simp only [List.mem_append, List.mem_cons, List.not_mem_nil, or_false, List.mem_map] at among
  rcases among with (rfl | rfl | rfl | rfl) | ⟨item, inside, rfl⟩
  · nofun
  · exact unbroken.header
  · intro character member
    rw [List.eq_of_mem_replicate member]
    rfl
  · nofun
  · exact unbroken.entries item inside

/-- The first new line is blank, so that its terminator is all there is of it. -/
theorem insertedText_eq_cons (entry : Section) (below : List Line) :
    ∃ rest, insertedText entry below = (endingAbove below).text ++ rest :=
  ⟨_, rfl⟩

/-- New lines end with returns exactly if the underline below them does. -/
theorem returnsAtNewlines_insertedText_iff (unbroken : entry.IsUnbroken) (below : List Line) :
    ReturnsAtNewlines (insertedText entry below) ↔ endingAbove below = .returnNewline := by
  constructor
  · intro returns
    obtain ⟨rest, text⟩ := insertedText_eq_cons entry below
    cases ending : endingAbove below with
    | unterminated => exact absurd ending (endingAbove_ne_unterminated below)
    | newline =>
      rw [text, ending] at returns
      cases returns [] rest rfl
    | returnNewline => rfl
  · intro ending
    refine returnsAtNewlines_join fun line member => returnsAtNewlines_text (fun newline => ?_) ?_
    · exact absurd (unbroken.content member _ newline) (by decide)
    · rw [ending_of_mem_lines member, ending]
      exact nofun

theorem return_not_mem_insertedText (unbroken : entry.IsUnbroken) {below : List Line}
    (ending : endingAbove below = .newline) : '\r' ∉ insertedText entry below := by
  intro inserted
  obtain ⟨line, member, inside⟩ := List.mem_flatMap.1 inserted
  rw [Line.text, ending_of_mem_lines member, ending, List.mem_append] at inside
  rcases inside with content | terminator
  · exact absurd (unbroken.content member _ content) (by decide)
  · exact absurd terminator (by decide)

/-! ## The first underline -/

/-- The search for an underline finds one place. -/
theorem IsFirstUnderline.unique {text above underline below otherAbove other otherBelow : List Char}
    (first : IsFirstUnderline above underline below text)
    (second : IsFirstUnderline otherAbove other otherBelow text) :
    underline = other ∧ below = otherBelow := by
  obtain ⟨before, found, after, lines, rfl, rfl, rfl, underlines, none⟩ :=
    isFirstUnderline_iff.1 first
  obtain ⟨before', found', after', lines', rfl, rfl, rfl, underlines', none'⟩ :=
    isFirstUnderline_iff.1 second
  have index := findIdx?_eq_some_iff_append.2 ⟨before, found, after, lines, rfl, none, underlines⟩
  rw [findIdx?_eq_some_iff_append.2 ⟨before', found', after', lines', rfl, none', underlines'⟩]
    at index
  have lengths : before.length = before'.length := (Option.some.inj index).symm
  obtain ⟨-, rest⟩ := List.append_inj (lines.symm.trans lines') lengths
  obtain ⟨rfl, rfl⟩ := List.cons.inj rest
  exact ⟨rfl, rfl⟩

/-- The first underline stands two lines below the place of a new section. -/
theorem InsertionPoint.isFirstUnderline {above below : List Line}
    (point : InsertionPoint (above.map bareContent) (below.map bareContent))
    (lines : Line.split contents.toList = above ++ below) :
    ∃ blank header found rest, below = blank :: header :: found :: rest ∧
      IsFirstUnderline (Line.join (above ++ [blank, header])) found.text (Line.join rest)
        contents.toList := by
  obtain ⟨_, _, _, _, parts, plainBlank, plainHeader, dashes⟩ := point.opening
  match below, parts with
  | blank :: header :: found :: rest, parts =>
    simp only [List.map_cons, List.cons.injEq] at parts
    obtain ⟨rfl, rfl, rfl, -⟩ := parts
    refine ⟨blank, header, found, rest, rfl, isFirstUnderline_iff.2
      ⟨above ++ [blank, header], found, rest, by simp [lines], rfl, rfl, rfl, dashes, ?_⟩⟩
    intro line member
    simp only [List.mem_append, List.mem_cons, List.not_mem_nil, or_false] at member
    rcases member with inside | rfl | rfl
    · exact point.noneAbove _ (List.mem_map_of_mem inside)
    · exact plainBlank
    · exact plainHeader

/-- New lines end with returns unless the first underline is left open. -/
theorem endingAbove_eq_iff {above below : List Line} (returns : ReturnsAtNewlines contents.toList)
    (lines : Line.split contents.toList = above ++ below)
    (point : InsertionPoint (above.map bareContent) (below.map bareContent)) :
    endingAbove below = .returnNewline ↔ ¬∃ higher underline,
      IsFirstUnderline higher underline [] contents.toList ∧ '\n' ∉ underline := by
  obtain ⟨blank, header, found, rest, rfl, first⟩ := point.isFirstUnderline lines
  have member : found ∈ Line.split contents.toList := by simp [lines]
  have notNewline := returnsAtNewlines_iff.1 returns found member
  have inside := Line.newline_not_mem_content member
  obtain ⟨content, ending⟩ := found
  constructor
  · rintro same ⟨higher, underline, second, left⟩
    obtain ⟨rfl, -⟩ := first.unique second
    cases ending with
    | unterminated => cases same
    | newline => exact notNewline rfl
    | returnNewline => exact left (by simp [Line.text, LineEnding.text])
  · intro closed
    cases ending with
    | unterminated =>
      -- Only the last line of a text is left open.
      have left : '\n' ∉ Line.text ⟨content, .unterminated⟩ := by
        simpa [Line.text, LineEnding.text] using inside
      have last : Line.join rest = [] := by
        by_contra more
        exact left (List.mem_of_mem_getLast? (first.stands.closes more))
      rw [last] at first
      exact absurd ⟨_, _, first, left⟩ closed
    | newline => exact absurd rfl notNewline
    | returnNewline => rfl

theorem endingAbove_eq_newline {below : List Line} (none : '\r' ∉ Line.join below) :
    endingAbove below = .newline := by
  unfold endingAbove
  split
  case h_1 content found =>
    have member := List.mem_of_getElem? found
    refine absurd (List.mem_flatMap.2 ⟨_, member, ?_⟩) none
    simp [Line.text, LineEnding.text]
  case h_2 => rfl

/-- New lines leave it to each newline to have a return in front of it, unless the first
underline is the end of the changelog and is left open; and they bring no return into a
changelog that has none. -/
theorem returnsAtNewlines_insert_iff (unbroken : entry.IsUnbroken)
    (inserted : insert path entry contents = .ok changed) :
    (ReturnsAtNewlines contents.toList →
      (ReturnsAtNewlines changed.toList ↔ ¬∃ above underline,
        IsFirstUnderline above underline [] contents.toList ∧ '\n' ∉ underline)) ∧
    ('\r' ∉ contents.toList → '\r' ∉ changed.toList) := by
  obtain ⟨-, above, below, lines, point, rfl⟩ := insert_eq_ok_iff.1 inserted
  have nonempty : below ≠ [] := mt List.map_eq_nil_iff.2 point.below_ne_nil
  have aboveEnds := (Line.of_split_eq_append lines).2.2 nonempty
  have whole : contents.toList = Line.join above ++ Line.join below := by
    rw [← Line.join_append, ← lines, Line.join_split]
  rw [String.toList_ofList]
  constructor
  · intro returns
    rw [← endingAbove_eq_iff returns lines point, ← returnsAtNewlines_insertedText_iff unbroken,
      List.append_assoc, returnsAtNewlines_append_iff aboveEnds,
      returnsAtNewlines_append_iff (endsLine_insertedText entry below)]
    rw [whole, returnsAtNewlines_append_iff aboveEnds] at returns
    simp [returns]
  · intro none
    rw [whole, List.mem_append, not_or] at none
    have ending := endingAbove_eq_newline none.2
    simp [none, return_not_mem_insertedText unbroken ending]

/-- A changelog whose lines end with returns gets new lines that do not, as it ends with
its first underline. -/
theorem returnsAtNewlines_insert_openUnderline :
    insert "CHANGELOG.rst" ⟨"1.1", ["- New"]⟩ "Changelog\r\n=========\r\n\r\n1.0\r\n---" =
        .ok "Changelog\r\n=========\r\n\n1.1\n---\n\n- New\n\r\n1.0\r\n---" ∧
      ReturnsAtNewlines "Changelog\r\n=========\r\n\r\n1.0\r\n---".toList ∧
      ¬ReturnsAtNewlines
        "Changelog\r\n=========\r\n\n1.1\n---\n\n- New\n\r\n1.0\r\n---".toList := by
  have unbroken : Section.IsUnbroken ⟨"1.1", ["- New"]⟩ :=
    ⟨by simp [isBreak], by simp [isBreak]⟩
  have inserted : insert "CHANGELOG.rst" ⟨"1.1", ["- New"]⟩
      "Changelog\r\n=========\r\n\r\n1.0\r\n---" =
        .ok "Changelog\r\n=========\r\n\n1.1\n---\n\n- New\n\r\n1.0\r\n---" := rfl
  have returns : ReturnsAtNewlines "Changelog\r\n=========\r\n\r\n1.0\r\n---".toList :=
    returnsAtNewlines_iff.2 (by decide +kernel)
  have left : IsFirstUnderline "Changelog\r\n=========\r\n\r\n1.0\r\n".toList "---".toList []
      "Changelog\r\n=========\r\n\r\n1.0\r\n---".toList :=
    isFirstUnderline_iff.2 ⟨Line.split "Changelog\r\n=========\r\n\r\n1.0\r\n".toList,
      ⟨"---".toList, .unterminated⟩, [], by decide +kernel, Line.join_split _, rfl, rfl,
      by decide, by decide +kernel⟩
  refine ⟨inserted, returns, fun kept => ?_⟩
  exact ((returnsAtNewlines_insert_iff unbroken inserted).1 returns).1 kept
    ⟨_, _, left, by decide⟩

end ReleasePilot.Changelog
