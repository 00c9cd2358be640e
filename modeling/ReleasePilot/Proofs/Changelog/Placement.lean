import ReleasePilot.Proofs.Changelog.Insertion
import ReleasePilot.Proofs.Text.Places

/-!
# What becomes of a section that is inserted

A section that the changelog has already is refused, and so is a changelog without an
underline or without room for a header above the first one; otherwise the section is put
two lines above the first underline, and nothing else is changed (`Outcome`). The outcomes
are described by where lines stand and what they show, without the splitter and the search;
`insert_eq_iff_outcome` says that inserting a section has these outcomes.
-/

namespace ReleasePilot.Changelog

/-- Some line is the header, whatever characters may end it. -/
def HasHeader (header text : List Char) : Prop :=
  ∃ above line below, Line.StandsBetween above line below text ∧
    Text.trimEnd isBreak line = header

/-- Three dashes or more, with nothing but blanks behind them. -/
def IsUnderline (line : List Char) : Prop :=
  ∃ count blanks, 3 ≤ count ∧ (∀ character ∈ blanks, Text.isBlank character = true) ∧
    line = List.replicate count '-' ++ blanks

/-- The first underline of a changelog, with all that stands above it and below it. -/
structure IsFirstUnderline (above underline below text : List Char) : Prop where
  stands : Line.StandsBetween above underline below text
  underlines : IsUnderline underline
  first : ∀ higher line lower, Line.StandsBetween higher line lower above → ¬IsUnderline line

/-- The terminator of new lines, which is that of the underline if it has a carriage return. -/
def newTerminator (underline : List Char) : List Char :=
  if ['\r', '\n'] <:+ underline then ['\r', '\n'] else ['\n']

/-- The text of a section above some underline. -/
def blockAbove (underline : List Char) (entry : Section) : List Char :=
  ([[], entry.header.toList, List.replicate entry.header.length '-', []] ++
    entry.entries.map String.toList).flatMap (· ++ newTerminator underline)

/-- What inserting a section comes to. The lines above some place are as many as the
newlines there. -/
inductive Outcome (path : String) (entry : Section) (text : List Char) :
    Except ReleaseError String → Prop where
  | duplicate (present : HasHeader entry.header.toList text) :
      Outcome path entry text (.error (.duplicateTag entry.header))
  | noUnderline (absent : ¬HasHeader entry.header.toList text)
      (none : ∀ above line below, Line.StandsBetween above line below text → ¬IsUnderline line) :
      Outcome path entry text (.error (.changelogLayout path .noUnderline))
  | noRoom {above underline below : List Char} (absent : ¬HasHeader entry.header.toList text)
      (first : IsFirstUnderline above underline below text) (high : above.count '\n' < 2) :
      Outcome path entry text
        (.error (.changelogLayout path (.noRoomAbove (above.count '\n' + 1))))
  | inserted {above room underline below : List Char}
      (absent : ¬HasHeader entry.header.toList text)
      (first : IsFirstUnderline (above ++ room) underline below text)
      (opens : Line.EndsLine above) (closes : Line.EndsLine room) (twoLines : room.count '\n' = 2) :
      Outcome path entry text (.ok (String.ofList
        (above ++ blockAbove underline entry ++ (room ++ underline ++ below))))

/-! ## Headers and underlines -/

theorem hasHeader_iff {header : List Char} {contents : String} :
    HasHeader header contents.toList ↔ header ∈ bareLines contents := by
  rw [bareLines, List.mem_map]
  constructor
  · rintro ⟨above, line, below, stands, same⟩
    obtain ⟨found, member, rfl⟩ := Line.exists_standsBetween_iff.1 ⟨above, below, stands⟩
    exact ⟨found, member, (bareContent_eq_trimEnd_text found).trans same⟩
  · rintro ⟨found, member, same⟩
    obtain ⟨above, below, stands⟩ := Line.exists_standsBetween_iff.2 ⟨found, member, rfl⟩
    exact ⟨above, found.text, below, stands, (bareContent_eq_trimEnd_text found).symm.trans same⟩

/-- The test for dashes, by what passes it. -/
theorem isDashes_iff {content : List Char} : isDashes content = true ↔ IsUnderline content := by
  unfold isDashes
  rw [Bool.and_eq_true, decide_eq_true_iff, List.all_eq_true]
  constructor
  · rintro ⟨enough, blank⟩
    refine ⟨_, _, enough, blank, ?_⟩
    have dashes : content.takeWhile (· == '-') =
        List.replicate (content.takeWhile (· == '-')).length '-' := by
      refine List.eq_replicate_of_mem fun character member => ?_
      exact eq_of_beq (List.all_eq_true.1 List.all_takeWhile character member)
    rw [← dashes, List.takeWhile_append_dropWhile]
  · rintro ⟨count, blanks, enough, blank, rfl⟩
    have dashes : ∀ character ∈ List.replicate count '-', (character == '-') = true := by
      intro character member
      rw [List.eq_of_mem_replicate member]
      rfl
    have stops : Text.StopsRun (· == '-') blanks := by
      intro character head
      have isBlank := blank character (List.mem_of_mem_head? head)
      rw [beq_eq_false_iff_ne]
      rintro rfl
      exact absurd isBlank (by decide)
    rw [Text.takeWhile_run dashes stops, Text.dropWhile_run dashes stops, List.length_replicate]
    exact ⟨enough, blank⟩

theorem isBlank_of_isBreak {character : Char} (ends : isBreak character = true) :
    Text.isBlank character = true := by
  simp only [isBreak, Bool.or_eq_true, beq_iff_eq] at ends
  rcases ends with rfl | rfl <;> decide

/-- What ends a line is blank, so that an underline is one with it and without it. -/
theorem isUnderline_trimEnd_iff {line : List Char} :
    IsUnderline (Text.trimEnd isBreak line) ↔ IsUnderline line := by
  constructor
  · rintro ⟨count, blanks, enough, blank, bare⟩
    obtain ⟨tail, ends, whole⟩ := Text.exists_trimmed isBreak line
    rw [bare, List.append_assoc] at whole
    refine ⟨count, blanks ++ tail, enough, List.forall_mem_append.2 ⟨blank, ?_⟩, whole⟩
    exact fun character member => isBlank_of_isBreak (ends character member)
  · rintro ⟨count, blanks, enough, blank, rfl⟩
    have stays : ∀ character ∈ (List.replicate count '-').getLast?, isBreak character = false := by
      intro character last
      rw [List.eq_of_mem_replicate (List.mem_of_mem_getLast? last)]
      decide
    rw [Text.trimEnd_append stays]
    have kept := (Text.trimEnd_prefix isBreak blanks).subset
    exact ⟨count, _, enough, fun character member => blank character (kept member), rfl⟩

/-- The search for underlines passes over exactly the lines that are none. -/
theorem isUnderline_iff (line : Line) : isUnderline line = true ↔ IsUnderline line.text := by
  change isDashes (bareContent line) = true ↔ _
  rw [isDashes_iff, bareContent_eq_trimEnd_text, isUnderline_trimEnd_iff]

theorem noUnderline_iff {text : List Char} :
    (∀ above line below, Line.StandsBetween above line below text → ¬IsUnderline line) ↔
      ∀ line ∈ Line.split text, isUnderline line = false := by
  rw [Line.forall_standsBetween_iff]
  simp only [← isUnderline_iff, Bool.not_eq_true]

/-- An underline is the first one if the search passes over all lines above it. -/
theorem isFirstUnderline_iff {above underline below text : List Char} :
    IsFirstUnderline above underline below text ↔ ∃ before found after,
      Line.split text = before ++ found :: after ∧ Line.join before = above ∧
        found.text = underline ∧ Line.join after = below ∧
        isUnderline found = true ∧ ∀ line ∈ before, isUnderline line = false := by
  have passed {before : List Line} (whole : Line.split (Line.join before) = before) :
      (∀ higher line lower, Line.StandsBetween higher line lower (Line.join before) →
        ¬IsUnderline line) ↔ ∀ line ∈ before, isUnderline line = false := by
    rw [noUnderline_iff, whole]
  constructor
  · rintro ⟨stands, underlines, first⟩
    obtain ⟨before, found, after, lines, rfl, rfl, rfl⟩ := Line.standsBetween_iff.1 stands
    exact ⟨before, found, after, lines, rfl, rfl, rfl,
      (isUnderline_iff found).2 underlines,
      (passed (Line.of_split_eq_append lines).1).1 first⟩
  · rintro ⟨before, found, after, lines, rfl, rfl, rfl, underlines, none⟩
    exact ⟨Line.standsBetween_iff.2 ⟨before, found, after, lines, rfl, rfl, rfl⟩,
      (isUnderline_iff found).1 underlines,
      (passed (Line.of_split_eq_append lines).1).2 none⟩

/-! ## Refusals -/

variable {path contents : String} {entry : Section}

theorem insert_of_header (present : entry.header.toList ∈ bareLines contents) :
    insert path entry contents = .error (.duplicateTag entry.header) := by
  unfold insert insertLines
  rw [if_pos (by simpa [bareLines] using present)]
  rfl

theorem insert_of_noUnderline (absent : entry.header.toList ∉ bareLines contents)
    (none : (Line.split contents.toList).findIdx? isUnderline = none) :
    insert path entry contents = .error (.changelogLayout path .noUnderline) := by
  unfold insert insertLines
  rw [if_neg (by simpa [bareLines] using absent), none]
  rfl

theorem insert_of_noRoom {index : Nat} (absent : entry.header.toList ∉ bareLines contents)
    (found : (Line.split contents.toList).findIdx? isUnderline = some index) (high : index < 2) :
    insert path entry contents = .error (.changelogLayout path (.noRoomAbove (index + 1))) := by
  unfold insert insertLines
  rw [if_neg (by simpa [bareLines] using absent), found]
  simp only [if_pos high]
  rfl

/-- The number of the first underline is that of the newlines above it. -/
theorem findIdx?_of_isFirstUnderline {above underline below text : List Char}
    (first : IsFirstUnderline above underline below text) :
    (Line.split text).findIdx? isUnderline = some (above.count '\n') := by
  obtain ⟨before, found, after, lines, rfl, rfl, rfl, underlines, none⟩ :=
    isFirstUnderline_iff.1 first
  refine findIdx?_eq_some_iff_append.2 ⟨before, found, after, lines, ?_, none, underlines⟩
  rw [← Line.length_split first.stands.opens, (Line.of_split_eq_append lines).1]

theorem exists_isFirstUnderline {text : List Char} {index : Nat}
    (found : (Line.split text).findIdx? isUnderline = some index) :
    ∃ above underline below, IsFirstUnderline above underline below text := by
  obtain ⟨before, line, after, lines, -, none, underlines⟩ := findIdx?_eq_some_iff_append.1 found
  exact ⟨_, _, _, isFirstUnderline_iff.2
    ⟨before, line, after, lines, rfl, rfl, rfl, underlines, none⟩⟩

/-! ## The place of a section -/

/-- New lines end as the underline does that is found two lines below them. -/
theorem text_endingAbove {text : List Char} {blank header underline : Line} {rest : List Line}
    (member : underline ∈ Line.split text) :
    (endingAbove (blank :: header :: underline :: rest)).text =
      newTerminator underline.text := by
  have shown := Line.returnNewline_suffix_iff member
  obtain ⟨content, ending⟩ := underline
  unfold newTerminator
  cases ending with
  | returnNewline =>
    rw [if_pos (shown.2 rfl)]
    rfl
  | newline =>
    rw [if_neg (mt shown.1 nofun)]
    rfl
  | unterminated =>
    rw [if_neg (mt shown.1 nofun)]
    rfl

/-- The lines of a section, each with the terminator of new lines. -/
theorem insertedText_eq {below : List Line} {underline : List Char}
    (terminator : (endingAbove below).text = newTerminator underline) (entry : Section) :
    insertedText entry below = blockAbove underline entry := by
  unfold insertedText blockAbove Line.join Section.lines
  rw [List.flatMap_map, ← terminator]
  rfl

/-- Where two lines are left above the first underline, a section is inserted. -/
theorem insert_of_room {above room underline below : List Char}
    (absent : entry.header.toList ∉ bareLines contents)
    (first : IsFirstUnderline (above ++ room) underline below contents.toList)
    (opens : Line.EndsLine above) (closes : Line.EndsLine room) (twoLines : room.count '\n' = 2) :
    insert path entry contents = .ok (String.ofList
      (above ++ blockAbove underline entry ++ (room ++ underline ++ below))) := by
  obtain ⟨before, found, after, lines, joined, rfl, rfl, underlines, none⟩ :=
    isFirstUnderline_iff.1 first
  obtain ⟨blank, header, pair⟩ : ∃ blank header, Line.split room = [blank, header] := by
    apply List.length_eq_two.1
    rw [Line.length_split closes, twoLines]
  have parts : before = Line.split above ++ [blank, header] := by
    rw [← (Line.of_split_eq_append lines).1, joined, Line.split_append opens, pair]
  have whole : Line.split contents.toList =
      Line.split above ++ (blank :: header :: found :: after) := by
    rw [lines, parts, List.append_assoc]
    rfl
  have point : InsertionPoint ((Line.split above).map bareContent)
      ((blank :: header :: found :: after).map bareContent) := by
    rw [parts] at none
    refine ⟨fun content member => ?_, _, _, _, _, rfl, none blank (by simp),
      none header (by simp), underlines⟩
    obtain ⟨line, inside, rfl⟩ := List.mem_map.1 member
    exact none line (List.mem_append_left _ inside)
  have member : found ∈ Line.split contents.toList := by
    rw [lines]
    exact List.mem_append_cons_self
  refine insert_eq_ok_iff.2 ⟨absent, _, _, whole, point, ?_⟩
  have rest : Line.join (blank :: header :: found :: after) =
      room ++ found.text ++ Line.join after := by
    rw [← Line.join_split room, pair, List.append_assoc]
    simp [Line.join]
  rw [Line.join_split, insertedText_eq (text_endingAbove member), rest]

/-- Inserting a section gives its outcome and nothing else; and where the section is put,
leaving it out again gives back the changelog. -/
theorem insert_eq_iff_outcome (path contents : String) (entry : Section) :
    (∀ result, insert path entry contents = result ↔ Outcome path entry contents.toList result) ∧
      ∀ changed, insert path entry contents = .ok changed →
        ∃ above underline below, changed.toList = above ++ blockAbove underline entry ++ below ∧
          above ++ below = contents.toList := by
  have outcome (result : Except ReleaseError String) :
      insert path entry contents = result ↔ Outcome path entry contents.toList result := by
    constructor
    · rintro rfl
      by_cases present : entry.header.toList ∈ bareLines contents
      · rw [insert_of_header present]
        exact .duplicate (hasHeader_iff.2 present)
      have absent := mt hasHeader_iff.1 present
      cases found : (Line.split contents.toList).findIdx? isUnderline with
      | none =>
        rw [insert_of_noUnderline present found]
        exact .noUnderline absent (noUnderline_iff.2 (List.findIdx?_eq_none_iff.1 found))
      | some index =>
        obtain ⟨above, underline, below, first⟩ := exists_isFirstUnderline found
        obtain rfl := Option.some.inj (found.symm.trans (findIdx?_of_isFirstUnderline first))
        by_cases high : above.count '\n' < 2
        · rw [insert_of_noRoom present found high]
          exact .noRoom absent first high
        · obtain ⟨higher, room, rfl, opens, closes, twoLines⟩ :=
            Line.exists_last_lines first.stands.opens (Nat.le_of_not_lt high)
          rw [insert_of_room present first opens closes twoLines]
          exact .inserted absent first opens closes twoLines
    · intro outcome
      cases outcome with
      | duplicate present => exact insert_of_header (hasHeader_iff.1 present)
      | noUnderline absent none =>
        exact insert_of_noUnderline (mt hasHeader_iff.2 absent)
          (List.findIdx?_eq_none_iff.2 (noUnderline_iff.1 none))
      | noRoom absent first high =>
        exact insert_of_noRoom (mt hasHeader_iff.2 absent) (findIdx?_of_isFirstUnderline first) high
      | inserted absent first opens closes twoLines =>
        exact insert_of_room (mt hasHeader_iff.2 absent) first opens closes twoLines
  refine ⟨outcome, fun changed done => ?_⟩
  cases (outcome _).1 done with
  | @inserted above room underline below absent first opens closes twoLines =>
    refine ⟨above, underline, room ++ underline ++ below, String.toList_ofList, ?_⟩
    rw [first.stands.whole]
    simp only [List.append_assoc]

end ReleasePilot.Changelog
