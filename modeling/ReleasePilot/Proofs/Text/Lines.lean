import ReleasePilot.Text.Blank
import ReleasePilot.Text.Line

/-!
# Lines of a composed text

A text that leaves no line open, followed by another text, has the lines of the
one and then those of the other (`Line.split_append`). What is said of the lines
of a composed text follows from this equation.
-/

namespace ReleasePilot.Line

/-- No line is left open, so that whatever follows begins a line of its own. -/
def EndsLine (text : List Char) : Prop :=
  text = [] ∨ text.getLast? = some '\n'

@[simp] theorem endsLine_nil : EndsLine [] :=
  .inl rfl

theorem endsLine_append {first second : List Char} (firstEnds : EndsLine first)
    (secondEnds : EndsLine second) : EndsLine (first ++ second) := by
  rcases secondEnds with rfl | secondLast
  · simpa using firstEnds
  · right
    rw [List.getLast?_append, secondLast]
    rfl

/-- What is left of a text that ends a line ends that line as well. -/
theorem EndsLine.of_append (front : List Char) {rest : List Char}
    (ended : EndsLine (front ++ rest)) : EndsLine rest := by
  by_cases none : rest = []
  · exact .inl none
  · right
    rcases ended with empty | last
    · exact absurd (List.append_eq_nil_iff.1 empty).2 none
    · rw [List.getLast?_append, List.getLast?_eq_some_getLast none] at last
      rw [List.getLast?_eq_some_getLast none]
      exact last

theorem EndsLine.tail {character : Char} {rest : List Char}
    (ended : EndsLine (character :: rest)) : EndsLine rest :=
  EndsLine.of_append [character] ended

theorem split_cons {character : Char} (inLine : character ≠ '\n') (rest : List Char) :
    split (character :: rest) =
      match split rest with
      | [] => [⟨[character], .unterminated⟩]
      | line :: more => line.cons character :: more :=
  split.eq_3 character rest inLine

@[simp] theorem split_eq_nil_iff {text : List Char} : split text = [] ↔ text = [] := by
  constructor
  · intro none
    rw [← join_split text, none]
    rfl
  · rintro rfl
    rfl

/-- The lines of a text that ends a line, and of what follows it. -/
theorem split_append {first : List Char} (ended : EndsLine first) (second : List Char) :
    split (first ++ second) = split first ++ split second := by
  induction first with
  | nil => rfl
  | cons character rest inductionHypothesis =>
    have later := inductionHypothesis ended.tail
    by_cases newline : character = '\n'
    · subst newline
      simp only [List.cons_append, split, later]
    · -- The line that the character belongs to is ended within the rest.
      have nonempty : rest ≠ [] := by
        rintro rfl
        rcases ended with impossible | last
        · cases impossible
        · exact newline (by simpa using last)
      obtain ⟨line, more, lines⟩ :=
        List.exists_cons_of_ne_nil (mt split_eq_nil_iff.1 nonempty)
      rw [List.cons_append, split_cons newline, split_cons newline, later, lines]
      rfl

/-- The first line of a text is the one line of its own text, which is ended if
more lines follow; these are the lines of what they make up. -/
theorem of_split_eq_cons {text : List Char} {line : Line} {more : List Line}
    (lines : split text = line :: more) :
    split line.text = [line] ∧ split (join more) = more ∧ (more ≠ [] → EndsLine line.text) := by
  induction text generalizing line more with
  | nil => cases lines
  | cons character rest inductionHypothesis =>
    by_cases newline : character = '\n'
    · subst newline
      rw [split] at lines
      obtain ⟨rfl, rfl⟩ := List.cons.inj lines
      exact ⟨rfl, by rw [join_split], fun _ => .inr rfl⟩
    · rw [split_cons newline] at lines
      cases later : split rest with
      | nil =>
        rw [later] at lines
        obtain ⟨rfl, rfl⟩ := List.cons.inj lines
        refine ⟨?_, rfl, fun nonempty => absurd rfl nonempty⟩
        exact split_cons newline []
      | cons first others =>
        rw [later] at lines
        obtain ⟨rfl, rfl⟩ := List.cons.inj lines
        obtain ⟨alone, remaining, ended⟩ := inductionHypothesis later
        refine ⟨?_, remaining, fun nonempty => ?_⟩
        · rw [text_cons, split_cons newline, alone]
        · rw [text_cons]
          rcases ended nonempty with empty | last
          · rw [empty] at alone
            cases alone
          · right
            rw [List.getLast?_cons, last]
            rfl

@[simp] theorem join_append (before after : List Line) :
    join (before ++ after) = join before ++ join after :=
  List.flatMap_append

/-- Both parts of the lines of a text are the lines of what they make up, and
the first part leaves no line open if the second is not empty. -/
theorem of_split_eq_append {text : List Char} {before after : List Line}
    (lines : split text = before ++ after) :
    split (join before) = before ∧ split (join after) = after ∧
      (after ≠ [] → EndsLine (join before)) := by
  induction before generalizing text with
  | nil =>
    refine ⟨rfl, ?_, fun _ => endsLine_nil⟩
    rw [List.nil_append] at lines
    rw [← lines, join_split]
  | cons line more inductionHypothesis =>
    obtain ⟨alone, remaining, ended⟩ := of_split_eq_cons lines
    obtain ⟨first, second, closed⟩ := inductionHypothesis remaining
    have whole : join (line :: more) = line.text ++ join more := rfl
    refine ⟨?_, second, fun nonempty => ?_⟩
    · by_cases empty : more = []
      · subst empty
        rw [whole]
        simpa [join] using alone
      · rw [whole, split_append (ended (by simp [empty])), alone, first]
        rfl
    · rw [whole]
      exact endsLine_append (ended (by simp [nonempty])) (closed nonempty)

/-- Each line of a text is the one line of its own text. -/
theorem split_text_of_mem {text : List Char} {line : Line} (member : line ∈ split text) :
    split line.text = [line] := by
  obtain ⟨before, after, lines⟩ := List.append_of_mem member
  exact (of_split_eq_cons (of_split_eq_append lines).2.1).1

/-- A text put between two parts of the lines of another, ended itself. -/
theorem split_between {text inserted : List Char} {before after : List Line}
    (lines : split text = before ++ after) (nonempty : after ≠ []) (ended : EndsLine inserted) :
    split (join before ++ inserted ++ join after) = before ++ split inserted ++ after := by
  obtain ⟨first, second, closed⟩ := of_split_eq_append lines
  rw [split_append (endsLine_append (closed nonempty) ended), split_append (closed nonempty),
    first, second]

/-- A line that is terminated is ended. -/
theorem endsLine_text {line : Line} (terminated : line.ending ≠ .unterminated) :
    EndsLine line.text := by
  obtain ⟨content, ending⟩ := line
  right
  cases ending with
  | unterminated => exact absurd rfl terminated
  | newline => simp [text, LineEnding.text]
  | returnNewline => simp [text, LineEnding.text]

/-- Terminated lines whose contents are arbitrary texts: each has lines of its own. -/
theorem split_join {lines : List Line}
    (terminated : ∀ line ∈ lines, line.ending ≠ .unterminated) :
    EndsLine (join lines) ∧ split (join lines) = lines.flatMap fun line => split line.text := by
  induction lines with
  | nil => exact ⟨endsLine_nil, rfl⟩
  | cons line more inductionHypothesis =>
    obtain ⟨first, others⟩ := List.forall_mem_cons.1 terminated
    obtain ⟨ended, lines⟩ := inductionHypothesis others
    have whole : join (line :: more) = line.text ++ join more := rfl
    rw [whole]
    refine ⟨endsLine_append (endsLine_text first) ended, ?_⟩
    rw [split_append (endsLine_text first), lines]
    rfl

/-- A single line with nothing but a newline behind it. -/
theorem split_singleton {content : List Char} (inLine : '\n' ∉ content) :
    ∃ line, split (content ++ ['\n']) = [line] ∧ line.text = content ++ ['\n'] := by
  induction content with
  | nil => exact ⟨⟨[], .newline⟩, rfl, rfl⟩
  | cons character rest inductionHypothesis =>
    rw [List.mem_cons, not_or] at inLine
    obtain ⟨line, lines, text⟩ := inductionHypothesis inLine.2
    refine ⟨line.cons character, ?_, ?_⟩
    · rw [List.cons_append, split_cons (Ne.symm inLine.1), lines]
    · rw [text_cons, text]
      rfl

/-- What ends a line is blank. -/
theorem isBlank_of_mem_ending {ending : LineEnding} {character : Char}
    (member : character ∈ ending.text) : Text.isBlank character = true := by
  cases ending <;> simp only [LineEnding.text, List.mem_cons, List.not_mem_nil, or_false] at member
  case newline => rw [member]; decide
  case returnNewline => rcases member with rfl | rfl <;> decide

/-! ## Changing what lines hold -/

theorem content_cons (character : Char) (line : Line) :
    (line.cons character).content ⊆ character :: line.content := by
  unfold cons
  split
  · split
    · exact List.nil_subset _
    · exact List.Subset.refl _
  · exact List.Subset.refl _

/-- No line of a text holds a newline. -/
theorem newline_not_mem_content {text : List Char} {line : Line} (member : line ∈ split text) :
    '\n' ∉ line.content := by
  fun_induction split text generalizing line with
  | case1 => cases member
  | case2 rest inductionHypothesis =>
    rcases List.mem_cons.1 member with rfl | later
    · exact List.not_mem_nil
    · exact inductionHypothesis later
  | case3 character rest inLine last inductionHypothesis =>
    obtain rfl := List.mem_singleton.1 member
    exact fun newline => inLine (List.mem_singleton.1 newline).symm
  | case4 character rest inLine first more lines inductionHypothesis =>
    rcases List.mem_cons.1 member with rfl | later
    · intro newline
      rcases List.mem_cons.1 (content_cons character first newline) with same | inside
      · exact inLine same.symm
      · exact inductionHypothesis (lines ▸ List.mem_cons_self) inside
    · exact inductionHypothesis (lines ▸ List.mem_cons_of_mem _ later)

/-- A content that goes on to its end without a newline, and does not end in a
carriage return, is a line with any ending. -/
theorem split_text {content : List Char} {last : Char} (ending : LineEnding)
    (inLine : '\n' ∉ content ++ [last]) (noReturn : last ≠ '\r') :
    split (text ⟨content ++ [last], ending⟩) = [⟨content ++ [last], ending⟩] := by
  induction content with
  | nil =>
    have notNewline : last ≠ '\n' := fun same => inLine (by simp [same])
    cases ending with
    | unterminated => exact split_cons notNewline []
    | newline =>
      refine (split_cons notNewline ['\n']).trans ?_
      simp [split, cons, noReturn]
    | returnNewline =>
      refine (split_cons notNewline ['\r', '\n']).trans ?_
      simp [split, cons]
  | cons character rest inductionHypothesis =>
    rw [List.cons_append, List.mem_cons, not_or] at inLine
    have later := inductionHypothesis inLine.2
    have whole : text ⟨character :: rest ++ [last], ending⟩ =
        character :: text ⟨rest ++ [last], ending⟩ := rfl
    rw [whole, split_cons (Ne.symm inLine.1), later]
    cases rest <;> rfl

/-- What a line can hold so that it is told from what ends the line, and from no line. -/
structure IsContent (content : List Char) : Prop where
  nonempty : content ≠ []
  inLine : '\n' ∉ content
  noReturn : content.getLast? ≠ some '\r'

theorem IsContent.split_text {content : List Char} (isContent : IsContent content)
    (ending : LineEnding) : split (text ⟨content, ending⟩) = [⟨content, ending⟩] := by
  obtain ⟨nonempty, inLine, noReturn⟩ := isContent
  rw [← List.dropLast_concat_getLast nonempty] at inLine ⊢
  refine Line.split_text ending inLine fun same => noReturn ?_
  rw [List.getLast?_eq_some_getLast nonempty, same]

/-- Lines that are ended in one way are the lines of what they make up. -/
theorem split_join_contents {pieces : List (List Char)} (contents : ∀ piece ∈ pieces, IsContent piece)
    {ending : LineEnding} (terminated : ending ≠ .unterminated) :
    split (join (pieces.map fun piece => ⟨piece, ending⟩)) =
      pieces.map fun piece => ⟨piece, ending⟩ := by
  have ended : ∀ line ∈ pieces.map fun piece => Line.mk piece ending,
      line.ending ≠ .unterminated := by
    simp [terminated]
  have each := List.map_congr_left fun piece member => (contents piece member).split_text ending
  rw [(split_join ended).2, List.flatMap_map, List.flatMap_def, each, ← List.flatMap_def,
    ← List.map_eq_flatMap]

/-- Lines with newlines between them hold what was put there. -/
theorem content_split_intercalate {pieces : List (List Char)}
    (contents : ∀ piece ∈ pieces, IsContent piece) :
    (split (['\n'].intercalate pieces)).map content = pieces := by
  induction pieces with
  | nil => rfl
  | cons piece more inductionHypothesis =>
    obtain ⟨first, others⟩ := List.forall_mem_cons.1 contents
    cases more with
    | nil =>
      have alone := first.split_text .unterminated
      rw [text, LineEnding.text, List.append_nil] at alone
      rw [List.intercalate_singleton, alone]
      rfl
    | cons next more =>
      have terminated : LineEnding.newline ≠ .unterminated := by decide
      have ended : EndsLine (text ⟨piece, .newline⟩) := endsLine_text terminated
      rw [List.intercalate_cons_cons]
      change (split (text ⟨piece, .newline⟩ ++ _)).map content = _
      rw [split_append ended, first.split_text, List.map_append, inductionHypothesis others]
      rfl

/-- Lines of a text may be changed one by one, if each stays a line that ends as
it did: these are the lines of the changed text. -/
theorem split_join_map {text : List Char} {lines : List Line} {change : Line → Line}
    (whole : split text = lines)
    (changed : ∀ line ∈ lines, split (change line).text = [change line])
    (sameEnding : ∀ line ∈ lines, (change line).ending = line.ending) :
    split (join (lines.map change)) = lines.map change := by
  induction lines generalizing text with
  | nil => rfl
  | cons line more inductionHypothesis =>
    obtain ⟨alone, remaining, ended⟩ := of_split_eq_cons whole
    obtain ⟨first, others⟩ := List.forall_mem_cons.1 changed
    obtain ⟨firstEnding, otherEndings⟩ := List.forall_mem_cons.1 sameEnding
    have later := inductionHypothesis remaining others otherEndings
    have parts : join ((line :: more).map change) = (change line).text ++ join (more.map change) :=
      rfl
    rw [parts]
    by_cases empty : more = []
    · subst empty
      simpa [join] using first
    · have terminated : (change line).ending ≠ .unterminated := by
        rw [firstEnding]
        intro open_
        have member : line ∈ split line.text := by simp [alone]
        have inside := newline_not_mem_content member
        rcases ended empty with none | last
        · rw [none] at alone
          cases alone
        · rw [Line.text, open_, LineEnding.text, List.append_nil] at last
          exact inside (List.mem_of_mem_getLast? last)
      rw [split_append (endsLine_text terminated), first, later]
      rfl

end ReleasePilot.Line
