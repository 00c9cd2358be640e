import ReleasePilot.Proofs.Text.Lines

/-!
# Where lines stand

A line of a text opens at the start of the text or behind a newline, and goes on
to its own newline or to the end of the text (`StandsBetween`). How a text is
split does not enter into this; `standsBetween_iff` says that splitting finds
these lines and no others.
-/

namespace ReleasePilot.Line

/-- A line of a text, with all that stands above it and below it. -/
structure StandsBetween (above line below text : List Char) : Prop where
  whole : text = above ++ line ++ below
  opens : EndsLine above
  nonempty : line ≠ []
  undivided : '\n' ∉ line.dropLast
  closes : below ≠ [] → line.getLast? = some '\n'

/-- How a line is terminated, as its last characters show. -/
def terminator (line : List Char) : List Char :=
  if ['\r', '\n'] <:+ line then ['\r', '\n'] else if ['\n'] <:+ line then ['\n'] else []

/-! ## Splitting finds the lines -/

/-- A text without a newline before its last character is one line. -/
theorem split_undivided {line : List Char} (nonempty : line ≠ [])
    (undivided : '\n' ∉ line.dropLast) : ∃ found, split line = [found] ∧ found.text = line := by
  obtain ⟨found, alone⟩ : ∃ found, split line = [found] := by
    induction line with
    | nil => exact absurd rfl nonempty
    | cons character rest inductionHypothesis =>
      cases rest with
      | nil =>
        by_cases newline : character = '\n'
        · exact ⟨⟨[], .newline⟩, by rw [newline]; rfl⟩
        · exact ⟨⟨[character], .unterminated⟩, split_cons newline []⟩
      | cons next more =>
        rw [List.dropLast_cons_of_ne_nil (List.cons_ne_nil _ _), List.mem_cons, not_or] at undivided
        obtain ⟨found, alone⟩ := inductionHypothesis (List.cons_ne_nil _ _) undivided.2
        exact ⟨found.cons character, by rw [split_cons (Ne.symm undivided.1), alone]⟩
  refine ⟨found, alone, ?_⟩
  have joined := join_split line
  rw [alone] at joined
  simpa [join] using joined

/-- Only the last character of a line is a newline. -/
theorem newline_not_mem_dropLast {text : List Char} {line : Line} (member : line ∈ split text) :
    '\n' ∉ line.text.dropLast := by
  have inside := newline_not_mem_content member
  obtain ⟨content, ending⟩ := line
  cases ending with
  | unterminated =>
    intro newline
    have kept := List.dropLast_subset _ newline
    rw [Line.text, LineEnding.text, List.append_nil] at kept
    exact inside kept
  | newline => simpa [Line.text, LineEnding.text] using inside
  | returnNewline =>
    have front : Line.text ⟨content, .returnNewline⟩ = (content ++ ['\r']) ++ ['\n'] := by
      simp [Line.text, LineEnding.text]
    rw [front, List.dropLast_concat]
    simpa using inside

/-- No line of a text is empty, as it would not show. -/
theorem text_ne_nil {text : List Char} {line : Line} (member : line ∈ split text) :
    line.text ≠ [] := by
  intro empty
  have alone := split_text_of_mem member
  rw [empty] at alone
  cases alone

/-- Splitting a text gives the lines that stand in it, one after the other. -/
theorem standsBetween_iff {above line below text : List Char} :
    StandsBetween above line below text ↔ ∃ before found after,
      split text = before ++ found :: after ∧ join before = above ∧ found.text = line ∧
        join after = below := by
  constructor
  · rintro ⟨rfl, opens, nonempty, undivided, closes⟩
    obtain ⟨found, alone, same⟩ := split_undivided nonempty undivided
    have later : split (line ++ below) = found :: split below := by
      by_cases last : below = []
      · rw [last, List.append_nil, alone]
        rfl
      · rw [split_append (.inr (closes last)), alone]
        rfl
    refine ⟨split above, found, split below, ?_, join_split above, same, join_split below⟩
    rw [List.append_assoc, split_append opens, later]
  · rintro ⟨before, found, after, lines, rfl, rfl, rfl⟩
    have member : found ∈ split text := lines ▸ List.mem_append_cons_self
    obtain ⟨-, behind, ended⟩ := of_split_eq_append lines
    obtain ⟨-, -, closed⟩ := of_split_eq_cons behind
    have nonempty := text_ne_nil member
    refine ⟨?_, ended (List.cons_ne_nil _ _), nonempty, newline_not_mem_dropLast member, ?_⟩
    · rw [← join_split text, lines, join_append, List.append_assoc]
      rfl
    · intro more
      have others : after ≠ [] := by
        rintro rfl
        exact more rfl
      exact (closed others).resolve_left nonempty

/-- Every line that is split off stands somewhere in the text, and no others do. -/
theorem exists_standsBetween_iff {line text : List Char} :
    (∃ above below, StandsBetween above line below text) ↔
      ∃ found ∈ split text, found.text = line := by
  constructor
  · rintro ⟨above, below, stands⟩
    obtain ⟨before, found, after, lines, -, same, -⟩ := standsBetween_iff.1 stands
    exact ⟨found, lines ▸ List.mem_append_cons_self, same⟩
  · rintro ⟨found, member, rfl⟩
    obtain ⟨before, after, lines⟩ := List.append_of_mem member
    exact ⟨_, _, standsBetween_iff.2 ⟨before, found, after, lines, rfl, rfl, rfl⟩⟩

/-- What is said of all lines that stand in a text is said of those that are split off. -/
theorem forall_standsBetween_iff {text : List Char} {holds : List Char → Prop} :
    (∀ above line below, StandsBetween above line below text → holds line) ↔
      ∀ line ∈ split text, holds line.text := by
  constructor
  · intro each line member
    obtain ⟨above, below, stands⟩ := exists_standsBetween_iff.2 ⟨line, member, rfl⟩
    exact each above line.text below stands
  · intro each above line below stands
    obtain ⟨found, member, rfl⟩ := exists_standsBetween_iff.1 ⟨above, below, stands⟩
    exact each found member

/-- A text of whole lines has as many of them as newlines. -/
theorem length_split {text : List Char} (ended : EndsLine text) :
    (split text).length = text.count '\n' := by
  induction text with
  | nil => rfl
  | cons character rest inductionHypothesis =>
    have later := inductionHypothesis ended.tail
    by_cases newline : character = '\n'
    · subst newline
      rw [split, List.length_cons, later, List.count_cons_self]
    · rw [split_cons newline, List.count_cons_of_ne newline, ← later]
      cases lines : split rest with
      | nil =>
        -- The character would be a line that is left open.
        rw [split_eq_nil_iff.1 lines] at ended
        rcases ended with impossible | last
        · cases impossible
        · exact absurd (Option.some.inj last) newline
      | cons line more => rfl

/-- A text of whole lines may be cut in front of its last ones. -/
theorem exists_last_lines {text : List Char} {count : Nat} (ended : EndsLine text)
    (enough : count ≤ text.count '\n') :
    ∃ front back, text = front ++ back ∧ EndsLine front ∧ EndsLine back ∧
      back.count '\n' = count := by
  have cut := (List.take_append_drop ((split text).length - count) (split text)).symm
  obtain ⟨-, later, closed⟩ := of_split_eq_append cut
  have joined := congrArg join cut
  rw [join_split, join_append] at joined
  have backEnds := EndsLine.of_append _ (joined ▸ ended)
  refine ⟨_, _, joined, ?_, backEnds, ?_⟩
  · by_cases empty : (split text).drop ((split text).length - count) = []
    · have nothing : join [] = [] := rfl
      rw [empty, nothing, List.append_nil] at joined
      rwa [← joined]
    · exact closed empty
  · rw [← length_split backEnds, later, List.length_drop, length_split ended]
    omega

/-! ## Terminators -/

/-- A carriage return in front of a newline belongs to the terminator. -/
theorem content_getLast?_ne_return {text : List Char} {line : Line} (member : line ∈ split text)
    (newline : line.ending = .newline) : line.content.getLast? ≠ some '\r' := by
  fun_induction split text generalizing line with
  | case1 => cases member
  | case2 rest inductionHypothesis =>
    rcases List.mem_cons.1 member with rfl | later
    · intro ended
      cases ended
    · exact inductionHypothesis later newline
  | case3 character rest inLine last inductionHypothesis =>
    obtain rfl := List.mem_singleton.1 member
    cases newline
  | case4 character rest inLine first more lines inductionHypothesis =>
    rcases List.mem_cons.1 member with rfl | later
    · have before := @inductionHypothesis first (lines ▸ List.mem_cons_self)
      obtain ⟨content, ending⟩ := first
      cases content with
      | cons next content =>
        intro ended
        refine before newline ?_
        rwa [← List.getLast?_cons_cons]
      | nil =>
        cases ending with
        | newline =>
          have joined : cons character ⟨[], .newline⟩ =
            if character = '\r' then ⟨[], .returnNewline⟩ else ⟨[character], .newline⟩ := rfl
          rw [joined] at newline ⊢
          intro ended
          split at ended
          case isTrue => cases ended
          case isFalse other => exact other (Option.some.inj ended)
        | unterminated => cases newline
        | returnNewline => cases newline
    · exact inductionHypothesis (lines ▸ List.mem_cons_of_mem _ later) newline

/-- The terminator that a line was split off with is the one that it shows. -/
theorem terminator_text {text : List Char} {line : Line} (member : line ∈ split text) :
    terminator line.text = line.ending.text := by
  have inside := newline_not_mem_content member
  have noReturn := content_getLast?_ne_return member
  obtain ⟨content, ending⟩ := line
  unfold terminator
  cases ending with
  | unterminated =>
    have whole : Line.text ⟨content, .unterminated⟩ = content := List.append_nil content
    have open_ {tail : List Char} (ends : '\n' ∈ tail) : ¬tail <:+ content :=
      fun suffix => inside (suffix.subset ends)
    rw [whole, if_neg (open_ (by simp)), if_neg (open_ (by simp))]
    rfl
  | newline =>
    have whole : Line.text ⟨content, .newline⟩ = content ++ ['\n'] := rfl
    have other : ¬['\r', '\n'] <:+ content ++ ['\n'] := by
      rintro ⟨front, same⟩
      have cut : (front ++ ['\r']) ++ ['\n'] = content ++ ['\n'] := by simpa using same
      apply noReturn rfl
      rw [← List.append_cancel_right cut, List.getLast?_concat]
    rw [whole, if_neg other, if_pos (List.suffix_append _ _)]
    rfl
  | returnNewline => exact if_pos (List.suffix_append _ _)

/-- A line shows whether a carriage return belongs to its terminator. -/
theorem returnNewline_suffix_iff {text : List Char} {line : Line} (member : line ∈ split text) :
    ['\r', '\n'] <:+ line.text ↔ line.ending = .returnNewline := by
  have same := terminator_text member
  constructor
  · intro shown
    rw [terminator, if_pos shown] at same
    cases ending : line.ending with
    | unterminated => rw [ending] at same; cases same
    | newline => rw [ending] at same; cases same
    | returnNewline => rfl
  · intro ending
    rw [Line.text, ending]
    exact List.suffix_append _ _

end ReleasePilot.Line
