import Mathlib.Data.List.Infix
import ReleasePilot.Changelog.MergeLog
import ReleasePilot.Proofs.Changelog.References
import ReleasePilot.Proofs.Text.Lines

/-!
# Bullets of merges

A bullet is a dash, a blank and one line (`bullet_eq`, `newline_not_mem_bullet`). The bullet
of a pull request ends with its number in parentheses, unless the name of the branch closes
the parentheses early or the body opens a reference that swallows them
(`bullet_pullRequest_iff`).
-/

namespace ReleasePilot.Changelog

variable {subject body : List Char}

/-! ## Bodies -/

/-- A text is blank if all its lines are. -/
theorem forall_isBlank_iff {text : List Char} :
    (∀ character ∈ text, Text.isBlank character = true) ↔
      ∀ line ∈ Line.split text, ∀ character ∈ line.content, Text.isBlank character = true := by
  conv_lhs => rw [← Line.join_split text]
  constructor
  · intro blank line member character inside
    exact blank character (List.mem_flatMap.2 ⟨line, member, List.mem_append_left _ inside⟩)
  · intro blank character among
    obtain ⟨line, member, inside⟩ := List.mem_flatMap.1 among
    rcases List.mem_append.1 inside with content | terminator
    · exact blank line member character content
    · exact Line.isBlank_of_mem_ending terminator

/-- Nothing is left of a body that is blank, and only of such a body. -/
theorem joinBody_eq_nil_iff :
    joinBody body = [] ↔ ∀ character ∈ body, Text.isBlank character = true := by
  have shown : ∀ piece ∈ ((Line.split body).map fun line => Text.trim line.content).filter
      (fun line => !line.isEmpty), piece ≠ [] := by
    intro piece member
    simpa using (List.mem_filter.1 member).2
  rw [joinBody, Text.joinWith_eq_nil_iff shown, forall_isBlank_iff, List.filter_eq_nil_iff]
  simp [Text.trim_eq_nil_iff]

theorem newline_not_mem_joinBody (body : List Char) : '\n' ∉ joinBody body := by
  intro member
  rcases Text.mem_joinWith member with blank | ⟨piece, among, inside⟩
  · exact absurd blank (by decide)
  · obtain ⟨line, found, rfl⟩ := List.mem_map.1 (List.mem_of_mem_filter among)
    exact Line.newline_not_mem_content found (Text.mem_of_mem_trim inside)

/-! ## The shape of a bullet -/

/-- What a bullet says behind its dash, with all references as they were written. -/
def quotation (subject body : List Char) : List Char :=
  if (joinBody body).isEmpty then Text.trim subject
  else joinBody body ++ " (".toList ++ Text.trim subject ++ [')']

/-- A bullet is a dash, a blank and a text with its references shortened. -/
theorem bullet_eq (subject body : List Char) :
    bullet subject body = "- ".toList ++ shortenReferences (quotation subject body) := by
  have dash (text : List Char) :
      shortenReferences ("- ".toList ++ text) = "- ".toList ++ shortenReferences text := by
    change shortenReferences ('-' :: ' ' :: text) = '-' :: ' ' :: shortenReferences text
    rw [shortenReferences_cons_of_ne (by decide), shortenReferences_cons_of_ne (by decide)]
  rw [bullet, ← dash, quotation]
  split <;> simp only [List.append_assoc]

theorem newline_not_mem_bullet (inLine : '\n' ∉ subject) (body : List Char) :
    '\n' ∉ bullet subject body := by
  have trimmed : '\n' ∉ Text.trim subject := mt Text.mem_of_mem_trim inLine
  have quoted : '\n' ∉ quotation subject body := by
    unfold quotation
    split
    · exact trimmed
    · simp [newline_not_mem_joinBody, trimmed]
  rw [bullet_eq, List.mem_append, not_or]
  exact ⟨by decide, newline_not_mem_shortenReferences quoted⟩

/-- A bullet does not end with a carriage return, which would belong to a terminator. -/
theorem getLast?_bullet_ne (subject body : List Char) :
    (bullet subject body).getLast? ≠ some '\r' := by
  rw [bullet_eq, List.getLast?_append, getLast?_shortenReferences, quotation]
  split
  · intro last
    cases trimmed : (Text.trim subject).getLast? with
    | none =>
      rw [trimmed] at last
      cases last
    | some character =>
      rw [trimmed] at last
      have stays := Text.getLast?_trimEnd Text.isBlank _ character trimmed
      obtain rfl : character = '\r' := Option.some.inj last
      exact absurd stays (by decide)
  · rw [List.getLast?_append]
    nofun

/-! ## Pull requests -/

/-- The subject of the merge of a pull request. -/
def pullRequestSubject (number branch : List Char) : List Char :=
  "Merge pull request #".toList ++ number ++ " from ".toList ++ branch

variable {number branch : List Char}

/-- What a quoted subject holds behind the number of its pull request. -/
theorem exists_trim_pullRequestSubject (branch : List Char) (numbered : number ≠ [])
    (digits : ∀ digit ∈ number, digit.isDigit = true) :
    ∃ tail, Text.trim (pullRequestSubject number branch) =
        "Merge pull request #".toList ++ number ++ tail ∧
      Text.StopsRun Text.isDecimalDigit tail ∧ (')' ∈ tail ↔ ')' ∈ branch) := by
  have whole : pullRequestSubject number branch =
      ("Merge pull request #".toList ++ number) ++ (" from ".toList ++ branch) :=
    List.append_assoc _ _ _
  have starts : ∃ first ∈ ("Merge pull request #".toList ++ number).head?,
      Text.isBlank first = false := ⟨'M', by simp, by decide⟩
  have stays : ∀ character ∈ ("Merge pull request #".toList ++ number).getLast?,
      Text.isBlank character = false := by
    intro character last
    rw [List.getLast?_append, List.getLast?_eq_some_getLast numbered] at last
    obtain rfl : number.getLast numbered = character := Option.some.inj last
    exact Text.isBlank_eq_false_of_isDigit (digits _ (List.getLast_mem numbered))
  have space : (" from ".toList ++ branch).head? = some ' ' := by simp
  have same : ')' ∈ " from ".toList ++ branch ↔ ')' ∈ branch := by simp
  obtain ⟨blanks, blank, parts⟩ := Text.exists_trimmed Text.isBlank (" from ".toList ++ branch)
  refine ⟨_, by rw [whole, Text.trim_append starts stays], ?_, ?_⟩
  · -- Whatever is kept behind the number begins with the blank there, and the number ends.
    intro character head
    rw [parts, List.head?_append, head] at space
    obtain rfl : character = ' ' := Option.some.inj space
    decide
  · have outside : ')' ∉ blanks := fun member => absurd (blank _ member) (by decide)
    rw [parts, List.mem_append] at same
    rw [← same]
    exact (or_iff_left outside).symm

/-- The subject of a pull request in parentheses, with what the subject holds behind the
number. -/
def parenthesized (number tail : List Char) : List Char :=
  '(' :: ("Merge pull request #".toList ++ number ++ tail ++ [')'])

/-- The body is quoted in front of a pull request. -/
theorem quotation_pullRequest {tail : List Char} (nonempty : joinBody body ≠ [])
    (trimmed : Text.trim (pullRequestSubject number branch) =
      "Merge pull request #".toList ++ number ++ tail) :
    quotation (pullRequestSubject number branch) body =
      joinBody body ++ ' ' :: parenthesized number tail := by
  have spaced : " (".toList = [' ', '('] := by decide
  rw [quotation, if_neg (by simpa using nonempty), trimmed, spaced, List.append_assoc,
    List.append_assoc]
  rfl

/-- A pull request in parentheses is a reference up to the first closing parenthesis. -/
theorem shortenReferences_parenthesized {tail inner after : List Char} (numbered : number ≠ [])
    (digits : ∀ digit ∈ number, digit.isDigit = true)
    (stops : Text.StopsRun Text.isDecimalDigit inner) (unclosed : ')' ∉ inner)
    (whole : tail ++ [')'] = inner ++ ')' :: after) :
    shortenReferences (parenthesized number tail) =
      "(#".toList ++ number ++ ')' :: shortenReferences after := by
  apply shortenReferences_of_some
  refine readReference?_eq_some_iff.2 ⟨'(' :: "Merge pull request #".toList, inner, by decide,
    numbered, fun digit member => Text.isDecimalDigit_of_isDigit (digits digit member), stops,
    unclosed, ?_⟩
  rw [parenthesized, List.append_assoc _ tail, whole, ← List.append_assoc]
  rfl

/-- A pull request in parentheses is cut down to its number exactly if it holds no closing
parenthesis but its own. -/
theorem shortenReferences_parenthesized_iff {tail : List Char} (numbered : number ≠ [])
    (digits : ∀ digit ∈ number, digit.isDigit = true)
    (stops : Text.StopsRun Text.isDecimalDigit tail) :
    shortenReferences (parenthesized number tail) = "(#".toList ++ number ++ [')'] ↔
      ')' ∉ tail := by
  constructor
  · intro short closes
    obtain ⟨inner, more, rfl, unclosed⟩ := List.eq_append_cons_of_mem closes
    rw [shortenReferences_parenthesized numbered digits stops.of_append unclosed
      (List.append_assoc inner (')' :: more) [')'])] at short
    have nothing := (List.cons.inj (List.append_cancel_left short)).2
    exact absurd (shortenReferences_eq_nil_iff.1 nothing) (by simp)
  · intro unclosed
    rw [shortenReferences_parenthesized numbered digits stops unclosed rfl, shortenReferences_nil]

/-- What is quoted in parentheses is no part of a reference that begins before. -/
theorem beginsApart_parenthesis (rest : List Char) : BeginsApart (' ' :: '(' :: rest) where
  opening front back frontSome backSome spelled begins := by
    have apart : ∀ count < referenceOpening.length, 0 < count →
        ¬(referenceOpening.drop count).take 2 <+: [' ', '('] := by decide
    have same : back = referenceOpening.drop front.length := by
      rw [← spelled, List.drop_left]
    have shorter : front.length < referenceOpening.length := by
      rw [← spelled, List.length_append]
      exact Nat.lt_add_of_pos_right (List.length_pos_iff.2 backSome)
    refine apart front.length shorter (List.length_pos_iff.2 frontSome) ?_
    rw [← same]
    exact List.IsPrefix.take begins 2
  number := Text.stopsRun_cons (by decide)

/-- The bullet of a pull request ends with its number alone, and its body is as it would be
alone, exactly if the name of the branch has no closing parenthesis and the body leaves no
reference open. -/
theorem bullet_pullRequest_iff (branch : List Char) (numbered : number ≠ [])
    (digits : ∀ digit ∈ number, digit.isDigit = true)
    (said : ∃ character ∈ body, Text.isBlank character = false) :
    bullet (pullRequestSubject number branch) body =
        "- ".toList ++ shortenReferences (joinBody body) ++ " (#".toList ++ number ++ [')'] ↔
      ')' ∉ branch ∧ ¬LeavesOpen (joinBody body) := by
  obtain ⟨tail, trimmed, stops, closes⟩ :=
    exists_trim_pullRequestSubject branch numbered digits
  have nonempty : joinBody body ≠ [] := by
    obtain ⟨character, member, solid⟩ := said
    intro nothing
    exact absurd (joinBody_eq_nil_iff.1 nothing character member) (by simp [solid])
  have expected : "- ".toList ++ shortenReferences (joinBody body) ++ " (#".toList ++ number ++
        [')'] = "- ".toList ++ (shortenReferences (joinBody body) ++
          ' ' :: ("(#".toList ++ number ++ [')'])) := by
    have spaced : " (#".toList = ' ' :: "(#".toList := by decide
    rw [spaced]
    simp only [List.append_assoc, List.cons_append]
  rw [bullet_eq, quotation_pullRequest nonempty trimmed, expected, List.append_cancel_left_eq,
    ← closes]
  by_cases leaves : LeavesOpen (joinBody body)
  case pos =>
    -- The body's reference goes on to the parenthesis behind the subject.
    have closed : ')' ∈ ' ' :: parenthesized number tail := by simp [parenthesized]
    exact iff_of_false (shortenReferences_append_ne leaves closed _) fun both => both.2 leaves
  case neg =>
    have kept : shortenReferences (' ' :: parenthesized number tail) =
        ' ' :: shortenReferences (parenthesized number tail) :=
      shortenReferences_cons_of_ne (by decide) _
    have apart : BeginsApart (' ' :: parenthesized number tail) := beginsApart_parenthesis _
    rw [shortenReferences_append leaves apart, kept,
      List.append_cancel_left_eq, List.cons_inj_right,
      shortenReferences_parenthesized_iff numbered digits stops]
    exact (and_iff_left leaves).symm

/-- A body that opens no reference has its bullet as long as no parenthesis stands in the name
of the branch. A branch of that kind and a body that opens a reference spoil it. -/
theorem bullet_pullRequest_parentheses :
    bullet (pullRequestSubject "7".toList "acme/fix".toList) "Fix".toList =
        "- ".toList ++ shortenReferences (joinBody "Fix".toList) ++ " (#".toList ++ "7".toList ++
          [')'] ∧
      bullet (pullRequestSubject "7".toList "acme/fix-(parens)".toList) "Fix".toList ≠
        "- ".toList ++ shortenReferences (joinBody "Fix".toList) ++ " (#".toList ++ "7".toList ++
          [')'] ∧
      bullet (pullRequestSubject "5".toList "x".toList) "See (merge pull request #3".toList ≠
        "- ".toList ++ shortenReferences (joinBody "See (merge pull request #3".toList) ++
          " (#".toList ++ "5".toList ++ [')'] := by
  have spoken : ∃ character ∈ "Fix".toList, Text.isBlank character = false := ⟨'F', by decide⟩
  refine ⟨(bullet_pullRequest_iff _ (by decide) (by simp) spoken).2 ⟨by decide, ?_⟩,
    mt (bullet_pullRequest_iff _ (by decide) (by simp) spoken).1 ?_,
    mt (bullet_pullRequest_iff _ (by decide) (by simp) ⟨'S', by decide⟩).1 ?_⟩
  · intro leaves
    exact absurd leaves.length_lt (by decide)
  · intro both
    exact both.1 (by decide)
  · intro both
    exact both.2 ⟨"See ".toList, "(merge pull request #3".toList, [], by decide,
      ⟨"(merge pull request #".toList, '3', by decide, by decide, by decide⟩, by decide⟩

end ReleasePilot.Changelog
