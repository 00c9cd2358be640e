import ReleasePilot.Changelog.Reference
import ReleasePilot.Proofs.Text.Pieces
import ReleasePilot.Proofs.Text.Runs
import ReleasePilot.Proofs.Text.Spelling

/-!
# References in a text

What a reference is, is said here without the reader (`IsReference`), and so is what it is
for a text to leave one open (`LeavesOpen`). Two texts of which the first leaves no reference
open are shortened one by one, if none is opened where they meet
(`shortenReferences_append`). A reference that is left open is closed by the second text,
and the first is not what it would be alone (`shortenReferences_append_ne`).
-/

namespace ReleasePilot.Changelog

open Text (isDecimalDigit fold)

/-- A text that begins with a reference: how the reference is opened, its number, what else
it holds, and what follows it. -/
structure IsReference (opening number inner after text : List Char) : Prop where
  spelled : opening.map fold = referenceOpening
  nonempty : number ≠ []
  decimal : ∀ digit ∈ number, isDecimalDigit digit = true
  stops : Text.StopsRun isDecimalDigit inner
  unclosed : ')' ∉ inner
  whole : text = opening ++ number ++ inner ++ ')' :: after

/-- A text begins as a reference does; what follows the first digit of its number is `rest`. -/
def Opens (text rest : List Char) : Prop :=
  ∃ opening digit, opening.map fold = referenceOpening ∧ isDecimalDigit digit = true ∧
    text = opening ++ digit :: rest

/-- Somewhere a reference is opened that is not closed again. -/
def LeavesOpen (text : List Char) : Prop :=
  ∃ before opened rest, text = before ++ opened ∧ Opens opened rest ∧ ')' ∉ rest

/-- A text does not go on with the opening or the number of a reference that begins before. -/
structure BeginsApart (text : List Char) : Prop where
  opening : ∀ front back, front ≠ [] → back ≠ [] → front ++ back = referenceOpening →
    ¬back <+: text.map fold
  number : Text.StopsRun isDecimalDigit text

variable {text first second number after : List Char}

/-! ## Reading a reference -/

/-- The reader finds a reference exactly if the text begins with one. -/
theorem readReference?_eq_some_iff :
    readReference? text = some (number, after) ↔
      ∃ opening inner, IsReference opening number inner after text := by
  have noDigit : isDecimalDigit ')' = false := by decide
  unfold readReference?
  constructor
  · intro found
    obtain ⟨rest, opened, numbered⟩ := Option.bind_eq_some_iff.1 found
    obtain ⟨opening, spelled, rfl⟩ := Text.stripWord?_eq_some_iff_map_fold.1 opened
    simp only at numbered
    split at numbered
    case isTrue => cases numbered
    case isFalse nonempty =>
      obtain ⟨⟨inner, later⟩, closed, same⟩ := Option.bind_eq_some_iff.1 numbered
      obtain ⟨rfl, rfl⟩ := Prod.mk.inj (Option.some.inj same)
      obtain ⟨unclosed, behind⟩ := Text.splitOnce?_eq_some_iff.1 closed
      have stops := Text.stopsRun_dropWhile isDecimalDigit rest
      rw [behind] at stops
      refine ⟨opening, inner, spelled, by simpa using nonempty, ?_, stops.of_append, unclosed, ?_⟩
      · exact fun digit member => List.all_eq_true.1 List.all_takeWhile digit member
      · rw [List.append_assoc, List.append_assoc, ← behind, List.takeWhile_append_dropWhile]
  · rintro ⟨opening, inner, spelled, nonempty, decimal, stops, unclosed, rfl⟩
    have digits := stops.append noDigit after
    have opened : Text.stripWord? referenceOpening
        (opening ++ number ++ inner ++ ')' :: after) = some (number ++ (inner ++ ')' :: after)) :=
      Text.stripWord?_eq_some_iff_map_fold.2 ⟨opening, spelled, by simp⟩
    rw [opened]
    simp only [Option.bind_some, Option.bind_eq_bind]
    rw [Text.takeWhile_run decimal digits, Text.dropWhile_run decimal digits,
      if_neg (by simpa using nonempty), Text.splitOnce?_eq_some_iff.2 ⟨unclosed, rfl⟩]
    rfl

/-- A reference is one as soon as what opens it is closed again. -/
theorem exists_readReference?_iff :
    (∃ number after, readReference? text = some (number, after)) ↔
      ∃ rest, Opens text rest ∧ ')' ∈ rest := by
  simp only [readReference?_eq_some_iff]
  constructor
  · rintro ⟨number, after, opening, inner, spelled, nonempty, decimal, -, -, rfl⟩
    obtain ⟨digit, digits, rfl⟩ := List.exists_cons_of_ne_nil nonempty
    refine ⟨digits ++ inner ++ ')' :: after, ⟨opening, digit, spelled, ?_, by simp⟩, by simp⟩
    exact decimal digit List.mem_cons_self
  · rintro ⟨rest, ⟨opening, digit, spelled, decimal, rfl⟩, closed⟩
    have cut := List.takeWhile_append_dropWhile (p := isDecimalDigit) (l := rest)
    have digits : ∀ other ∈ rest.takeWhile isDecimalDigit, isDecimalDigit other = true :=
      fun other member => List.all_eq_true.1 List.all_takeWhile other member
    have behind : ')' ∈ rest.dropWhile isDecimalDigit := by
      rw [← cut, List.mem_append] at closed
      exact closed.resolve_left fun inside => absurd (digits _ inside) (by decide)
    obtain ⟨inner, after, dropped, unclosed⟩ := List.eq_append_cons_of_mem behind
    have stops := Text.stopsRun_dropWhile isDecimalDigit rest
    rw [dropped] at stops
    refine ⟨digit :: rest.takeWhile isDecimalDigit, after, opening, inner, spelled,
      List.cons_ne_nil _ _, List.forall_mem_cons.2 ⟨decimal, digits⟩, stops.of_append, unclosed, ?_⟩
    rw [List.append_assoc, List.append_assoc, ← dropped, List.cons_append, cut]

/-- No reference begins with a character that its opening does not begin with. -/
theorem readReference?_cons_of_ne {character : Char} (other : fold character ≠ '(')
    (rest : List Char) : readReference? (character :: rest) = none := by
  unfold readReference?
  have unopened : Text.stripWord? referenceOpening (character :: rest) = none := if_neg other
  rw [unopened]
  rfl

/-! ## What is left open -/

/-- An opening holds no closing parenthesis. -/
theorem not_mem_opening {opening : List Char} (spelled : opening.map fold = referenceOpening) :
    ')' ∉ opening := by
  intro member
  have folded : fold ')' ∈ opening.map fold := List.mem_map_of_mem member
  rw [spelled] at folded
  exact absurd folded (by decide)

/-- An opening begins with a parenthesis, ends with a number sign and has no other
parenthesis. -/
theorem exists_of_spelled {opening : List Char} (spelled : opening.map fold = referenceOpening) :
    ∃ letters, opening = '(' :: (letters ++ ['#']) ∧ '(' ∉ letters := by
  have parts : referenceOpening = '(' :: ("merge pull request ".toList ++ ['#']) := by decide
  rw [parts] at spelled
  obtain ⟨first, others, rfl, folded, spelled⟩ := List.map_eq_cons_iff.1 spelled
  obtain ⟨letters, last, rfl, lettered, ended⟩ := List.map_eq_append_iff.1 spelled
  obtain ⟨sign, rfl, signed⟩ := List.map_eq_singleton_iff.1 ended
  have parenthesis : first = '(' := Text.eq_of_fold_eq (by decide) folded
  have numberSign : sign = '#' := Text.eq_of_fold_eq (by decide) signed
  refine ⟨letters, by rw [parenthesis, numberSign], fun member => ?_⟩
  have among : fold '(' ∈ letters.map fold := List.mem_map_of_mem member
  rw [lettered] at among
  exact absurd among (by decide)

theorem Opens.append {rest : List Char} (opens : Opens text rest) (behind : List Char) :
    Opens (text ++ behind) (rest ++ behind) := by
  obtain ⟨opening, digit, spelled, decimal, rfl⟩ := opens
  exact ⟨opening, digit, spelled, decimal, by simp⟩

theorem Opens.second_letter {character next : Char} {others rest : List Char}
    (opens : Opens (character :: next :: others) rest) : fold next = 'm' := by
  obtain ⟨opening, digit, spelled, -, whole⟩ := opens
  match opening with
  | [] => cases spelled
  | [_] => cases (List.cons.inj spelled).2
  | _ :: second :: _ =>
    obtain ⟨rfl, -⟩ := List.cons.inj (List.cons.inj whole).2
    exact (List.cons.inj (List.cons.inj spelled).2).1

/-- A text that leaves a reference open is longer than the opening. -/
theorem LeavesOpen.length_lt (leaves : LeavesOpen text) : referenceOpening.length < text.length := by
  obtain ⟨before, opened, rest, rfl, ⟨opening, digit, spelled, -, rfl⟩, -⟩ := leaves
  rw [← spelled, List.length_map, List.length_append, List.length_append, List.length_cons]
  omega

theorem LeavesOpen.append_left (front : List Char) (leaves : LeavesOpen text) :
    LeavesOpen (front ++ text) := by
  obtain ⟨before, opened, rest, rfl, opens, unclosed⟩ := leaves
  exact ⟨front ++ before, opened, rest, by rw [List.append_assoc], opens, unclosed⟩

/-- A reference that is left open is opened behind every closing parenthesis. -/
theorem LeavesOpen.of_append_cons {front : List Char} (leaves : LeavesOpen (front ++ ')' :: after)) :
    LeavesOpen after := by
  obtain ⟨before, opened, rest, whole, opens, unclosed⟩ := leaves
  have closedBefore : ')' ∉ opened := by
    obtain ⟨opening, digit, spelled, decimal, rfl⟩ := opens
    have noDigit : ')' ≠ digit := by
      rintro rfl
      exact absurd decimal (by decide)
    simp [not_mem_opening spelled, noDigit, unclosed]
  have cut : (front ++ [')']) ++ after = before ++ opened := by simpa using whole
  rcases List.append_eq_append_iff.1 cut with ⟨middle, -, rfl⟩ | ⟨middle, ends, rfl⟩
  · exact ⟨middle, opened, rest, rfl, opens, unclosed⟩
  · cases List.eq_nil_or_concat middle with
    | inl none => exact ⟨[], after, rest, rfl, by simpa [none] using opens, unclosed⟩
    | inr some =>
      obtain ⟨init, last, rfl⟩ := some
      have same : last = ')' := by
        have lasts := congrArg List.getLast? ends
        simpa using lasts.symm
      exact absurd (by simp [same]) closedBefore

/-! ## Shortening -/

theorem shortenReferences_nil : shortenReferences [] = [] := by
  rw [shortenReferences]
  rfl

theorem shortenReferences_of_some (found : readReference? text = some (number, after)) :
    shortenReferences text = "(#".toList ++ number ++ ')' :: shortenReferences after := by
  rw [shortenReferences]
  split
  case h_1 other later same =>
    obtain ⟨rfl, rfl⟩ := Prod.mk.inj (Option.some.inj (found.symm.trans same))
    rfl
  case h_2 none => cases found.symm.trans none

theorem shortenReferences_cons_of_none {character : Char} {rest : List Char}
    (none : readReference? (character :: rest) = none) :
    shortenReferences (character :: rest) = character :: shortenReferences rest := by
  rw [shortenReferences]
  split
  case h_1 found => cases none.symm.trans found
  case h_2 => rfl

theorem shortenReferences_cons_of_ne {character : Char} (other : fold character ≠ '(')
    (rest : List Char) :
    shortenReferences (character :: rest) = character :: shortenReferences rest :=
  shortenReferences_cons_of_none (readReference?_cons_of_ne other rest)

theorem shortenReferences_eq_nil_iff : shortenReferences text = [] ↔ text = [] := by
  constructor
  · intro nothing
    cases text with
    | nil => rfl
    | cons character rest =>
      cases read : readReference? (character :: rest) with
      | some reference =>
        rw [shortenReferences_of_some read] at nothing
        cases nothing
      | none =>
        rw [shortenReferences_cons_of_none read] at nothing
        cases nothing
  · rintro rfl
    exact shortenReferences_nil

/-- Shortening leaves characters out and brings in none. -/
theorem shortenReferences_sublist (text : List Char) :
    (shortenReferences text).Sublist text := by
  induction text using shortenReferences.induct with
  | case1 text number after found inductionHypothesis =>
    obtain ⟨opening, inner, spelled, -, -, -, -, rfl⟩ := readReference?_eq_some_iff.1 found
    obtain ⟨letters, rfl, -⟩ := exists_of_spelled spelled
    have opened : "(#".toList.Sublist ('(' :: (letters ++ ['#'])) :=
      (List.sublist_append_right letters ['#']).cons_cons '('
    rw [shortenReferences_of_some found, List.append_assoc _ inner]
    exact (opened.append (.refl number)).append
      ((inductionHypothesis.cons_cons ')').trans (List.sublist_append_right inner _))
  | case2 => rw [shortenReferences_nil]
  | case3 character rest unread inductionHypothesis =>
    rw [shortenReferences_cons_of_none unread]
    exact inductionHypothesis.cons_cons character

/-- A text on one line stays on one line. -/
theorem newline_not_mem_shortenReferences (inLine : '\n' ∉ text) :
    '\n' ∉ shortenReferences text :=
  fun member => inLine ((shortenReferences_sublist text).subset member)

/-- A text ends as it did, as a reference keeps its closing parenthesis. -/
theorem getLast?_shortenReferences (text : List Char) :
    (shortenReferences text).getLast? = text.getLast? := by
  induction text using shortenReferences.induct with
  | case1 text number after found inductionHypothesis =>
    obtain ⟨opening, inner, -, -, -, -, -, whole⟩ := readReference?_eq_some_iff.1 found
    have ends (front rest : List Char) :
        (front ++ ')' :: rest).getLast? = some (rest.getLast?.getD ')') := by
      rw [List.getLast?_append, List.getLast?_cons]
      rfl
    rw [shortenReferences_of_some found, whole, ends, ends, inductionHypothesis]
  | case2 => rw [shortenReferences_nil]
  | case3 character rest unread inductionHypothesis =>
    rw [shortenReferences_cons_of_none unread, List.getLast?_cons, List.getLast?_cons,
      inductionHypothesis]

/-! ## Two texts behind each other -/

/-- What follows a reference may be followed by more. -/
theorem readReference?_append_of_some (found : readReference? first = some (number, after))
    (second : List Char) : readReference? (first ++ second) = some (number, after ++ second) := by
  obtain ⟨opening, inner, spelled, nonempty, decimal, stops, unclosed, rfl⟩ :=
    readReference?_eq_some_iff.1 found
  exact readReference?_eq_some_iff.2
    ⟨opening, inner, spelled, nonempty, decimal, stops, unclosed, by simp⟩

/-- No reference begins where it would have to go on in a text that begins apart. -/
theorem readReference?_append_of_none (unread : readReference? first = none) (nonempty : first ≠ [])
    (closed : ¬LeavesOpen first) (apart : BeginsApart second) :
    readReference? (first ++ second) = none := by
  rw [Option.eq_none_iff_forall_ne_some]
  rintro ⟨number, after⟩ found
  obtain ⟨rest, ⟨opening, digit, spelled, decimal, whole⟩, closes⟩ :=
    exists_readReference?_iff.1 ⟨number, after, found⟩
  rcases List.append_eq_append_iff.1 whole with ⟨back, rfl, behind⟩ | ⟨tail, rfl, behind⟩
  · -- The opening, or at least the number, would begin in the second text.
    cases back with
    | nil => exact absurd decimal (by simp [apart.number digit (by rw [behind]; rfl)])
    | cons character back =>
      rw [List.map_append] at spelled
      refine apart.opening _ _ (by simpa using nonempty) (by simp) spelled ?_
      rw [behind, List.map_append]
      exact List.prefix_append _ _
  · cases tail with
    | nil =>
      have head : second.head? = some digit := by
        rw [show second = digit :: rest from behind.symm]
        rfl
      exact absurd decimal (by simp [apart.number digit head])
    | cons next tail =>
      obtain ⟨rfl, rfl⟩ := List.cons.inj behind
      have opens : Opens (opening ++ digit :: tail) tail := ⟨opening, digit, spelled, decimal, rfl⟩
      by_cases inside : ')' ∈ tail
      · obtain ⟨number, after, read⟩ := exists_readReference?_iff.2 ⟨tail, opens, inside⟩
        cases unread.symm.trans read
      · exact closed ⟨[], _, tail, rfl, opens, inside⟩

/-- Two texts are shortened one by one if no reference belongs to both. -/
theorem shortenReferences_append (closed : ¬LeavesOpen first) (apart : BeginsApart second) :
    shortenReferences (first ++ second) = shortenReferences first ++ shortenReferences second := by
  induction first using shortenReferences.induct with
  | case1 first number after found inductionHypothesis =>
    have reference := readReference?_eq_some_iff.1 found
    obtain ⟨opening, inner, -, -, -, -, -, whole⟩ := reference
    have closedLater : ¬LeavesOpen after := by
      intro leaves
      apply closed
      rw [whole, List.append_cons]
      exact leaves.append_left _
    rw [shortenReferences_of_some (readReference?_append_of_some found second),
      shortenReferences_of_some found, inductionHypothesis closedLater]
    simp
  | case2 => rw [shortenReferences_nil, List.nil_append, List.nil_append]
  | case3 character rest unread inductionHypothesis =>
    have closedLater : ¬LeavesOpen rest := fun leaves => closed (leaves.append_left [character])
    have still := readReference?_append_of_none unread (List.cons_ne_nil _ _) closed apart
    rw [List.cons_append] at still
    rw [List.cons_append, shortenReferences_cons_of_none still,
      shortenReferences_cons_of_none unread, inductionHypothesis closedLater, List.cons_append]

/-- A reference that is left open is closed by what follows, so that the first text does not
stay as it is alone. -/
theorem shortenReferences_append_ne (leaves : LeavesOpen first) (closes : ')' ∈ second)
    (more : List Char) : shortenReferences (first ++ second) ≠ shortenReferences first ++ more := by
  induction first using shortenReferences.induct with
  | case1 first number after found inductionHypothesis =>
    obtain ⟨opening, inner, -, -, -, -, -, whole⟩ := readReference?_eq_some_iff.1 found
    rw [whole] at leaves
    have later := inductionHypothesis leaves.of_append_cons
    rw [shortenReferences_of_some (readReference?_append_of_some found second),
      shortenReferences_of_some found]
    simpa using later
  | case2 =>
    exact absurd leaves.length_lt (by simp)
  | case3 character rest unread inductionHypothesis =>
    have longer : rest ≠ [] := by
      rintro rfl
      have long : referenceOpening.length < 1 := leaves.length_lt
      exact absurd long (by decide)
    obtain ⟨next, others, rfl⟩ := List.exists_cons_of_ne_nil longer
    cases read : readReference? (character :: next :: others ++ second) with
    | some reference =>
      -- A reference is shortened to its number here, and the first text alone keeps its opening.
      obtain ⟨rest, opens, -⟩ := exists_readReference?_iff.1 ⟨reference.1, reference.2, read⟩
      have letter : fold next = 'm' := opens.second_letter
      have kept := shortenReferences_cons_of_ne (by rw [letter]; decide) others
      rw [shortenReferences_of_some read, shortenReferences_cons_of_none unread, kept]
      intro same
      have sign : '#' = next := (List.cons.inj (List.cons.inj same).2).1
      rw [← sign] at letter
      exact absurd letter (by decide)
    | none =>
      have later : LeavesOpen (next :: others) := by
        obtain ⟨before, opened, rest, whole, opens, unclosed⟩ := leaves
        cases before with
        | nil =>
          obtain ⟨number, after, found⟩ := exists_readReference?_iff.2
            ⟨rest ++ second, opens.append second, List.mem_append_right _ closes⟩
          rw [List.nil_append] at whole
          rw [← whole, read] at found
          cases found
        | cons first before =>
          exact ⟨before, opened, rest, (List.cons.inj whole).2, opens, unclosed⟩
      rw [List.cons_append] at read
      rw [List.cons_append, shortenReferences_cons_of_none read,
        shortenReferences_cons_of_none unread, List.cons_append]
      intro same
      exact inductionHypothesis later (List.cons.inj same).2

end ReleasePilot.Changelog
