import ReleasePilot.Proofs.Changelog.References

/-!
# What shortening leaves of a text

A shortened text holds no reference, so that shortening it again changes nothing. This is
not plain from the reader, as a number that was put in place of a reference stands next to
text that it did not stand next to before. But no opening runs into such a number: what
shortening put into a text begins with a parenthesis, which no opening holds further on
(`of_append_eq_shortenReferences`).

What is cut down are the references that are found from left to right (`Marks`), and all
else stays in its place.
-/

namespace ReleasePilot.Changelog

open Text (isDecimalDigit fold)

/-- Somewhere in the text stands a reference. -/
def HoldsReference (text : List Char) : Prop :=
  ∃ before opening number inner after, opening.map fold = referenceOpening ∧ number ≠ [] ∧
    (∀ digit ∈ number, isDecimalDigit digit = true) ∧ ')' ∉ inner ∧
    text = before ++ opening ++ number ++ inner ++ ')' :: after

/-- A stretch of a text: a character by itself, or some text that is marked. -/
inductive Stretch where
  | plain (character : Char)
  | marked (passage : List Char)

namespace Stretch

/-- The text of a stretch. -/
def text : Stretch → List Char
  | .plain character => [character]
  | .marked passage => passage

/-- The text of a stretch with what is marked cut out. -/
def unmarked : Stretch → List Char
  | .plain character => [character]
  | .marked _ => []

end Stretch

/-- The references of a text are marked, from left to right and none within another. -/
inductive Marks : List Char → List Stretch → Prop where
  | nil : Marks [] []
  | reference {opening number inner after text : List Char} {more : List Stretch}
      (found : IsReference opening number inner after text) (rest : Marks after more) :
      Marks text (.marked (opening ++ number ++ inner ++ [')']) :: more)
  | plain {character : Char} {others : List Char} {more : List Stretch}
      (none : ∀ opening number inner after,
        ¬IsReference opening number inner after (character :: others))
      (rest : Marks others more) : Marks (character :: others) (.plain character :: more)

/-- A stretch with a reference cut down to its number. -/
inductive Shortens : Stretch → Stretch → Prop where
  | reference {opening number inner passage : List Char}
      (whole : IsReference opening number inner [] passage) :
      Shortens (.marked passage) (.marked ("(#".toList ++ number ++ [')']))
  | plain (character : Char) : Shortens (.plain character) (.plain character)

variable {text rest number after : List Char} {character : Char}

/-! ## Where references stand -/

theorem holdsReference_iff :
    HoldsReference text ↔
      ∃ before opened rest, text = before ++ opened ∧ Opens opened rest ∧ ')' ∈ rest := by
  constructor
  · rintro ⟨before, opening, number, inner, after, spelled, nonempty, decimal, -, rfl⟩
    obtain ⟨digit, digits, rfl⟩ := List.exists_cons_of_ne_nil nonempty
    refine ⟨before, opening ++ digit :: (digits ++ inner ++ ')' :: after), _, by simp,
      ⟨opening, digit, spelled, decimal digit List.mem_cons_self, rfl⟩, by simp⟩
  · rintro ⟨before, _, rest, rfl, ⟨opening, digit, spelled, decimal, rfl⟩, closed⟩
    obtain ⟨inner, after, rfl, unclosed⟩ := List.eq_append_cons_of_mem closed
    exact ⟨before, opening, [digit], inner, after, spelled, List.cons_ne_nil _ _,
      List.forall_mem_singleton.2 decimal, unclosed, by simp⟩

theorem not_holdsReference_nil : ¬HoldsReference [] := by
  rintro ⟨before, opening, number, inner, after, -, -, -, -, whole⟩
  simp at whole

/-- A reference stands at the beginning of a text or behind it. -/
theorem holdsReference_cons :
    HoldsReference (character :: rest) ↔
      (∃ number after, readReference? (character :: rest) = some (number, after)) ∨
        HoldsReference rest := by
  rw [exists_readReference?_iff, holdsReference_iff, holdsReference_iff]
  constructor
  · rintro ⟨_ | ⟨first, before⟩, opened, tail, whole, opens, closed⟩
    · rw [List.nil_append] at whole
      exact .inl ⟨tail, whole ▸ opens, closed⟩
    · exact .inr ⟨before, opened, tail, (List.cons.inj whole).2, opens, closed⟩
  · rintro (⟨tail, opens, closed⟩ | ⟨before, opened, tail, rfl, opens, closed⟩)
    · exact ⟨[], _, tail, rfl, opens, closed⟩
    · exact ⟨character :: before, opened, tail, rfl, opens, closed⟩

/-- A text without references stays as it is. -/
theorem shortenReferences_eq_self (free : ¬HoldsReference text) :
    shortenReferences text = text := by
  induction text with
  | nil => exact shortenReferences_nil
  | cons character rest inductionHypothesis =>
    rw [holdsReference_cons, not_or] at free
    have unread : readReference? (character :: rest) = none :=
      Option.eq_none_iff_forall_ne_some.2 fun found read => free.1 ⟨_, _, read⟩
    rw [shortenReferences_cons_of_none unread, inductionHypothesis free.2]

/-! ## What is put in place of a reference -/

/-- What a shortened text begins with, up to the first opening parenthesis, the text itself
begins with. -/
theorem of_append_eq_shortenReferences {word tail : List Char} (plain : '(' ∉ word)
    (whole : word ++ tail = shortenReferences text) :
    ∃ rest, text = word ++ rest ∧ tail = shortenReferences rest := by
  induction word generalizing text with
  | nil => exact ⟨text, rfl, whole⟩
  | cons letter word inductionHypothesis =>
    rw [List.mem_cons, not_or] at plain
    cases text with
    | nil =>
      rw [shortenReferences_nil] at whole
      cases whole
    | cons character rest =>
      cases read : readReference? (character :: rest) with
      | some found =>
        rw [shortenReferences_of_some read] at whole
        exact absurd (List.cons.inj whole).1.symm plain.1
      | none =>
        rw [shortenReferences_cons_of_none read, List.cons_append] at whole
        obtain ⟨rfl, others⟩ := List.cons.inj whole
        obtain ⟨behind, rfl, same⟩ := inductionHypothesis plain.2 others
        exact ⟨behind, rfl, same⟩

/-- No reference begins where there is no opening parenthesis. -/
theorem holdsReference_of_append {front : List Char}
    (plain : ∀ character ∈ front, fold character ≠ '(')
    (holds : HoldsReference (front ++ rest)) : HoldsReference rest := by
  induction front with
  | nil => exact holds
  | cons character front inductionHypothesis =>
    obtain ⟨first, others⟩ := List.forall_mem_cons.1 plain
    rcases holdsReference_cons.1 holds with ⟨_, _, read⟩ | holds
    · cases (readReference?_cons_of_ne first (front ++ rest)).symm.trans read
    · exact inductionHypothesis others holds

/-- A number in place of a reference begins no reference. -/
theorem holdsReference_number_append (digits : ∀ digit ∈ number, isDecimalDigit digit = true)
    (holds : HoldsReference ("(#".toList ++ number ++ ')' :: rest)) : HoldsReference rest := by
  have plain : ∀ character ∈ '#' :: (number ++ [')']), fold character ≠ '(' := by
    intro character member folded
    obtain rfl : character = '(' := Text.eq_of_fold_eq (by decide) folded
    simp only [List.mem_cons, List.mem_append, List.not_mem_nil, or_false, Char.reduceEq,
      false_or] at member
    exact absurd (digits _ member) (by decide)
  rcases holdsReference_cons.1 holds with ⟨_, _, read⟩ | holds
  · obtain ⟨_, opens, -⟩ := exists_readReference?_iff.1 ⟨_, _, read⟩
    exact absurd opens.second_letter (by decide)
  · have shape : '#' :: (number ++ ')' :: rest) = '#' :: (number ++ [')']) ++ rest := by simp
    exact holdsReference_of_append plain (shape ▸ holds)

/-- No reference is left in a shortened text. -/
theorem not_holdsReference_shortenReferences (text : List Char) :
    ¬HoldsReference (shortenReferences text) := by
  induction text using shortenReferences.induct with
  | case1 text number after found inductionHypothesis =>
    obtain ⟨opening, inner, -, -, decimal, -, -, -⟩ := readReference?_eq_some_iff.1 found
    rw [shortenReferences_of_some found]
    exact fun holds => inductionHypothesis (holdsReference_number_append decimal holds)
  | case2 =>
    rw [shortenReferences_nil]
    exact not_holdsReference_nil
  | case3 character rest unread inductionHypothesis =>
    rw [shortenReferences_cons_of_none unread, holdsReference_cons, not_or]
    refine ⟨?_, inductionHypothesis⟩
    rintro ⟨number, after, read⟩
    -- An opening that begins here is no other than before, and it was closed before as well.
    obtain ⟨tail, ⟨opening, digit, spelled, decimal, whole⟩, closed⟩ :=
      exists_readReference?_iff.1 ⟨number, after, read⟩
    obtain ⟨letters, rfl, plain⟩ := exists_of_spelled spelled
    obtain ⟨rfl, whole⟩ := List.cons.inj whole
    have noParenthesis : '(' ∉ letters ++ ['#', digit] := by
      have other : digit ≠ '(' := by
        rintro rfl
        exact absurd decimal (by decide)
      simp [plain, other.symm]
    have begins : letters ++ ['#', digit] ++ tail = shortenReferences rest := by
      simpa using whole.symm
    obtain ⟨behind, rfl, rfl⟩ := of_append_eq_shortenReferences noParenthesis begins
    have opens : Opens ('(' :: (letters ++ ['#', digit] ++ behind)) behind :=
      ⟨'(' :: (letters ++ ['#']), digit, spelled, decimal, by simp⟩
    obtain ⟨number, after, found⟩ := exists_readReference?_iff.2
      ⟨behind, opens, (shortenReferences_sublist behind).subset closed⟩
    cases unread.symm.trans found

/-! ## What stays in its place -/

/-- A reference in a text is a whole text up to its closing parenthesis. -/
theorem IsReference.isolated {opening inner : List Char}
    (found : IsReference opening number inner after text) :
    IsReference opening number inner [] (opening ++ number ++ inner ++ [')']) :=
  { found with whole := rfl }

/-- A text begins with one reference at most. -/
theorem IsReference.unique {opening inner otherOpening otherNumber otherInner otherAfter :
    List Char} (found : IsReference opening number inner after text)
    (other : IsReference otherOpening otherNumber otherInner otherAfter text) :
    opening ++ number ++ inner ++ [')'] = otherOpening ++ otherNumber ++ otherInner ++ [')'] ∧
      after = otherAfter := by
  have read := readReference?_eq_some_iff.2 ⟨opening, inner, found⟩
  have readOther := readReference?_eq_some_iff.2 ⟨otherOpening, otherInner, other⟩
  obtain ⟨rfl, rfl⟩ := Prod.mk.inj (Option.some.inj (read.symm.trans readOther))
  have same := found.whole.symm.trans other.whole
  rw [List.append_cons _ _ after, List.append_cons _ _ after] at same
  exact ⟨List.append_cancel_right same, rfl⟩

/-- The references of a text are marked in one way only. -/
theorem Marks.unique {found other : List Stretch} (marks : Marks text found)
    (marksOther : Marks text other) : found = other := by
  induction marks generalizing other with
  | nil =>
    cases marksOther with
    | nil => rfl
    | reference reference =>
      have whole := reference.whole
      simp at whole
  | @reference opening number inner after text more found rest inductionHypothesis =>
    cases marksOther with
    | nil =>
      have whole := found.whole
      simp at whole
    | reference otherFound otherRest =>
      obtain ⟨same, rfl⟩ := found.unique otherFound
      rw [same, inductionHypothesis otherRest]
    | plain none => exact absurd found (none _ _ _ _)
  | plain none rest inductionHypothesis =>
    cases marksOther with
    | reference found => exact absurd found (none _ _ _ _)
    | plain _ otherRest => rw [inductionHypothesis otherRest]

/-- The references of a text can be marked, and marks on their numbers in the shortened text
correspond to them. -/
theorem exists_marks (text : List Char) :
    ∃ found inserted, Marks text found ∧ List.Forall₂ Shortens found inserted ∧
      inserted.flatMap Stretch.text = shortenReferences text := by
  induction text using shortenReferences.induct with
  | case1 text number after read inductionHypothesis =>
    obtain ⟨opening, inner, reference⟩ := readReference?_eq_some_iff.1 read
    obtain ⟨found, inserted, marks, shortens, whole⟩ := inductionHypothesis
    refine ⟨_, .marked ("(#".toList ++ number ++ [')']) :: inserted, .reference reference marks,
      .cons (.reference reference.isolated) shortens, ?_⟩
    rw [shortenReferences_of_some read, List.flatMap_cons, whole]
    exact (List.append_cons _ ')' _).symm
  | case2 => exact ⟨[], [], .nil, .nil, shortenReferences_nil.symm⟩
  | case3 character rest unread inductionHypothesis =>
    obtain ⟨found, inserted, marks, shortens, whole⟩ := inductionHypothesis
    refine ⟨.plain character :: found, .plain character :: inserted,
      .plain (fun opening number inner after reference => ?_) marks,
      .cons (.plain character) shortens, ?_⟩
    · cases unread.symm.trans (readReference?_eq_some_iff.2 ⟨opening, inner, reference⟩)
    · rw [shortenReferences_cons_of_none unread, List.flatMap_cons, whole]
      rfl

/-- Marked references are part of the text. -/
theorem Marks.whole {found : List Stretch} (marks : Marks text found) :
    found.flatMap Stretch.text = text := by
  induction marks with
  | nil => rfl
  | reference found rest inductionHypothesis =>
    rw [List.flatMap_cons, inductionHypothesis, found.whole]
    exact (List.append_cons _ ')' _).symm
  | plain none rest inductionHypothesis =>
    rw [List.flatMap_cons, inductionHypothesis]
    rfl

/-- Only what is marked is shortened. -/
theorem unmarked_of_shortens {found inserted : List Stretch}
    (shortens : List.Forall₂ Shortens found inserted) :
    found.flatMap Stretch.unmarked = inserted.flatMap Stretch.unmarked := by
  induction shortens with
  | nil => rfl
  | cons shortens _ inductionHypothesis =>
    rw [List.flatMap_cons, List.flatMap_cons, inductionHypothesis]
    cases shortens <;> rfl

/-- Shortening leaves no reference, shortening again changes nothing, and with the references
cut out, the text is the shortened text with their numbers cut out. -/
theorem shortenReferences_complete (text : List Char) :
    ¬HoldsReference (shortenReferences text) ∧
      shortenReferences (shortenReferences text) = shortenReferences text ∧
      ∃ found inserted, (∀ marked, Marks text marked ↔ marked = found) ∧
        List.Forall₂ Shortens found inserted ∧
        found.flatMap Stretch.text = text ∧
        inserted.flatMap Stretch.text = shortenReferences text ∧
        found.flatMap Stretch.unmarked = inserted.flatMap Stretch.unmarked := by
  have free := not_holdsReference_shortenReferences text
  obtain ⟨found, inserted, marks, shortens, whole⟩ := exists_marks text
  refine ⟨free, shortenReferences_eq_self free, found, inserted, fun marked => ?_, shortens,
    marks.whole, whole, unmarked_of_shortens shortens⟩
  constructor
  · intro other
    exact other.unique marks
  · rintro rfl
    exact marks

end ReleasePilot.Changelog
