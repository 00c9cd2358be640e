import ReleasePilot.Proofs.Text.Pieces
import ReleasePilot.Proofs.Version.Naming

/-!
# Local labels

A text is read as a label exactly if the grammar derives it from runs of letters
and digits (`isLabel_iff_exists`).
-/

namespace ReleasePilot

namespace Version.Grammar

theorem isLabelCharacter_iff_matches {character : Char} :
    isLabelCharacter character = true ↔
      ∃ letter, Text.IsPlain letter ∧ Text.Matches letter character := by
  have folded : isLabelCharacter character = true ↔ Text.IsPlain (Text.fold character) := by
    have letter : (Text.fold character).isAlpha =
        ((Text.fold character).isUpper || (Text.fold character).isLower) := rfl
    simp only [isLabelCharacter, letter, Bool.or_eq_true, Bool.and_eq_true, Text.isDigit_iff,
      Text.isUpper_iff, Text.isLower_iff, Text.isPlain_iff]
    omega
  rw [folded]
  constructor
  · intro plain
    exact ⟨Text.fold character, plain, (Text.fold_eq_iff_matches plain).1 rfl⟩
  · rintro ⟨letter, plain, matched⟩
    rwa [(Text.fold_eq_iff_matches plain).2 matched]

/-- No letter or digit is a separator. -/
theorem Run.undivided (run : Run) :
    ∀ character ∈ run.characters, isSeparator character = false := by
  intro character member
  exact isSeparator_of_isLabelCharacter
    (isLabelCharacter_iff_matches.2 (run.alphanumeric character member))

/-- The pieces of a label are its runs. -/
theorem splitWhere_characters (label : Label) :
    Text.splitWhere isSeparator label.characters =
      label.first.characters :: label.others.map fun (_, run) => run.characters := by
  obtain ⟨first, others⟩ := label
  induction others generalizing first with
  | nil =>
    rw [Label.characters_nil]
    exact Text.splitWhere_eq_singleton first.undivided
  | cons entry others inductionHypothesis =>
    obtain ⟨separator, next⟩ := entry
    have separates := isSeparator_character separator
    rw [Label.characters_cons, Text.splitWhere_append_cons first.undivided separates,
      inductionHypothesis next]
    rfl

theorem isLabel_characters (label : Label) : isLabel label.characters = true := by
  have valid (run : Run) : run.characters ≠ [] ∧
      ∀ character ∈ run.characters, isLabelCharacter character = true :=
    ⟨run.nonempty, fun character member =>
      isLabelCharacter_iff_matches.2 (run.alphanumeric character member)⟩
  rw [isLabel_iff, splitWhere_characters]
  intro segment member
  rcases List.mem_cons.1 member with rfl | later
  · exact valid label.first
  · obtain ⟨⟨_, run⟩, -, rfl⟩ := List.mem_map.1 later
    exact valid run

/-- A piece of a label that is valid for the reader is a run. -/
def Run.ofPiece (piece : List Char) (valid : piece ≠ [] ∧
    ∀ character ∈ piece, isLabelCharacter character = true) : Run where
  characters := piece
  nonempty := valid.1
  alphanumeric character member := isLabelCharacter_iff_matches.1 (valid.2 character member)

/-- From one separator to the next, a valid text is a run. -/
theorem exists_label (text : List Char) (valid : isLabel text = true) :
    ∃ label : Label, label.characters = text := by
  obtain ⟨piece, undivided, shape⟩ := Text.exists_piece isSeparator text
  rw [isLabel_iff] at valid
  rcases shape with rfl | ⟨character, rest, separates, whole⟩
  · rw [Text.splitWhere_eq_singleton undivided] at valid
    exact ⟨⟨Run.ofPiece text (valid text List.mem_cons_self), []⟩, List.append_nil text⟩
  · have shorter := congrArg List.length whole
    rw [whole, Text.splitWhere_append_cons undivided separates] at valid
    obtain ⟨first, others⟩ := List.forall_mem_cons.1 valid
    obtain ⟨separator, rfl⟩ := exists_separator separates
    obtain ⟨label, read⟩ := exists_label rest (isLabel_iff.2 others)
    refine ⟨⟨Run.ofPiece piece first, (separator, label.first) :: label.others⟩, ?_⟩
    rw [whole, ← read]
    rfl
termination_by text.length
decreasing_by
  rw [List.length_append, List.length_cons] at shorter
  omega

/-- The reader accepts the labels of the grammar. -/
theorem isLabel_iff_exists {text : List Char} :
    isLabel text = true ↔ ∃ label : Label, label.characters = text := by
  constructor
  · exact exists_label text
  · rintro ⟨label, rfl⟩
    exact isLabel_characters label

/-- What is read as the label and the end of a text. -/
theorem readLabel?_eq_some_iff {text : List Char} {found : Option (List Char)} :
    readLabel? text = some found ↔
      ∃ label : Option Label, label.map Label.characters = found ∧
        text = optionalText (fun label => '+' :: label.characters) label := by
  constructor
  · intro read
    unfold readLabel? at read
    split at read
    · cases read
      exact ⟨none, rfl, rfl⟩
    · split at read
      case isTrue valid =>
        cases read
        obtain ⟨label, rfl⟩ := exists_label _ valid
        exact ⟨some label, rfl, rfl⟩
      case isFalse => cases read
    · cases read
  · rintro ⟨label, rfl, rfl⟩
    cases label with
    | none => rfl
    | some label => exact if_pos (isLabel_characters label)

end Version.Grammar

end ReleasePilot
