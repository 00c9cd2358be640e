/-!
# Splitting at a separator

A text with `n` separators has `n + 1` pieces, of which any may be empty.
-/

namespace ReleasePilot.Text

/-- The pieces between the characters that a test accepts. -/
def splitWhere (isSeparator : Char → Bool) : List Char → List (List Char)
  | [] => [[]]
  | character :: rest =>
    match splitWhere isSeparator rest with
    | [] => []
    | piece :: more =>
      if isSeparator character then [] :: piece :: more
      else (character :: piece) :: more

/-- The pieces between the occurrences of one character. -/
def splitAt (separator : Char) (text : List Char) : List (List Char) :=
  splitWhere (· == separator) text

/-- Every text has a first piece. -/
theorem splitWhere_ne_nil (isSeparator : Char → Bool) (text : List Char) :
    splitWhere isSeparator text ≠ [] := by
  induction text with
  | nil => simp [splitWhere]
  | cons character rest inductionHypothesis =>
    simp only [splitWhere]
    split
    · exact absurd ‹_› inductionHypothesis
    · split <;> simp

/-- What stands before and after the first occurrence of a character. -/
def splitOnce? (separator : Char) : List Char → Option (List Char × List Char)
  | [] => none
  | character :: rest =>
    if character = separator then some ([], rest)
    else (splitOnce? separator rest).map fun (before, after) => (character :: before, after)

/-- Pieces put together again, with the same text between each two. -/
def joinWith (between : List Char) : List (List Char) → List Char
  | [] => []
  | [piece] => piece
  | piece :: next :: more => piece ++ between ++ joinWith between (next :: more)

/-- Splitting at a character and joining with it gives back the text. -/
@[simp] theorem joinWith_splitAt (separator : Char) (text : List Char) :
    joinWith [separator] (splitAt separator text) = text := by
  induction text with
  | nil => rfl
  | cons character rest inductionHypothesis =>
    have some := splitWhere_ne_nil (· == separator) rest
    unfold splitAt at inductionHypothesis ⊢
    simp only [splitWhere]
    cases pieces : splitWhere (· == separator) rest with
    | nil => exact absurd pieces some
    | cons piece more =>
      rw [pieces] at inductionHypothesis
      by_cases same : character = separator
      · simp [same, joinWith, inductionHypothesis]
      · cases more <;> simp_all [joinWith]

end ReleasePilot.Text
