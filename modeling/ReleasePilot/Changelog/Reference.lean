import ReleasePilot.Text.DecimalDigit
import ReleasePilot.Text.Folding
import ReleasePilot.Text.Split

/-!
# References to pull requests

A merge subject names its pull request as `(Merge pull request #41 from fork/topic)`.
In a changelog only `(#41)` is kept. References are found from left to right,
in any case, and never overlap; a reference ends at the first closing
parenthesis behind its number.
-/

namespace ReleasePilot.Changelog

/-- What a reference begins with, up to its number. -/
def referenceOpening : List Char :=
  "(merge pull request #".toList

/-- The number of the reference that a text begins with, and what follows it. -/
def readReference? (text : List Char) : Option (List Char × List Char) := do
  let rest ← Text.stripWord? referenceOpening text
  let number := rest.takeWhile Text.isDecimalDigit
  if number.isEmpty then none
  else
    let (_, after) ← Text.splitOnce? ')' (rest.dropWhile Text.isDecimalDigit)
    return (number, after)

/-- What follows the first occurrence of a character is shorter than the whole. -/
theorem length_lt_of_splitOnce? {separator : Char} {text before after : List Char}
    (found : Text.splitOnce? separator text = some (before, after)) :
    after.length < text.length := by
  induction text generalizing before with
  | nil => simp [Text.splitOnce?] at found
  | cons character rest inductionHypothesis =>
    simp only [Text.splitOnce?] at found
    split at found
    · cases found
      simp
    · obtain ⟨⟨earlier, later⟩, deeper, same⟩ := Option.map_eq_some_iff.1 found
      obtain ⟨-, rfl⟩ := Prod.mk.inj same
      exact Nat.lt_succ_of_lt (inductionHypothesis deeper)

/-- What follows a reference is shorter than the text that begins with it. -/
theorem length_lt_of_readReference? {text number after : List Char}
    (found : readReference? text = some (number, after)) : after.length < text.length := by
  unfold readReference? at found
  obtain ⟨rest, opened, found⟩ := Option.bind_eq_some_iff.1 found
  have shorter := Text.length_of_stripWord? opened
  simp only at found
  split at found
  · cases found
  · obtain ⟨⟨before, later⟩, closed, same⟩ := Option.bind_eq_some_iff.1 found
    obtain ⟨-, rfl⟩ := Prod.mk.inj (Option.some.inj same)
    have closing := length_lt_of_splitOnce? closed
    change later.length < text.length
    have dropped := (List.dropWhile_sublist (l := rest) Text.isDecimalDigit).length_le
    omega

/-- A text with every reference cut down to its number. -/
def shortenReferences (text : List Char) : List Char :=
  match _found : readReference? text with
  | some (number, after) => "(#".toList ++ number ++ ')' :: shortenReferences after
  | none =>
    match text with
    | [] => []
    | character :: rest => character :: shortenReferences rest
termination_by text.length
decreasing_by
  · exact length_lt_of_readReference? _found
  · simp

end ReleasePilot.Changelog
