/-!
# Letters without regard to case

Two characters match without regard to case when Unicode's simple case folding
sends both to the same character. Only ASCII letters are ever looked for, and
besides the capitals just two characters fold onto one: the long s (U+017F)
onto `s` and the Kelvin sign (U+212A) onto `k`.
-/

namespace ReleasePilot.Text

/-- Simple case folding, for every character that folds onto an ASCII letter. -/
def fold (character : Char) : Char :=
  if character = '\u017f' then 's'
  else if character = '\u212a' then 'k'
  else character.toLower

/-- The rest of a text that begins with `word`, given in lower case. -/
def stripWord? : List Char → List Char → Option (List Char)
  | [], text => some text
  | _ :: _, [] => none
  | letter :: word, character :: text =>
    if fold character = letter then stripWord? word text else none

/-- A text begins with the empty word. -/
@[simp] theorem stripWord?_nil (text : List Char) : stripWord? [] text = some text := by
  cases text <;> rfl

/-- What is left after a word is shorter by the length of the word. -/
theorem length_of_stripWord? {word text rest : List Char}
    (found : stripWord? word text = some rest) :
    text.length = word.length + rest.length := by
  induction word generalizing text with
  | nil => simp_all
  | cons letter word inductionHypothesis =>
    cases text with
    | nil => simp [stripWord?] at found
    | cons character text =>
      simp only [stripWord?] at found
      split at found
      · have := inductionHypothesis found
        simp only [List.length_cons]
        omega
      · cases found

end ReleasePilot.Text
