import ReleasePilot.Text.Split

/-!
# Quoted commands

A command is a list of words. For the operator it is written as a shell would
read it: each word is cut into the longest chunks that one style of quoting can
hold, and each chunk takes the plainest style that holds it.
-/

namespace ReleasePilot

namespace Command

/-- How a chunk of a word is written, plainest first. -/
inductive QuoteStyle where
  | bare
  | single
  | double
deriving DecidableEq, Repr

namespace QuoteStyle

/-- The characters that need no quotes at all. -/
def isPlain (character : Char) : Bool :=
  character.isAlphanum || "+-./:@]_".toList.contains character

/-- Whether a style can hold a character. No style but the single quotes at the
beginning of a chunk holds a caret. -/
def holds : QuoteStyle → Char → Bool
  | .bare, character => isPlain character
  | .single, character => !"'\\^".toList.contains character
  | .double, character => !"\x60$!^".toList.contains character

/-- A character within double quotes, with a backslash where it would be special. -/
def escape (character : Char) : List Char :=
  if "$\x60\"\\".toList.contains character then ['\\', character] else [character]

/-- A chunk in a given style. -/
def write : QuoteStyle → List Char → List Char
  | .bare, chunk => chunk
  | .single, chunk => '\'' :: chunk ++ ['\'']
  | .double, chunk => '"' :: chunk.flatMap escape ++ ['"']

end QuoteStyle

/-- The styles open to a chunk that begins with a character. -/
def stylesFor (first : Char) : List QuoteStyle :=
  if first = '^' then [.single] else [.bare, .single, .double].filter (·.holds first)

/-- Lengthens a chunk, for which some styles are still open, as far as one of
them goes on holding it. Gives the styles that are left, what was added to the
chunk and the rest of the word. -/
def extendChunk (styles : List QuoteStyle) : List Char → List QuoteStyle × List Char × List Char
  | [] => (styles, [], [])
  | character :: rest =>
    let usable := styles.filter (·.holds character)
    if usable.isEmpty then (styles, [], character :: rest)
    else
      let (left, added, after) := extendChunk usable rest
      (left, character :: added, after)

/-- The rest of a word after a chunk is no longer than before. -/
theorem length_extendChunk_le (styles : List QuoteStyle) (text : List Char) :
    (extendChunk styles text).2.2.length ≤ text.length := by
  induction text generalizing styles with
  | nil => simp [extendChunk]
  | cons character rest inductionHypothesis =>
    simp only [extendChunk]
    split
    · simp
    · exact Nat.le_succ_of_le (inductionHypothesis (styles.filter (·.holds character)))

/-- A word cut into chunks, each with its style. -/
def chunks : List Char → List (QuoteStyle × List Char)
  | [] => []
  | first :: rest =>
    let extended := extendChunk (stylesFor first) rest
    (extended.1.headD .double, first :: extended.2.1) :: chunks extended.2.2
termination_by word => word.length
decreasing_by
  have := length_extendChunk_le (stylesFor first) rest
  simp only [List.length_cons]
  omega

/-- A word as a shell reads it; the empty word is an empty pair of quotes. -/
def quoteWord (word : List Char) : List Char :=
  match chunks word with
  | [] => "''".toList
  | pieces => pieces.flatMap fun (style, chunk) => style.write chunk

/-- A command as it is shown. No quoting can hold the null character, so a
command with one is shown with its words as they are. -/
def quoted (command : List String) : String :=
  let words := command.map String.toList
  if words.any (·.contains '\x00') then String.ofList (Text.joinWith [' '] words)
  else String.ofList (Text.joinWith [' '] (words.map quoteWord))

end Command

end ReleasePilot
