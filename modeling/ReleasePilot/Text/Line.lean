/-!
# Lines

A text is a list of lines, each with the terminator that ended it. Splitting
loses nothing: `Line.join_split` gives back the text character for character.
-/

namespace ReleasePilot

/-- How a line is terminated; only the last line of a text may be unterminated. -/
inductive LineEnding where
  | unterminated
  | newline
  | returnNewline
deriving DecidableEq, Repr

namespace LineEnding

/-- The characters of a terminator. -/
def text : LineEnding → List Char
  | .unterminated => []
  | .newline => ['\n']
  | .returnNewline => ['\r', '\n']

end LineEnding

/-- One line of a text: what it holds and how it ends. -/
structure Line where
  content : List Char
  ending : LineEnding
deriving DecidableEq, Repr

namespace Line

/-- The line as it stands in the text. -/
def text (line : Line) : List Char :=
  line.content ++ line.ending.text

/-- The line with one more character in front, which joins a carriage return
to the newline that follows it. -/
def cons (character : Char) : Line → Line
  | ⟨[], .newline⟩ =>
    if character = '\r' then ⟨[], .returnNewline⟩ else ⟨[character], .newline⟩
  | ⟨content, ending⟩ => ⟨character :: content, ending⟩

@[simp] theorem text_cons (character : Char) (line : Line) :
    (line.cons character).text = character :: line.text := by
  unfold cons
  split
  · split <;> simp_all [text, LineEnding.text]
  · simp [text]

/-- The lines of a text. A newline ends a line, together with one carriage
return before it. -/
def split : List Char → List Line
  | [] => []
  | '\n' :: rest => ⟨[], .newline⟩ :: split rest
  | character :: rest =>
    match split rest with
    | [] => [⟨[character], .unterminated⟩]
    | line :: more => line.cons character :: more

/-- The text that a list of lines makes up. -/
def join (lines : List Line) : List Char :=
  lines.flatMap text

/-- Splitting a text into lines loses nothing. -/
@[simp] theorem join_split (contents : List Char) : join (split contents) = contents := by
  fun_induction split contents with
  | case1 => rfl
  | case2 rest inductionHypothesis =>
    simpa [join, text, LineEnding.text] using inductionHypothesis
  | case3 character rest _ last inductionHypothesis =>
    simp_all [join, text, LineEnding.text]
  | case4 character rest _ line more first inductionHypothesis =>
    simp_all [join]

/-- What the lines of a text hold, without their terminators. -/
def contents (source : String) : List String :=
  (split source.toList).map fun line => String.ofList line.content

end Line

end ReleasePilot
