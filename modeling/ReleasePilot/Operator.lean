import ReleasePilot.Error
import ReleasePilot.Text.Blank
import ReleasePilot.Transcript

/-!
# The operator

Questions are answered either from a script of answers, which keeps a record
of what was asked, or from a console, which shows each question and takes the
next line of its input. A console at the end of its input goes on giving blank
answers; a script fails when it is used up.
-/

namespace ReleasePilot

/-- Who answers, with the answers that are left. -/
inductive Operator where
  | scripted (answers : List String) (asked : List String)
  | console (input : List UInt8)
deriving DecidableEq, Repr

namespace Operator

/-- How much is left to answer from. Every question uses some of it up, unless
nothing is left. -/
def pending : Operator → Nat
  | .scripted answers _ => answers.length
  | .console input => input.length

/-- The first line of an input, with its newline, and the rest of the input. -/
def takeLine : List UInt8 → List UInt8 × List UInt8
  | [] => ([], [])
  | byte :: rest =>
    if byte = 10 then ([byte], rest)
    else
      let (line, after) := takeLine rest
      (byte :: line, after)

/-- The answer to one question, what showing the question adds to the
transcript, and the operator afterwards. -/
def reply (operator : Operator) (prompt hint : String) :
    Except Fault String × Transcript × Operator :=
  match operator with
  | .scripted [] asked => (.error (.answersExhausted prompt), [], .scripted [] (asked ++ [prompt]))
  | .scripted (answer :: answers) asked => (.ok answer, [], .scripted answers (asked ++ [prompt]))
  | .console input =>
    let (line, rest) := takeLine input
    let answer :=
      match String.fromUTF8? ⟨line.toArray⟩ with
      | some text => Except.ok text
      | none => .error .notUtf8
    (answer, [.question prompt hint], .console rest)

/-- Whether an answer says yes; anything but `y` and `yes` says no. -/
def isAffirmative (answer : String) : Bool :=
  let word := (Text.trim answer.toList).map Char.toLower
  word == "y".toList || word == "yes".toList

/-- The answer without blanks around it, or the default if nothing is left. -/
def orDefault (default answer : String) : String :=
  let answer := trimmed answer
  if answer = "" then default else answer

end Operator

end ReleasePilot
