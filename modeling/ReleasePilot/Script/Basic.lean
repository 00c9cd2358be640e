import ReleasePilot.Text.Raw

/-!
# Scripts

A script is a command. Commands are built from words, which are texts with
parts that are filled in when the command runs. Every text is a script: what
cannot be read is a command that fails.
-/

namespace ReleasePilot.Script

/-- Why a text cannot be read as a script. -/
inductive Flaw where
  /-- Something stands where it must not, or where something else is expected. -/
  | unexpected (found : String) (expected : Option String)
  | openQuote
  | openBrace
  | openExpression
  | openBackquote
  | loopName
  | functionName
  | nestedTooDeep
deriving DecidableEq, Repr

namespace Flaw

/-- The flaw in words. -/
def message : Flaw → String
  | .unexpected found none => found ++ " unexpected"
  | .unexpected found (some expected) => found ++ " unexpected (expecting " ++ expected ++ ")"
  | .openQuote => "Unterminated quoted string"
  | .openBrace => "Missing '\x7d'"
  | .openExpression => "Missing '))'"
  | .openBackquote => "EOF in backquote substitution"
  | .loopName => "Bad for loop variable"
  | .functionName => "Bad function name"
  | .nestedTooDeep => "nested too deep"

end Flaw

/-- What a parameter does with the word that stands beside its name. -/
inductive Treatment where
  /-- The word is taken where the parameter is not set. -/
  | default
  /-- The parameter is set to the word where it is not set. -/
  | assigned
  /-- The word says what is wrong where the parameter is not set. -/
  | required
  /-- The word is taken where the parameter is set. -/
  | replaced
deriving DecidableEq, Repr

/-- How a file is opened. -/
inductive Opening where
  | reading
  /-- Unless overwriting is allowed, a file that is there may be protected. -/
  | writing (overwriting : Bool)
  | appending
  | both
deriving DecidableEq, Repr

mutual

/-- A part of a word. A part that is not quoted may be divided into several
words, and its pattern characters are special. -/
inductive Part where
  | text (content : RawText) (quoted : Bool)
  /-- The home directory of a user, or of the one who runs the script. -/
  | home (user : RawText)
  | parameter (name : RawText) (quoted : Bool)
  /-- The number of characters of a parameter. -/
  | length (name : RawText)
  /-- A parameter with a word beside it. It may have to be more than an empty
  text to count as set. -/
  | treated (name : RawText) (treatment : Treatment) (nonempty : Bool) (word : List Part)
      (quoted : Bool)
  /-- A parameter without the part at its front or back that matches a pattern. -/
  | trimmed (name : RawText) (atBack longest : Bool) (pattern : List Part) (quoted : Bool)
  /-- What a command prints. -/
  | output (command : Command) (quoted : Bool)
  /-- The value of an arithmetic expression. -/
  | number (expression : List Part) (quoted : Bool)
  /-- A parameter whose braces hold something that has no meaning. -/
  | meaningless

/-- A variable that is set. -/
inductive Assignment where
  | set (name : RawText) (value : List Part)

/-- Where a command reads from or prints to. -/
inductive Redirection where
  | file (descriptor : Nat) (opening : Opening) (path : List Part)
  | inline (descriptor : Nat) (content : List Part)
  /-- A descriptor becomes the same as another one, or is closed. -/
  | copy (descriptor : Nat) (source : List Part)

/-- The alternatives of a selection. -/
inductive Arm where
  | choice (patterns : List (List Part)) (body : Command)

/-- A command. -/
inductive Command where
  | nothing
  /-- Sets variables or starts a program, as written on a line. -/
  | simple (line : Nat) (assignments : List Assignment) (words : List (List Part))
      (redirections : List Redirection)
  | sequence (first second : Command)
  /-- The second command runs if the first one succeeds. -/
  | both (first second : Command)
  /-- The second command runs if the first one fails. -/
  | either (first second : Command)
  | negated (command : Command)
  /-- The second command reads what the first one prints. -/
  | pipe (first second : Command)
  /-- A command whose changes to variables do not last. -/
  | isolated (body : Command)
  /-- An isolated command that is not waited for. -/
  | background (body : Command)
  | redirected (body : Command) (redirections : List Redirection) (line : Nat)
  | choose (condition accepted rejected : Command)
  /-- Runs a body as long as a condition succeeds, or as long as it fails. -/
  | loop (condition : Command) (whileFailing : Bool) (body : Command)
  /-- Runs a body for each of some words. -/
  | each (line : Nat) (name : RawText) (words : List (List Part)) (body : Command)
  | select (line : Nat) (word : List Part) (arms : List Arm)
  | define (name : RawText) (body : Command)
  /-- What cannot be read, as found on a line. -/
  | malformed (line : Nat) (flaw : Flaw)

end

/-- A word, part by part. -/
abbrev Word := List Part

/-- The descriptor that a redirection gives another meaning. -/
def Redirection.descriptor : Redirection → Nat
  | .file descriptor _ _ | .inline descriptor _ | .copy descriptor _ => descriptor

end ReleasePilot.Script
