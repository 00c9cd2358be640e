import ReleasePilot.Script.Basic

/-!
# Scanning scripts

A scanner holds the part of a script that is not read yet and the line that it
begins on. A reader takes something from its front or finds a flaw there. The
text of an alias is put in front of what is left, in place of the word that
names it, and is read like any other.
-/

namespace ReleasePilot.Script

/-- What a redirection sign calls for. -/
inductive Redirecting where
  | file (opening : Opening)
  /-- The text on the following lines, which may be indented. -/
  | inline (indented : Bool)
  | copy
deriving DecidableEq, Repr

/-- The smallest unit of a command. -/
inductive Token where
  | finish
  | lineBreak
  | sign (text : String)
  | keyword (text : String)
  /-- A word, and its text if nothing in it is quoted or filled in. -/
  | word (content : Word) (bare : Option RawText)
  | redirection (descriptor : Nat) (kind : Redirecting)

/-- A text between double quotes. -/
def doubleQuoted (text : String) : String :=
  "\"" ++ text ++ "\""

/-- A token as a complaint names it. -/
def Token.description : Token → String
  | .finish => "end of file"
  | .lineBreak => "newline"
  | .sign text | .keyword text => doubleQuoted text
  | .word _ _ => "word"
  | .redirection _ _ => "redirection"

/-- An alias whose text took the place of a word. -/
structure Expansion where
  word : RawText
  /-- The number of characters behind the text. -/
  remaining : Nat
  /-- Whether the text ends with a blank, so that the next word may be an alias too. -/
  endsBlank : Bool
deriving DecidableEq, Repr

/-- What is left to read of a script. -/
structure Scanner where
  text : List Char
  line : Nat := 1
  /-- The number of lines that were read ahead of the current one. -/
  ahead : Nat := 0
  /-- The number of lines that end an inline text, which are none if it is open. -/
  closing : Nat := 0
  /-- The number of lines from the end of an inline text to the end of the script. -/
  behind : Nat := 0
  /-- A token that was put back. -/
  held : Option Token := none
  /-- Words that stand for other texts. -/
  aliases : List (RawText × RawText) := []
  /-- The aliases whose texts are not passed yet, the innermost first. -/
  expansions : List Expansion := []

namespace Scanner

/-- The aliases whose texts are being read. None of them is replaced again there. -/
def openExpansions (scanner : Scanner) : List Expansion :=
  scanner.expansions.filter (·.remaining ≤ scanner.text.length)

/-- The aliases of whose texts some is left to be read. -/
def pendingAliases (scanner : Scanner) : List RawText :=
  if scanner.text.isEmpty then [] else scanner.openExpansions.map (·.word)

/-- The text that takes the place of a word, if there is one. -/
def replacement? (scanner : Scanner) (word : RawText) : Option RawText :=
  if scanner.openExpansions.any (·.word == word) then none else scanner.aliases.lookup word

/-- The scanner with the text of an alias in front. -/
def replacing (scanner : Scanner) (word content : RawText) : Scanner :=
  let expansion : Expansion :=
    { word, remaining := scanner.text.length
      endsBlank := content.endsWith " " || content.endsWith "\t" }
  { scanner with
    text := content.toList ++ scanner.text
    expansions := expansion :: scanner.openExpansions }

/-- Whether the text of an alias that ends with a blank is passed between two scanners. -/
def passesBlank (before after : Scanner) : Bool :=
  before.openExpansions.any fun expansion =>
    expansion.endsBlank && decide (after.text.length < expansion.remaining)

/-- The scanner with another text, which is shorter by what is taken out behind all aliases. -/
def withoutPart (scanner : Scanner) (text : List Char) : Scanner :=
  let removed := scanner.text.length - text.length
  { scanner with
    text
    expansions := scanner.expansions.map fun expansion =>
      { expansion with remaining := expansion.remaining - removed } }

/-- A scanner of a text in which some aliases are not replaced. -/
def ofText (text : List Char) (expanding : List RawText) : Scanner :=
  let expansion (word : RawText) : Expansion :=
    { word, remaining := 0, endsBlank := false }
  { text, expansions := expanding.map expansion }

/-- A scanner of a text that stands within the one of another scanner. -/
def inner (scanner : Scanner) (text : List Char) (line : Nat) : Scanner :=
  { ofText text (scanner.openExpansions.map (·.word)) with line, aliases := scanner.aliases }

/-- How many steps a reader needs at most. A character is read as it is or, as a
word, stands for the text of an alias, where all the others may be replaced. -/
def stepLimit (scanner : Scanner) : Nat :=
  scanner.aliases.foldl (fun limit (_, content) => limit * (content.length + 2))
    (scanner.text.length + 3)

end Scanner

/-- A flaw with the line on which it was found. -/
structure FoundFlaw where
  line : Nat
  flaw : Flaw

/-- A reader takes something from the front of a script. -/
abbrev Reader (Result : Type) := StateT Scanner (Except FoundFlaw) Result

/-- Ends reading with a flaw. What is missing at the end of a text is looked for in
the lines behind it: commands in all of them, parameters in the one that ends it. -/
def reject {Result : Type} (flaw : Flaw) : Reader Result := do
  let scanner ← get
  let behind := if flaw = .openBrace ∨ flaw = .openExpression then scanner.closing else scanner.behind
  throw { line := scanner.line + if scanner.text.isEmpty then behind else 0, flaw }

/-- A text without the line breaks that are hidden by backslashes at its
front, and their number. -/
def unhide : List Char → List Char × Nat
  | '\\' :: '\n' :: rest =>
    let (text, count) := unhide rest
    (text, count + 1)
  | text => (text, 0)

/-- Skips hidden line breaks. -/
def skipHidden : Reader Unit :=
  modify fun scanner =>
    let (text, count) := unhide scanner.text
    { scanner with text, line := scanner.line + count }

/-- The next character, which is left in place. -/
def peek : Reader (Option Char) := do
  skipHidden
  return (← get).text.head?

/-- Takes a number of characters and counts the lines that they end. -/
def take (count : Nat) : Reader (List Char) := do
  let scanner ← get
  let taken := scanner.text.take count
  let breaks := taken.count '\n'
  set { scanner with
        text := scanner.text.drop count
        line := scanner.line + breaks + (if breaks = 0 then 0 else scanner.ahead)
        ahead := if breaks = 0 then scanner.ahead else 0 }
  return taken

/-- Takes the next character. -/
def next : Reader (Option Char) := do
  skipHidden
  return (← take 1).head?

/-- Takes characters as long as they satisfy a test. -/
def takeWhile (test : Char → Bool) : Reader (List Char) := do
  take (((← get).text.takeWhile test).length)

/-- Takes a character if it comes next, and says whether it did. -/
def takes (character : Char) : Reader Bool := do
  if (← peek) = some character then
    let _ ← take 1
    return true
  else return false

/-- Repeats a step until it gives a result, at most a number of times. -/
def repeatAtMost {State Result : Type} (step : State → Reader (State ⊕ Result)) :
    Nat → State → Reader Result
  | 0, _ => reject .nestedTooDeep
  | count + 1, state => do
    match ← step state with
    | .inl state => repeatAtMost step count state
    | .inr result => return result

/-- Repeats a step until it gives a result. As each step takes a character or a
token, there is a bound for their number. -/
def repeating {State Result : Type} (step : State → Reader (State ⊕ Result)) (state : State) :
    Reader Result := do
  repeatAtMost step (← get).stepLimit state

/-- Puts a token back. -/
def hold (token : Token) : Reader Unit :=
  modify fun scanner => { scanner with held := some token }

/-- Ends reading because of a token. -/
def rejectToken {Result : Type} (token : Token) (expected : Option String) : Reader Result :=
  reject (.unexpected token.description expected)

end ReleasePilot.Script
