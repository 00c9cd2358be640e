import ReleasePilot.Script.Binding
import ReleasePilot.Script.Field

/-!
# Reading lines into variables

A line is divided into fields like a value that is filled in. The last variable
gets what is left of the line.
-/

namespace ReleasePilot.Script

/-- The pieces of the line at the front of some characters, the characters after
it, and whether the line is complete. Unless it is read as it is, a backslash
keeps the next character and hides a line break. -/
def lineOf (asIs : Bool) : List Char → List Piece × List Char × Bool
  | [] => ([], [], false)
  | '\n' :: rest => ([], rest, true)
  | '\x00' :: rest => lineOf asIs rest
  | '\\' :: character :: rest =>
    if asIs then
      let (pieces, after, complete) := lineOf asIs (character :: rest)
      (.loose '\\' :: pieces, after, complete)
    else
      let (pieces, after, complete) := lineOf asIs rest
      (if character = '\n' then pieces else .fixed character false :: pieces, after, complete)
  | '\\' :: [] => (if asIs then [.loose '\\'] else [], [], false)
  | character :: rest =>
    let (pieces, after, complete) := lineOf asIs rest
    (.loose character :: pieces, after, complete)

/-- Whether a piece is a divider that counts as blank. -/
def isBlankPiece (dividers : List Char) : Piece → Bool
  | .loose character => dividers.contains character && Piece.isBlankDivider character
  | _ => false

/-- Whether a piece is a divider. -/
def isDividerPiece (dividers : List Char) : Piece → Bool
  | .loose character => dividers.contains character
  | _ => false

/-- The first field of a line, and the pieces behind the dividers that end it. -/
def firstField (dividers : List Char) (pieces : List Piece) : Field × List Piece :=
  let start := pieces.dropWhile (isBlankPiece dividers)
  let field := start.takeWhile (!isDividerPiece dividers ·)
  let rest := (start.drop field.length).dropWhile (isBlankPiece dividers)
  match rest with
  | divider :: more =>
    if isDividerPiece dividers divider then (field, more.dropWhile (isBlankPiece dividers))
    else (field, rest)
  | [] => (field, [])

/-- What the last variable gets: the only field that is left, or all of them
with their dividers. -/
def lastField (dividers : List Char) (pieces : List Piece) : Field :=
  let rest := pieces.dropWhile (isBlankPiece dividers)
  let rest := (rest.reverse.dropWhile (isBlankPiece dividers)).reverse
  match Piece.fields dividers rest with
  | [only] => only
  | _ => rest

/-- The fields of a line for a number of variables. -/
def lineFields (dividers : List Char) : Nat → List Piece → List Field
  | 0, _ => []
  | 1, pieces => [lastField dividers pieces]
  | count + 1, pieces =>
    let (field, rest) := firstField dividers pieces
    field :: lineFields dividers count rest

/-- Reads a line into variables. -/
def read : Builtin := fun frame arguments => do
  let (letters, words) ← takeLetters frame "rp" arguments
  let names := if letters.contains 'p' then words.drop 1 else words
  if names.isEmpty then refuse frame "arg count"
  let machine ← get
  let (pieces, rest, complete) :=
    lineOf (letters.contains 'r') (RawText.ofBytes (machine.input 0)).toList
  modify fun machine => machine.setInput 0 (RawText.bytes (String.ofList rest))
  for (name, field) in names.zip (lineFields machine.dividers names.length pieces) do
    checkName frame name
    assign frame false name (Piece.text [] field)
  setStatus (if complete then 0 else 1)

end ReleasePilot.Script
