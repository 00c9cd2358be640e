import ReleasePilot.Toml.Quoted
import ReleasePilot.Toml.Table

/-!
# Reading documents

A document is a list of statements, each on a line of its own, with blank lines
and comments between them. Values nest to a bounded depth and keys have a
bounded number of parts, which also bounds the work of reading them.
-/

namespace ReleasePilot.Toml

/-- How deep arrays and inline tables may nest. -/
def nestingLimit : Nat := 79

/-- How many parts a dotted key may have. -/
def keyPartsLimit : Nat := 79

/-- A reader takes a value from the front of a text. -/
abbrev Reader (Result : Type) := List Char → Option (Result × List Char)

/-- The text after spaces and tabs. -/
def skipSpaces (text : List Char) : List Char :=
  text.dropWhile isSpace

/-- The text after a comment, if it begins with one. -/
def skipComment : List Char → List Char
  | '#' :: rest => rest.dropWhile isPrintable
  | text => text

/-- The text after the end of a line, which may have a comment. -/
def skipLineEnd? (text : List Char) : Option (List Char) :=
  match skipComment (skipSpaces text) with
  | [] => some []
  | rest => skipLineBreak? rest

/-- The text after blanks, line breaks and comments. -/
def skipFiller (text : List Char) : List Char :=
  let rest := skipComment (skipBlankLines text)
  if rest.length < text.length then skipFiller rest else text
termination_by text.length

/-- Reads a separated list of at least one item. A separator with no item
behind it is left in the text. -/
def readSeparated {Item : Type} (separator : Char) (read : Reader Item) (text : List Char) :
    Option (List Item × List Char) := do
  let (item, rest) ← read text
  match expect? separator rest with
  | none => return ([item], rest)
  | some next =>
    if next.length < text.length then
      match readSeparated separator read next with
      | some (items, rest) => return (item :: items, rest)
      | none => return ([item], rest)
    else none
termination_by text.length

/-- The characters of a key without quotes. -/
def isBareKeyCharacter (character : Char) : Bool :=
  character.isAlphanum || character == '-' || character == '_'

/-- Reads one part of a key, blanks around it being allowed. -/
def readKeyPart : Reader String := fun text => do
  let text := skipSpaces text
  let (part, rest) ←
    match text with
    | '"' :: rest => readLineText? '"' rest
    | '\'' :: rest => readLineText? '\'' rest
    | _ =>
      let part := text.takeWhile isBareKeyCharacter
      if part.isEmpty then none
      else some (String.ofList part, text.dropWhile isBareKeyCharacter)
  return (part, skipSpaces rest)

/-- Reads a dotted key. -/
def readKey : Reader (List String) := fun text => do
  let (parts, rest) ← readSeparated '.' readKeyPart text
  if keyPartsLimit < parts.length then none else some (parts, rest)

/-- Reads a key, an equals sign and a value, with blanks around each. -/
def readSetting (readValue : Reader Value) : Reader (List String × String × Value) :=
  fun text => do
    let (parts, rest) ← readKey text
    let key ← parts.getLast?
    let (value, rest) ← readValue (skipSpaces (← expect? '=' rest))
    return ((parts.dropLast, key, value), rest)

/-- Reads an array, given the text after its bracket. Line breaks and comments
may stand around its items and a comma behind the last of them. -/
def readArray (readValue : Reader Value) : Reader Value := fun text => do
  let readItem : Reader Value := fun text => do
    let (value, rest) ← readValue (skipFiller text)
    return (value, skipFiller rest)
  let (items, rest) := (readSeparated ',' readItem text).getD ([], text)
  let rest := if items.isEmpty then rest else (expect? ',' rest).getD rest
  return (.array items, ← expect? ']' (skipFiller rest))

/-- Reads an inline table, given the text after its brace. It stands on one
line and has no comma behind its last setting. -/
def readInlineTable (readValue : Reader Value) : Reader Value := fun text => do
  let readSetting : Reader (List String × String × Value) := fun text => do
    let (setting, rest) ← readSetting readValue text
    return (setting, skipSpaces rest)
  let (settings, rest) := (readSeparated ',' readSetting text).getD ([], text)
  let rest ← expect? '\x7d' (skipSpaces rest)
  if consistent settings then some (.inlineTable, rest) else none

/-- Reads a value that may nest to a given depth. -/
def readValue : Nat → Reader Value
  | 0 => readFlat
  | depth + 1 => fun text =>
    match text with
    | '[' :: rest => readArray (readValue depth) rest
    | '\x7b' :: rest => readInlineTable (readValue depth) rest
    | _ => readFlat text
where
  /-- Reads a value that does not nest. -/
  readFlat : Reader Value
    | '"' :: rest => (readText? '"' ('"' :: rest)).map asValue
    | '\'' :: rest => (readText? '\'' ('\'' :: rest)).map asValue
    | text => readScalar? text
  /-- A text as a value. -/
  asValue (read : String × List Char) : Value × List Char := (.text read.1, read.2)

/-- Reads a statement and the end of its line. -/
def readStatement : Reader Statement := fun text => do
  let (statement, rest) ←
    match text with
    | '[' :: '[' :: rest => do
      let (path, rest) ← readKey rest
      pure (Statement.arrayHeader path, ← expect? ']' (← expect? ']' rest))
    | '[' :: rest => do
      let (path, rest) ← readKey rest
      pure (Statement.header path, ← expect? ']' rest)
    | _ => do
      let ((path, key, value), rest) ← readSetting (readValue nestingLimit) text
      pure (Statement.setting path key value, rest)
  return (statement, ← skipLineEnd? rest)

/-- Reads the statements of a document. -/
def readStatements (text : List Char) : Option (List Statement) :=
  match skipSpaces text with
  | [] => some []
  | first :: more =>
    let line := first :: more
    match if first = '#' then some line else skipLineBreak? line with
    | some _ =>
      match skipLineEnd? line with
      | some rest => if rest.length < text.length then readStatements rest else none
      | none => none
    | none =>
      match readStatement line with
      | some (statement, rest) =>
        if rest.length < text.length then (readStatements rest).map (statement :: ·) else none
      | none => none
termination_by text.length

/-- The root table of a document, which may begin with a byte order mark. -/
def parse? (document : String) : Option Entries := do
  let text :=
    match document.toList with
    | '\ufeff' :: rest => rest
    | text => text
  Document.ofStatements? (← readStatements text)

end ReleasePilot.Toml
