import ReleasePilot.Toml.Scalar

/-!
# Quoted texts

A text stands between double quotes, where backslashes escape, or between
single quotes, where nothing does. Three quotes enclose a text of several
lines.
-/

namespace ReleasePilot.Toml

/-- The text after one line break, if it begins with one. -/
def skipLineBreak? : List Char → Option (List Char)
  | '\n' :: rest => some rest
  | '\r' :: '\n' :: rest => some rest
  | _ => none

/-- The characters that a comment or a quoted text may hold as they are. -/
def isPrintable (character : Char) : Bool :=
  character == '\t' || (0x20 ≤ character.toNat && character.toNat != 0x7F)

/-- Spaces and tabs. -/
def isSpace (character : Char) : Bool :=
  character == ' ' || character == '\t'

/-- The character with a code point given in a number of hexadecimal digits. -/
def readCodePoint? (count : Nat) (text : List Char) : Option (Char × List Char) := do
  let digits ← (text.take count).mapM hexDigit?
  let code := digits.foldl (fun code digit => code * 16 + digit) 0
  if digits.length = count ∧ code.isValidChar then some (Char.ofNat code, text.drop count)
  else none

/-- The character that an escape stands for, given the text after the backslash. -/
def readEscape? : List Char → Option (Char × List Char)
  | 'b' :: rest => some ('\x08', rest)
  | 't' :: rest => some ('\t', rest)
  | 'n' :: rest => some ('\n', rest)
  | 'f' :: rest => some ('\x0c', rest)
  | 'r' :: rest => some ('\r', rest)
  | '"' :: rest => some ('"', rest)
  | '\\' :: rest => some ('\\', rest)
  | 'u' :: rest => readCodePoint? 4 rest
  | 'U' :: rest => readCodePoint? 8 rest
  | _ => none

/-- The text after spaces, tabs and line breaks. -/
def skipBlankLines : List Char → List Char
  | '\r' :: '\n' :: rest => skipBlankLines rest
  | character :: rest =>
    if isSpace character || character == '\n' then skipBlankLines rest else character :: rest
  | [] => []

/-- The text after a line break that a backslash hides, together with the
blanks of the next lines; given the text after the backslash. -/
def skipHiddenBreak? (text : List Char) : Option (List Char) :=
  (skipLineBreak? (text.dropWhile isSpace)).map skipBlankLines

/-- The next character of a text, which a line break or an escape may write in
several characters, or nothing for a hidden line break. -/
def readCharacter? (quote : Char) (severalLines : Bool) (text : List Char) :
    Option (Option Char × List Char) :=
  match text with
  | [] => none
  | character :: rest =>
    if severalLines && (skipLineBreak? text).isSome then
      (skipLineBreak? text).map fun rest => (some '\n', rest)
    else if quote == '"' && character == '\\' then
      match if severalLines then skipHiddenBreak? rest else none with
      | some rest => some (none, rest)
      | none => (readEscape? rest).map fun (escaped, rest) => (some escaped, rest)
    else if isPrintable character then some (some character, rest)
    else none

/-- Reads the characters of a text up to its closing quotes. Of the quotes at
the end of a text of several lines, the last three close it. -/
def readBody? (quote : Char) (severalLines : Bool) (text : List Char) :
    Option (List Char × List Char) :=
  let closing := if severalLines then [quote, quote, quote] else [quote]
  let rest := text.drop closing.length
  if closing.isPrefixOf text && !(severalLines && rest.head? == some quote) then
    some ([], rest)
  else if severalLines && (List.replicate 6 quote).isPrefixOf text then none
  else
    match readCharacter? quote severalLines text with
    | none => none
    | some (character, after) =>
      if after.length < text.length then
        (readBody? quote severalLines after).map fun (content, rest) =>
          (character.toList ++ content, rest)
      else none
termination_by text.length

/-- Reads a text on one line, given what follows its opening quote. -/
def readLineText? (quote : Char) (text : List Char) : Option (String × List Char) :=
  (readBody? quote false text).map fun (content, rest) => (String.ofList content, rest)

/-- Reads a quoted text of either form; a line break right after three opening
quotes is not part of it. -/
def readText? (quote : Char) (text : List Char) : Option (String × List Char) :=
  if [quote, quote, quote].isPrefixOf text then
    let body := text.drop 3
    (readBody? quote true ((skipLineBreak? body).getD body)).map fun (content, rest) =>
      (String.ofList content, rest)
  else (expect? quote text).bind (readLineText? quote)

end ReleasePilot.Toml
