import ReleasePilot.Script.Scanner
import ReleasePilot.Text.Split

/-!
# Reading words

A word ends at the first blank or operator that is not quoted. Single quotes
keep every character; between double quotes parameters are still filled in.
-/

namespace ReleasePilot.Script

/-- Where a part of a word stands. -/
inductive Setting where
  | bare
  | quotes
  /-- Braces behind a parameter, which may stand in quotes or in an inline text. -/
  | braces (quoted isInline : Bool)
  /-- Quotes within braces, where no brace closes anything. -/
  | bracedQuotes (isInline : Bool)
  /-- The lines of an inline text. -/
  | inline
  | expression (isInline : Bool)
deriving DecidableEq, Repr

namespace Setting

/-- Whether what stands here is kept from being divided. -/
def isQuoted : Setting → Bool
  | .bare | .braces false _ => false
  | .quotes | .braces true _ | .bracedQuotes _ | .inline | .expression _ => true

/-- Whether this is a part of an inline text. -/
def isInline : Setting → Bool
  | .inline | .braces _ true | .bracedQuotes true | .expression true => true
  | .bare | .quotes | .braces _ false | .bracedQuotes false | .expression false => false

/-- The setting of a word in braces. -/
def inBraces (setting : Setting) : Setting :=
  Setting.braces setting.isQuoted setting.isInline

/-- The setting of a pattern in braces, which is not quoted by what is around it. -/
def inPattern (setting : Setting) : Setting :=
  Setting.braces false setting.isInline

/-- The setting behind a double quote, unless that stands for itself. -/
def inQuotes? : Setting → Option Setting
  | .bare => some .quotes
  | .braces _ isInline => some (.bracedQuotes isInline)
  | .quotes | .bracedQuotes _ | .inline | .expression _ => none

/-- The flaw of a text that ends here. -/
def openFlaw : Setting → Flaw
  | .quotes | .braces true false | .bracedQuotes false => .openQuote
  | .expression _ => .openExpression
  | .bare | .braces _ _ | .bracedQuotes true | .inline => .openBrace

/-- Whether a backslash makes a character stand for itself here. -/
def escapes (setting : Setting) (character : Char) : Bool :=
  match setting with
  | .bare | .braces false _ => true
  | .quotes | .expression _ => "$\\\x60\"".toList.contains character
  | .braces true _ | .bracedQuotes _ => "$\\\x60\"\x7d".toList.contains character
  | .inline => "$\\\x60".toList.contains character

end Setting

/-- The readers of what may stand inside of other things. -/
structure Readers where
  /-- Reads commands up to what cannot begin another one. -/
  commands : Reader Command
  /-- Reads commands and the bracket that closes them. -/
  bracketed : Reader Command
  /-- Reads commands, at least one, up to what cannot begin another one. -/
  body : Reader Command
  /-- Reads one command. -/
  command : Reader Command
  /-- Reads one part of a word. -/
  part : Setting → Reader Word

/-- Spaces and tabs. -/
def isSpace (character : Char) : Bool :=
  character == ' ' || character == '\t'

/-- Whether a character ends a word. -/
def endsWord (character : Char) : Bool :=
  isSpace character || "\n;&|()<>".toList.contains character

/-- Whether a name may begin with a character. -/
def beginsName (character : Char) : Bool :=
  character.isAlpha || character == '_'

/-- Whether a character may stand in a name. -/
def isNameCharacter (character : Char) : Bool :=
  character.isAlphanum || character == '_'

/-- The parameters that are named by a sign. -/
def isSpecialName (character : Char) : Bool :=
  "@*#?$!-".toList.contains character

/-- Whether a text is a name. -/
def isName (text : RawText) : Bool :=
  text.toList.head?.any beginsName && text.toList.all isNameCharacter

/-- A word with its neighbouring texts joined. -/
def joinTexts (word : Word) : Word :=
  word.foldr (fun part joined =>
    match part, joined with
    | .text first quoted, .text second sameQuoted :: rest =>
      if quoted = sameQuoted then .text (first ++ second) quoted :: rest
      else .text first quoted :: .text second sameQuoted :: rest
    | part, joined => part :: joined) []

/-- The text of a word if nothing in it is quoted or filled in. -/
def bareText? (word : Word) : Option RawText :=
  match word with
  | [] => some ""
  | [.text content false] => some content
  | _ => none

/-- The text of a word as it is written, and whether some of it is quoted. -/
def writtenText (word : Word) : List Char × Bool :=
  word.foldr (fun part (content, anyQuoted) =>
    match part with
    | .text more quoted => (more.toList ++ content, quoted || anyQuoted)
    | .parameter name quoted => ('$' :: name.toList ++ content, quoted || anyQuoted)
    | _ => (content, anyQuoted)) ([], false)

/-! ## Parameters -/

/-- Reads parts up to a character that closes them, which is taken. -/
def readParts (readers : Readers) (setting : Setting) (closing : Char) : Reader Word :=
  repeating (fun word => do
    if ← takes closing then return .inr word
    else if (← peek).isNone then reject setting.openFlaw
    else return .inl (word ++ (← readers.part setting))) []

/-- Reads the word beside a parameter and the brace that closes it. -/
def readBracedWord (readers : Readers) (setting : Setting) : Reader Word :=
  joinTexts <$> readParts readers setting '\x7d'

/-- Reads the names of variables and of arguments in braces. -/
def readLongName : Reader RawText := do
  let isPart := if (← peek).any Char.isDigit then Char.isDigit else isNameCharacter
  let step (name : List Char) : Reader (List Char ⊕ List Char) := do
    if (← peek).any isPart then return .inl (name ++ (← next).toList) else return .inr name
  return String.ofList (← repeating step [])

/-- Reads what stands between a name in braces and the closing brace. -/
def readTreatment (readers : Readers) (setting : Setting) (name : RawText) : Reader Part := do
  let quoted := setting.isQuoted
  let treated (treatment : Treatment) (nonempty : Bool) : Reader Part := do
    return .treated name treatment nonempty (← readBracedWord readers setting.inBraces) quoted
  let trimmed (sign : Char) (atBack : Bool) : Reader Part := do
    let longest ← takes sign
    return .trimmed name atBack longest (← readBracedWord readers setting.inPattern) quoted
  let meaningless : Reader Part := do
    let _ ← readBracedWord readers setting.inBraces
    return .meaningless
  let chosen (nonempty : Bool) : Option Char → Reader Part
    | some '\n' => do
      modify fun scanner => { scanner with line := scanner.line - 1 }
      meaningless
    | some '-' => treated .default nonempty
    | some '=' => treated .assigned nonempty
    | some '?' => treated .required nonempty
    | some '+' => treated .replaced nonempty
    | _ => meaningless
  match ← next with
  | some '\x7d' => return .parameter name quoted
  | some ':' => do chosen true (← next)
  | some '#' => trimmed '#' false
  | some '%' => trimmed '%' true
  | none => reject setting.inBraces.openFlaw
  | sign => chosen false sign

/-- Reads a parameter in braces, given that the opening one is taken. -/
def readBraced (readers : Readers) (setting : Setting) : Reader Part := do
  let meaningless : Reader Part := do
    let _ ← readBracedWord readers setting.inBraces
    return .meaningless
  let length (name : RawText) : Reader Part := do
    if ← takes '\x7d' then return .length name else meaningless
  match ← peek with
  | none => reject setting.inBraces.openFlaw
  | some '#' => do
    let _ ← take 1
    match (← peek), (← get).text.tail with
    | some character, following =>
      if isNameCharacter character then length (← readLongName)
      else if character ≠ '\x7d' ∧ following.head? = some '\x7d' then
        let _ ← take 1
        if isSpecialName character then length (String.ofList [character]) else meaningless
      else readTreatment readers setting "#"
    | none, _ => readTreatment readers setting "#"
  | some character =>
    if isNameCharacter character then readTreatment readers setting (← readLongName)
    else if isSpecialName character then
      let _ ← take 1
      readTreatment readers setting (String.ofList [character])
    else meaningless

/-! ## Substitutions -/

/-- Reads an expression up to its two closing brackets. -/
def readExpression (readers : Readers) (setting : Setting) : Reader Word :=
  repeating (fun ((depth, word) : Nat × Word) => do
    let add (sign : String) (depth : Nat) : Reader (Nat × Word ⊕ Word) :=
      return .inl (depth, word ++ [.text sign true])
    if ← takes '(' then add "(" (depth + 1)
    else if ← takes ')' then
      if depth ≠ 0 then add ")" (depth - 1)
      else if ← takes ')' then return .inr word
      else add ")" 0
    else if (← peek).isNone then reject .openExpression
    else return .inl (depth, word ++ (← readers.part (.expression setting.isInline)))) (0, [])

/-- Reads the text up to the next back quote that is not escaped. -/
def readBackquoted (quoted : Bool) : Reader (List Char) :=
  repeating (fun content => do
    match ← next with
    | none => reject .openBackquote
    | some '\x60' => return .inr content
    | some '\\' =>
      let character := (← take 1).headD '\\'
      let isEscaped := "\\\x60$".toList.contains character || (quoted && character == '"')
      return .inl (content ++ (if isEscaped then [character] else ['\\', character]))
    | some character => return .inl (content ++ [character])) []

/-- Reads from another text. -/
def readingFrom {Result : Type} (source : Scanner) (reader : Reader Result) : Reader Result :=
  match reader.run source with
  | .ok (result, _) => return result
  | .error flaw => throw flaw

/-- Reads what a dollar sign fills in, given that the sign is taken. A dollar
sign that fills in nothing stands for itself. -/
def readDollar (readers : Readers) (setting : Setting) : Reader Part := do
  let quoted := setting.isQuoted
  match ← peek with
  | some '(' =>
    let _ ← take 1
    if ← takes '(' then return .number (← readExpression readers setting) quoted
    else return .output (← readers.bracketed) quoted
  | some '\x7b' =>
    let _ ← take 1
    readBraced readers setting
  | some character =>
    if beginsName character then return .parameter (← readLongName) quoted
    else if character.isDigit ∨ isSpecialName character then
      return .parameter (String.ofList (← take 1)) quoted
    else return .text "$" quoted
  | none => return .text "$" quoted

/-! ## Parts -/

/-- Reads a text up to a single quote. -/
def readVerbatim (setting : Setting) : Reader Word := do
  let content ← takeWhile (· != '\'')
  if (← take 1).isEmpty then reject (if setting.isInline then .openBrace else .openQuote)
  else return [.text (String.ofList content) true]

/-- Reads one part of a word. -/
def readPart (readers : Readers) (setting : Setting) : Reader Word := do
  let quoted := setting.isQuoted
  match ← next with
  | none => return []
  | some '$' => return [← readDollar readers setting]
  | some '\x60' =>
    let content ← readBackquoted quoted
    return [.output (← readingFrom ((← get).inner content 1) readers.commands) quoted]
  | some '\\' =>
    match (← take 1).head? with
    | none => return [.text "\\" true]
    | some character =>
      let content := if setting.escapes character then [character] else ['\\', character]
      return [.text (String.ofList content) true]
  | some first =>
    let quotes := if first = '"' then setting.inQuotes? else none
    if let some inner := quotes then
      match ← readParts readers inner '"' with
      | [] => return [.text "" true]
      | parts => return parts
    else if first = '\'' ∧ ¬quoted then readVerbatim setting
    else
      let isPlain (character : Char) :=
        !("$\\\x60\"'\x7d()".toList.contains character) &&
          !(setting == .bare && endsWord character)
      return [.text (String.ofList (first :: (← takeWhile isPlain))) quoted]

/-- Reads a word, which is left empty where none begins. -/
def readWord (readers : Readers) : Reader Word := do
  joinTexts <$> repeating (fun word => do
    if (← peek).all endsWord then return .inr word
    else return .inl (word ++ (← readPart readers .bare))) []

/-! ## Home directories -/

/-- A text with the home directory that it begins with. The name of the
directory ends at a slash, or where the text does if nothing follows it. -/
def homeParts (text : List Char) (complete : Bool) : Word :=
  match text with
  | '~' :: rest =>
    let after := rest.dropWhile (· != '/')
    if after.isEmpty ∧ ¬complete then [.text (String.ofList text) false]
    else [.home (String.ofList (rest.takeWhile (· != '/'))), .text (String.ofList after) false]
  | _ => [.text (String.ofList text) false]

/-- A text with the home directory at its start, if a word starts there, and
with those after its colons on request. -/
def homesIn (atStart afterColons complete : Bool) (text : List Char) : Word :=
  let pieces := if afterColons then Text.splitAt ':' text else [text]
  let parts := pieces.mapIdx fun index piece =>
    if index = 0 && !atStart then [Part.text (String.ofList piece) false]
    else homeParts piece (complete || index + 1 < pieces.length)
  (parts.intersperse [.text ":" false]).flatten

mutual

/-- A part with the home directories in the words that it holds. -/
def Part.withHomes (afterColons : Bool) : Part → Part
  | .treated name treatment nonempty word quoted =>
    let inherits := treatment = .default || treatment = .replaced
    .treated name treatment nonempty (Word.homes (afterColons && inherits) true word) quoted
  | .trimmed name atBack longest pattern quoted =>
    .trimmed name atBack longest (Word.homes false true pattern) quoted
  | .number expression quoted => .number (Word.homes false false expression) quoted
  | part => part

/-- The rest of a word with its home directories. -/
def Word.homes (afterColons atStart : Bool) : List Part → List Part
  | [] => []
  | .text content false :: rest =>
    homesIn atStart afterColons rest.isEmpty content.toList ++ Word.homes afterColons false rest
  | part :: rest => part.withHomes afterColons :: Word.homes afterColons false rest

end

/-- A word with the home directory that it begins with. -/
def Word.withHome (word : Word) : Word :=
  Word.homes false true word

/-- A value with the home directories at its start and after its colons. -/
def Word.withHomes (word : Word) : Word :=
  Word.homes true true word

/-- The word that an inline text makes up. -/
def readInlineText (readers : Readers) : Reader Word :=
  (Word.withHome ∘ joinTexts) <$> repeating (fun word => do
    if (← peek).isNone then return .inr word
    else return .inl (word ++ (← readPart readers .inline))) []

end ReleasePilot.Script
