import ReleasePilot.Script.Word

/-!
# Reading scripts

Commands are joined to pipelines, pipelines to chains and chains to lists. What
nests in a command is read by readers of a lesser depth, and no text nests
deeper than the number of steps that it takes to read it. A script is read one
list at a time, as its aliases may change when that list is run.
-/

namespace ReleasePilot.Script

/-! ## Tokens -/

/-- The words that have a meaning of their own where a command may begin. -/
def keywords : List String :=
  ["!", "case", "do", "done", "elif", "else", "esac", "fi", "for", "if", "in", "then", "until",
    "while", "\x7b", "\x7d"]

/-- Where a token stands, which decides what it may be. -/
inductive Position where
  /-- A token is nothing but itself. -/
  | within
  /-- A word may be an alias, as in front of the words of a simple command. -/
  | beforeWords
  /-- A word may be a keyword or an alias, on one of the next lines if breaks are skipped. -/
  | command (skipsBreaks : Bool)
  /-- A word may be a keyword, on one of the next lines. -/
  | alternative
deriving DecidableEq

namespace Position

/-- Whether lines may end before the token. -/
def skipsBreaks : Position → Bool
  | .within | .beforeWords => false
  | .command skipsBreaks => skipsBreaks
  | .alternative => true

/-- Whether keywords are recognised. -/
def findsKeywords : Position → Bool
  | .within | .beforeWords => false
  | .command _ | .alternative => true

/-- Whether aliases are replaced. -/
def replacesAliases : Position → Bool
  | .within | .alternative => false
  | .beforeWords | .command _ => true

end Position

/-- The tokens before which a list of commands may end. -/
def Token.endsList : Token → Bool
  | .finish => true
  | .sign text => [")", ";;"].contains text
  | .keyword text =>
    ["then", "else", "elif", "fi", "do", "done", "esac", "\x7d"].contains text
  | .lineBreak | .word _ _ | .redirection _ _ => false

/-- Reads the sign of a redirection, given its descriptor if there is one. -/
def readRedirecting (descriptor : Option Nat) : Reader Token := do
  let token (default : Nat) (kind : Redirecting) : Token :=
    .redirection (descriptor.getD default) kind
  if ← takes '>' then
    if ← takes '>' then return token 1 (.file .appending)
    else if ← takes '|' then return token 1 (.file (.writing true))
    else if ← takes '&' then return token 1 .copy
    else return token 1 (.file (.writing false))
  else
    let _ ← takes '<'
    if ← takes '<' then return token 0 (.inline (← takes '-'))
    else if ← takes '&' then return token 0 .copy
    else if ← takes '>' then return token 0 (.file .both)
    else return token 0 (.file .reading)

/-- Reads a word, or a redirection with the digit before it. -/
def readWordToken (readers : Readers) : Reader Token := do
  let word ← readWord readers
  let bare := bareText? word
  let isRedirection := (← peek).any fun sign => sign == '<' || sign == '>'
  match isRedirection, bare.map String.toList with
  | true, some [] => readRedirecting none
  | true, some [digit] =>
    if digit.isDigit then readRedirecting (some (digit.toNat - '0'.toNat))
    else return .word word bare
  | _, _ => return .word word bare

/-- Reads a token, without regard to its meaning. -/
def readPlainToken (readers : Readers) : Reader Token := do
  let double (sign : Char) : Reader Token := do
    let _ ← take 1
    return .sign (if ← takes sign then String.ofList [sign, sign] else String.ofList [sign])
  repeating (fun () => do
    match ← peek with
    | none => return .inr .finish
    | some ' ' | some '\t' =>
      let _ ← takeWhile isSpace
      return .inl ()
    | some '#' =>
      let _ ← takeWhile (· != '\n')
      return .inl ()
    | some '\n' =>
      let _ ← take 1
      return .inr .lineBreak
    | some '&' => .inr <$> double '&'
    | some '|' => .inr <$> double '|'
    | some ';' => .inr <$> double ';'
    | some '(' | some ')' => return .inr (.sign (String.ofList (← take 1)))
    | some _ => .inr <$> readWordToken readers) ()

/-- Takes the token that was put back, or else reads one. Also says whether the
text of an alias before it ended with a blank. -/
def readHeldToken (readers : Readers) : Reader (Token × Bool) := do
  let scanner ← get
  match scanner.held with
  | none =>
    let token ← readPlainToken readers
    return (token, scanner.passesBlank (← get))
  | some token =>
    modify fun scanner => { scanner with held := none }
    return (token, false)

/-- Reads a token as what it is at its position. A word that is an alias is
replaced, and the token read that its text begins with. -/
def readToken (readers : Readers) (position : Position) : Reader Token :=
  repeating (fun () => do
    let (token, behindBlank) ← readHeldToken readers
    match token with
    | .lineBreak => return if position.skipsBreaks then .inl () else .inr token
    | .word _ (some text) =>
      if position.findsKeywords && keywords.contains text then return .inr (.keyword text)
      else if position.replacesAliases || behindBlank then
        match (← get).replacement? text with
        | some content =>
          modify (·.replacing text content)
          return .inl ()
        | none => return .inr token
      else return .inr token
    | _ => return .inr token) ()

/-- Reads a keyword that has to come next. -/
def expectKeyword (readers : Readers) (position : Position) (text : String) : Reader Unit := do
  let token ← readToken readers position
  match token with
  | .keyword found => unless found = text do rejectToken token (some (doubleQuoted text))
  | _ => rejectToken token (some (doubleQuoted text))

/-- Reads a sign that has to come next. -/
def expectSign (readers : Readers) (text : String) : Reader Unit := do
  let token ← readToken readers .within
  match token with
  | .sign found => unless found = text do rejectToken token (some (doubleQuoted text))
  | _ => rejectToken token (some (doubleQuoted text))

/-! ## Redirections -/

/-- A line with the end that indentation by tabs leaves of it. -/
def withoutTabs (indented : Bool) (line : List Char) : List Char :=
  if indented then line.dropWhile (· == '\t') else line

/-- Whether the line break behind a line is hidden by a backslash. -/
def hidesBreak (line : List Char) : Bool :=
  (line.reverse.takeWhile (· == '\\')).length % 2 == 1

/-- The lines up to one that consists of a given text, the lines after it, and
the number of lines up to there. -/
def splitAtLine (ending : List Char) (verbatim indented : Bool) (continued : Bool) :
    List (List Char) → List (List Char) × List (List Char) × Nat
  | [] => ([], [], 0)
  | line :: rest =>
    let line := withoutTabs indented line
    if line = ending ∧ ¬continued then ([], rest, 1)
    else
      let (before, after, count) :=
        splitAtLine ending verbatim indented (!verbatim && hidesBreak line) rest
      (line :: before, after, count + 1)

/-- The lines of an inline text. -/
structure InlineText where
  content : List Char := []
  /-- Whether there is a line that ends the text. -/
  closed : Bool := false
  /-- The number of lines from the end of the text to the end of the script. -/
  behind : Nat := 0

/-- Takes the lines of an inline text out of those that follow the current one. -/
def takeInlineText (ending : List Char) (verbatim indented : Bool) : Reader InlineText := do
  let scanner ← get
  match Text.splitAt '\n' scanner.text with
  | line :: following =>
    let (before, after, count) := splitAtLine ending verbatim indented false following
    let text := if following.isEmpty then line else Text.joinWith ['\n'] (line :: after)
    let text := if after.isEmpty ∧ ¬following.isEmpty then text ++ ['\n'] else text
    let closed := count != before.length
    let breaks := if closed then count else count - 1
    set { scanner.withoutPart text with ahead := scanner.ahead + breaks }
    let content := Text.joinWith ['\n'] before
    let content := if closed && !before.isEmpty then content ++ ['\n'] else content
    return { content, closed, behind := after.length }
  | [] => return {}

/-- Reads what follows the sign of a redirection. -/
def readRedirection (readers : Readers) (descriptor : Nat) (kind : Redirecting) :
    Reader Redirection := do
  let token ← readToken readers .within
  match token with
  | .word word _ =>
    match kind with
    | .file opening => return .file descriptor opening word.withHome
    | .copy => return .copy descriptor word
    | .inline indented =>
      let (ending, verbatim) := writtenText word
      let scanner ← get
      let { content, closed, behind } ← takeInlineText ending verbatim indented
      if verbatim then return .inline descriptor [.text (String.ofList content) true]
      else
        let source := (← get).inner content (scanner.line + scanner.ahead + 1)
        let source := { source with closing := if closed then 1 else 0, behind }
        return .inline descriptor (← readingFrom source (readInlineText readers))
  | _ => rejectToken token none

/-- Reads the redirections behind a command. What comes next without any may be a keyword. -/
def readRedirections (readers : Readers) : Reader (List Redirection) :=
  repeating (fun redirections => do
    match ← readToken readers (if redirections.isEmpty then .command false else .within) with
    | .redirection descriptor kind =>
      return .inl (redirections ++ [← readRedirection readers descriptor kind])
    | token =>
      hold token
      return .inr redirections) []

/-! ## Simple commands -/

/-- The assignment that a word makes, which is a name with an equals sign and a value. -/
def assignment? : Word → Option (RawText × Word)
  | .text content false :: rest =>
    match Text.splitOnce? '=' content.toList with
    | some (name, value) =>
      let name := String.ofList name
      if isName name then some (name, joinTexts (.text (String.ofList value) false :: rest))
      else none
    | none => none
  | _ => none

/-- The commands that no function can be named after. -/
def specialNames : List String :=
  [".", ":", "break", "continue", "eval", "exec", "exit", "export", "local", "readonly", "return",
    "set", "shift", "times", "trap", "unset"]

/-- The items of a simple command. -/
structure Items where
  assignments : List Assignment := []
  words : List Word := []
  redirections : List Redirection := []

/-- Reads a function, given the word that names it and the bracket behind it. -/
def readDefinition (readers : Readers) (word : Word) : Reader Command := do
  expectSign readers ")"
  match bareText? word with
  | some name =>
    if isName name ∧ ¬specialNames.contains name then
      return .define name (← readers.command)
    else reject .functionName
  | none => reject .functionName

/-- Reads a simple command, or the definition of a function. Assignments stand
before the words of the command. -/
def readSimple (readers : Readers) : Reader Command := do
  let line := (← get).line
  repeating (fun (items : Items) => do
    let token ← readToken readers (if items.words.isEmpty then .beforeWords else .within)
    let finished : Reader (Items ⊕ Command) := do
      hold token
      return .inr (.simple line items.assignments items.words items.redirections)
    match token with
    | .word word _ =>
      match if items.words.isEmpty then assignment? word else none with
      | some (name, value) =>
        let assignments := items.assignments ++ [.set name value.withHomes]
        return .inl { items with assignments }
      | none => return .inl { items with words := items.words ++ [word.withHome] }
    | .redirection descriptor kind =>
      let redirection ← readRedirection readers descriptor kind
      return .inl { items with redirections := items.redirections ++ [redirection] }
    | .sign "(" =>
      match items with
      | { assignments := [], words := [word], redirections := [] } =>
        return .inr (← readDefinition readers word)
      | _ => finished
    | _ => finished) {}

/-! ## Compound commands -/

/-- Reads the branches of a choice behind its first keyword. -/
def readBranches (readers : Readers) : Reader Command := do
  let branches ← repeating (fun (branches : List (Command × Command)) => do
    let condition ← readers.body
    expectKeyword readers .within "then"
    let branches := (condition, ← readers.body) :: branches
    match ← readToken readers .within with
    | .keyword "elif" => return .inl branches
    | token =>
      hold token
      return .inr branches) []
  let rejected ←
    match ← readToken readers .within with
    | .keyword "else" => readers.body
    | token =>
      hold token
      pure .nothing
  expectKeyword readers .within "fi"
  return branches.foldl (fun rejected (condition, accepted) =>
    .choose condition accepted rejected) rejected

/-- Reads a loop behind its first keyword. -/
def readLoop (readers : Readers) (whileFailing : Bool) : Reader Command := do
  let condition ← readers.body
  expectKeyword readers .within "do"
  let body ← readers.body
  expectKeyword readers .within "done"
  return .loop condition whileFailing body

/-- Reads the words up to the end of a line or a semicolon. -/
def readLoopWords (readers : Readers) : Reader (List Word) :=
  repeating (fun words => do
    match ← readToken readers .within with
    | .word word _ => return .inl (words ++ [word.withHome])
    | .lineBreak | .sign ";" => return .inr words
    | token => rejectToken token none) []

/-- Reads a loop over words behind its first keyword. Without words, it goes
over the arguments of the script. -/
def readEach (readers : Readers) : Reader Command := do
  let line := (← get).line
  match ← readToken readers .within with
  | .word _ (some name) =>
    unless isName name do reject .loopName
    let words ←
      match ← readToken readers (.command true) with
      | .keyword "in" => readLoopWords readers
      | .sign ";" => pure [[.parameter "@" true]]
      | token =>
        hold token
        pure [[.parameter "@" true]]
    expectKeyword readers (.command true) "do"
    let body ← readers.body
    expectKeyword readers .within "done"
    return .each line name words body
  | _ => reject .loopName

/-- The pattern that a token stands for. -/
def Token.pattern : Token → Word
  | .word content _ => content.withHome
  | .keyword text => [.text text false]
  | _ => []

/-- Reads the patterns of an alternative, given the token that they begin with. -/
def readPatterns (readers : Readers) (first : Token) : Reader (List Word) := do
  let first ←
    match first with
    | .sign "(" => readToken readers .within
    | token => pure token
  repeating (fun patterns => do
    let token ← readToken readers .within
    match token with
    | .sign "|" =>
      let pattern ← readToken readers .within
      return .inl (patterns ++ [pattern.pattern])
    | .sign ")" => return .inr patterns
    | _ => rejectToken token (some (doubleQuoted ")"))) [first.pattern]

/-- Reads a selection behind its first keyword. -/
def readSelection (readers : Readers) : Reader Command := do
  let line := (← get).line
  let token ← readToken readers .within
  match token with
  | .word word _ =>
    expectKeyword readers (.command true) "in"
    let arms ← repeating (fun arms => do
      match ← readToken readers .alternative with
      | .keyword "esac" => return .inr arms
      | first =>
        let patterns ← readPatterns readers first
        let arms := arms ++ [.choice patterns (← readers.commands)]
        match ← readToken readers .alternative with
        | .keyword "esac" => return .inr arms
        | .sign ";;" => return .inl arms
        | token => rejectToken token (some (doubleQuoted ";;"))) []
    return .select line word.withHome arms
  | _ => rejectToken token (some "word")

/-- Reads a command with its redirections. -/
def readCommand (readers : Readers) (skipBreaks : Bool) : Reader Command := do
  let line := (← get).line
  let withRedirections (reader : Reader Command) : Reader Command := do
    let body ← reader
    match ← readRedirections readers with
    | [] => return body
    | redirections => return .redirected body redirections line
  let token ← readToken readers (.command skipBreaks)
  match token with
  | .keyword "if" => withRedirections (readBranches readers)
  | .keyword "while" => withRedirections (readLoop readers false)
  | .keyword "until" => withRedirections (readLoop readers true)
  | .keyword "for" => withRedirections (readEach readers)
  | .keyword "case" => withRedirections (readSelection readers)
  | .sign "(" => withRedirections do
    let body ← readers.body
    expectSign readers ")"
    return .isolated body
  | .keyword "\x7b" => withRedirections do
    let body ← readers.body
    expectKeyword readers .within "\x7d"
    return body
  | .word _ _ | .redirection _ _ =>
    hold token
    readSimple readers
  | _ => rejectToken token none

/-! ## Lists -/

/-- Reads the commands of a pipeline. -/
def readPipeline (readers : Readers) : Reader Command := do
  let negated ←
    match ← readToken readers (.command true) with
    | .keyword "!" => pure true
    | token =>
      hold token
      pure false
  let commands ← repeating (fun commands => do
    let commands := (← readCommand readers (!commands.isEmpty)) :: commands
    match ← readToken readers .within with
    | .sign "|" => return .inl commands
    | token =>
      hold token
      return .inr commands) []
  let pipeline :=
    match commands with
    | [] => .nothing
    | last :: before => before.foldl (fun second first => .pipe first second) last
  return if negated then .negated pipeline else pipeline

/-- Reads a chain of pipelines. -/
def readChain (readers : Readers) : Reader Command := do
  repeating (fun chain => do
    match ← readToken readers .within with
    | .sign "&&" => return .inl (.both chain (← readPipeline readers))
    | .sign "||" => return .inl (.either chain (← readPipeline readers))
    | token =>
      hold token
      return .inr chain) (← readPipeline readers)

/-- The extent of a list of commands. -/
inductive Extent where
  | line
  /-- Several lines with at least one command. -/
  | body
  /-- Several lines that may be empty. -/
  | lines
deriving DecidableEq

/-- One command after another. -/
def Command.andThen : Command → Command → Command
  | .nothing, second => second
  | first, .nothing => first
  | first, second => .sequence first second

/-- Reads a list of commands. At the end of the script there is none. -/
def readList (readers : Readers) (extent : Extent) : Reader (Option Command) :=
  repeating (fun (list : Option Command) => do
    let token ← readToken readers (.command (extent ≠ .line))
    match token with
    | .lineBreak => return .inr (list.getD .nothing)
    | .finish =>
      hold token
      return .inr list
    | _ =>
      hold token
      if token.endsList ∧ (extent = .lines ∨ (extent = .body ∧ list.isSome)) then
        return .inr list
      let chain ← readChain readers
      let token ← readToken readers .within
      let continued (command : Command) : Option Command := (list.getD .nothing).andThen command
      match token with
      | .sign "&" => return .inl (continued (.background chain))
      | .sign ";" => return .inl (continued chain)
      | .lineBreak | .finish =>
        hold token
        return .inl (continued chain)
      | _ =>
        if extent = .line then rejectToken token none
        else
          hold token
          return .inr (continued chain)) none

/-- The readers of what may nest to a given depth. Those of a lesser depth are
made as soon as they are needed. -/
def readersOfDepth : Nat → Readers
  | 0 =>
    { commands := reject .nestedTooDeep, bracketed := reject .nestedTooDeep
      body := reject .nestedTooDeep, command := reject .nestedTooDeep
      part := fun _ => reject .nestedTooDeep }
  | depth + 1 =>
    let commands (readers : Readers) (extent : Extent) : Reader Command :=
      (·.getD .nothing) <$> readList readers extent
    { commands := fun scanner => commands (readersOfDepth depth) .lines scanner
      bracketed := fun scanner => (do
        let list ← commands (readersOfDepth depth) .lines
        expectSign (readersOfDepth depth) ")"
        return list : Reader Command) scanner
      body := fun scanner => commands (readersOfDepth depth) .body scanner
      command := fun scanner => readCommand (readersOfDepth depth) true scanner
      part := fun setting scanner => readPart (readersOfDepth depth) setting scanner }

/-! ## Scripts -/

/-- What comes next in a script. -/
inductive Reading where
  | finished
  /-- The commands up to the end of a line, and what is left of the script. -/
  | next (commands : Command) (rest : Scanner)
  /-- What cannot be read, which ends the script. -/
  | flawed (found : FoundFlaw)

/-- Reads the commands up to the end of a line. -/
def Scanner.read (scanner : Scanner) : Reading :=
  match (readList (readersOfDepth scanner.stepLimit) .line).run { scanner with held := none } with
  | .error found => .flawed found
  | .ok (none, _) => .finished
  | .ok (some commands, rest) => .next commands rest

end ReleasePilot.Script
