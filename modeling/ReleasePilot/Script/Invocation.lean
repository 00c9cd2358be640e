import ReleasePilot.Script.Builtin

/-!
# Invoking commands

A command whose words are filled in is a function, a command of the machine or
a program. Functions, texts and files bring commands of their own with them,
which are run by an evaluator.
-/

namespace ReleasePilot.Script

/-- The means to run the commands that a command brings with it. -/
abbrev Evaluator := Frame → Command → Step Unit

/-- Runs a step that a return ends. -/
def untilReturn (step : Step Unit) : Step Unit := do
  try step catch
    | .returned status => setStatus status
    | ending => throw ending

/-! ## Scripts -/

/-- Whether a command has nothing to run. -/
def Command.isNothing : Command → Bool
  | .nothing => true
  | _ => false

/-- How many lines the aliases of a script may add to it. -/
def addedLineLimit : Nat := 100000

/-- The part of a text that is read up to what comes next. -/
def Reading.readPart (reading : Reading) (scanner : Scanner) : List Char :=
  match reading with
  | .finished => scanner.text
  | .next _ rest => scanner.text.take (scanner.text.length - rest.text.length)
  | .flawed found =>
    let lines := (Text.splitAt '\n' scanner.text).take (found.line + 1 - scanner.line)
    scanner.text.take (Text.joinWith ['\n'] lines ++ ['\n']).length

/-- Runs a script as it is read, as only what was run decides on the aliases of
the lines behind it. Says whether there were any commands. The lines may be shown. -/
def runLines (again : Evaluator) (frame : Frame) (showing : Bool) :
    Nat → Bool → Scanner → Step Bool
  | 0, _, _ => throw .exhausted
  | count + 1, any, scanner => do
    let machine ← get
    let reading := Scanner.read { scanner with aliases := machine.aliases }
    if showing ∧ machine.options.contains 'v' then
      print 2 (String.ofList (reading.readPart scanner))
    match reading with
    | .finished => return any
    | .flawed found =>
      again frame (.malformed found.line found.flaw)
      return true
    | .next commands rest =>
      again { frame with expanding := frame.expanding ++ rest.pendingAliases } commands
      runLines again frame showing count (any || !commands.isNothing) rest

/-- Runs the script that a text writes. Says whether there were any commands. -/
def runScript (again : Evaluator) (frame : Frame) (showing : Bool) (text : RawText) :
    Step Bool :=
  let scanner := Scanner.ofText text.toList frame.expanding
  runLines again frame showing (scanner.text.length + addedLineLimit) false scanner

/-! ## Traps -/

/-- Does what the script is set to do when a signal comes, after which the status is as before. -/
def runTrap (again : Evaluator) (frame : Frame) (action : RawText) : Step Unit := do
  let status := frame.resumed.getD (← get).status
  let _ ← runScript again { frame with tested := false, resumed := some status } false action
  setStatus status

/-- Does what the script is set to do at its end, if anything. The status stays
as it is unless this fails or gives another one. -/
def runLastTrap (again : Evaluator) (frame : Frame) : Step Unit := do
  match (← get).trap? 0 with
  | none | some "" => pure ()
  | some action =>
    modify fun machine => machine.setTrap 0 none
    let status := (← get).status
    try
      let frame := { frame with tested := false, resumed := some status }
      let _ ← runScript again frame false action
      setStatus status
    catch
      | .exited status => setStatus status
      | .returned _ | .left _ | .skipped _ => setStatus status
      | .failed => pure ()
      | ending => throw ending

/-- Runs a step as a whole script, whose end it may have set a trap for. -/
def concluding (again : Evaluator) (frame : Frame) (step : Step Unit) : Step Unit := do
  try step catch
    | .exited status | .returned status => setStatus status
    | .failed | .left _ | .skipped _ => pure ()
    | ending => throw ending
  runLastTrap again frame

/-- A step as it is run in a script of its own that begins like the current one.
Of the traps, only those that do nothing are kept. -/
def separate (again : Evaluator) (frame : Frame) (step : Step Unit) : Step Unit := do
  modify fun machine =>
    { machine with traps := machine.traps.filter (·.action = "") }
  concluding again frame step

/-! ## Functions and texts -/

/-- How deep functions may call each other. -/
def callLimit : Nat := 1000

/-- Calls a function. -/
def callFunction (again : Evaluator) (frame : Frame) (body : Command)
    (arguments : List RawText) : Step Unit := do
  if callLimit ≤ frame.calls then
    refuse frame ("Maximum function recursion depth (" ++ toString callLimit ++ ") reached")
  let restore (before after : Machine) : Machine :=
    { after with
      arguments := before.arguments, optionNumber := before.optionNumber
      optionPlace := before.optionPlace }
  let inner := { frame with loops := 0, calls := frame.calls + 1 }
  restoring restore do
    modify fun machine => ({ machine with arguments } : Machine).readingOptions 1
    keepingVariables (untilReturn (again inner body))

/-- Runs a text as part of the script. -/
def runText (again : Evaluator) (frame : Frame) (showing : Bool) (text : RawText) :
    Step Unit := do
  unless ← runScript again frame showing text do setStatus 0

/-- Runs its words as part of the script. -/
def evaluateWords (again : Evaluator) : Builtin := fun frame words =>
  runText again frame false (" ".intercalate words)

/-- The path of the first file with a name in the directories of the search path. -/
def Machine.filePath? (machine : Machine) (name : RawText) : Option RawText :=
  (machine.searchedPaths name).find? (Condition.unary machine.tree "-f")

/-- Runs a file as part of the script. -/
def runFile (again : Evaluator) : Builtin := fun frame arguments => do
  let (_, words) ← takeLetters frame "" arguments
  match words with
  | [] => setStatus 0
  | name :: _ =>
    let machine ← get
    let path? := if name.toList.contains '/' then some name else machine.filePath? name
    match path? with
    | none => refuse frame (name ++ ": not found")
    | some path =>
      match machine.tree.read (RawText.toText path) with
      | .error .isDirectory => setStatus 0
      | .error fault =>
        let missing := fault == .notFound || fault == .notDirectory
        let reason := if missing then "No such file" else Utility.wording fault
        refuse frame ("cannot open " ++ path ++ ": " ++ reason)
      | .ok contents =>
        let frame := { frame with speaker := some path, tested := false }
        untilReturn (runText again frame true (RawText.ofBytes contents))

/-! ## Commands that run others -/

/-- Runs a program in place of the script. -/
def replaceScript : Builtin := fun frame arguments => do
  let (_, words) ← takeLetters frame "" arguments
  match words with
  | [] => setStatus 0
  | name :: arguments =>
    match ← startProgram frame name arguments with
    | .ok completion =>
      takeOver completion
      modify fun machine => { machine with traps := [] }
      match completion.status with
      | .code status => throw (.exited status)
      | .signal number => throw (.killed number)
    | .error fault =>
      failToStart frame name fault
      throw (.exited (← get).status)

/-- The command behind words that only ask for another one to be run, if there is any. -/
def behindPrefixes (inOptions : Bool) : List RawText → Option (List RawText)
  | [] => none
  | word :: rest =>
    if inOptions && word == "--" then behindPrefixes false rest
    else if inOptions && word.startsWith "-" && word != "-" then
      if (word.toList.drop 1).all (· == 'p') then behindPrefixes true rest else none
    else if word == "command" then some ((behindPrefixes true rest).getD (word :: rest))
    else some (word :: rest)

/-- The words of a command without those that only ask for it to be run. -/
def proper (words : List RawText) : List RawText :=
  (behindPrefixes false words).getD words

/-- Says what a name stands for. -/
def describe : Builtin := fun frame arguments => do
  let (letters, names) ← takeLetters frame "pvV" arguments
  setStatus 0
  if letters.contains 'v' ∨ letters.contains 'V' then
    explain (!letters.contains 'V') (names.take 1)

/-- Sends signals, and does what the script is set to do when it gets one. -/
def sendSignals (again : Evaluator) : Builtin := fun frame words => do
  let actions ← kill frame words
  actions.forM (runTrap again { frame with speaker := none })

/-- The command of the machine with a name. -/
def builtin? (again : Evaluator) (name : RawText) : Option Builtin :=
  match name with
  | "eval" => some (evaluateWords again)
  | "." => some (runFile again)
  | "exec" => some replaceScript
  | "command" => some describe
  | "type" => some fun _ names => explain false names
  | "kill" => some (sendSignals again)
  | _ => builtins.lookup name

/-- Whether the first of some words is a command whose failure ends the script. -/
def isSpecial (words : List RawText) : Bool :=
  words.head?.any specialNames.contains

/-- Runs a command whose words are filled in. -/
def perform (again : Evaluator) (frame : Frame) (words : List RawText) : Step Unit := do
  match proper words with
  | [] => pure ()
  | name :: arguments =>
    let bypassing := arguments.length + 1 < words.length
    let machine ← get
    let function? := if bypassing then none else machine.functions.lookup name
    match function?, builtin? again name, ownUtilities.lookup name with
    | some body, _, _ => callFunction again frame body arguments
    | none, some command, _ =>
      let step := command { frame with speaker := some name } arguments
      if isSpecial words then step
      else
        let _ ← attempt step
    | none, none, some utility => runOwnUtility frame utility name arguments
    | none, none, none => runProgram frame name arguments

end ReleasePilot.Script
