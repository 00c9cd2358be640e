import ReleasePilot.Program.Complaint
import ReleasePilot.Program.Printing
import ReleasePilot.Program.Testing
import ReleasePilot.Script.Input
import ReleasePilot.Script.Reader
import ReleasePilot.Script.Signal

/-!
# Commands of the machine

Some commands change the machine itself and are no programs of their own.
Others are there for convenience and work like the programs of their names.
-/

namespace ReleasePilot.Script

/-! ## The working directory -/

/-- A path from a directory, followed by its names alone. -/
def namedPath (directory path : String) : String :=
  let start := if isAbsolutePath path then [] else pathNames directory
  let names := (start ++ pathNames path).foldl (fun names name =>
    if name = "" ∨ name = "." then names
    else if name = ".." then names.dropLast
    else names ++ [name]) []
  "/" ++ "/".intercalate names

/-- Enters a directory, which is remembered by its names or by its place. -/
def enter (path : String) (byPlace : Bool) : Step Bool := do
  let machine ← get
  let target := if byPlace then path else namedPath machine.directory path
  match machine.tree.enter target with
  | .ok tree =>
    let name := if byPlace then Tree.pathOf tree.workingDirectory else target
    modify fun machine =>
      let before := RawText.ofText machine.directory
      ({ machine with tree }.setVariable true "OLDPWD" before).setVariable true "PWD"
        (RawText.ofText name)
    return true
  | .error _ => return false

/-- Changes the working directory. -/
def changeDirectory : Builtin := fun frame arguments => do
  let (letters, words) ← takeLetters frame "LP" arguments
  let byPlace := letters.getLast? = some 'P'
  let machine ← get
  let word := words.head?.getD ((machine.valueOf? "HOME").getD "")
  let target := if word = "-" then (machine.valueOf? "OLDPWD").getD "" else word
  let path := RawText.toText target
  let roots := ((Text.splitAt ':' ((machine.valueOf? "CDPATH").getD "").toList).map
    String.ofList).filter (· ≠ "")
  let searched := roots.isEmpty || target = "" || target.startsWith "/" || target.startsWith "."
  let found := if searched then none else roots.find? fun root =>
    machine.tree.followedAt? (joinPath (RawText.toText root) path) = some .directory
  let entered ←
    match found with
    | some root => enter (joinPath (RawText.toText root) path) byPlace
    | none => enter (if path = "" then "." else path) byPlace
  if entered then
    if word = "-" ∨ found.isSome then print 1 (RawText.ofText (← get).directory ++ "\n")
    setStatus 0
  else refuse frame ("can't cd to " ++ target)

/-- Prints the working directory. -/
def printDirectory : Builtin := fun frame arguments => do
  let (letters, _) ← takeLetters frame "LP" arguments
  let machine ← get
  let path :=
    if letters.getLast? = some 'P' then Tree.pathOf machine.tree.workingDirectory
    else machine.directory
  print 1 (RawText.ofText path ++ "\n")
  setStatus 0

/-! ## The course of a script -/

/-- The status that the first of some words writes, if there is one. -/
def statusOf (frame : Frame) (default : Nat) : List RawText → Step Nat
  | [] => return default
  | word :: _ => naturalOf frame word

/-- Ends the script. -/
def exit : Builtin := fun frame words => do
  throw (.exited (← statusOf frame (frame.resumed.getD (← get).status) words))

/-- Ends a function. -/
def returnFrom : Builtin := fun frame words => do
  throw (.returned (← statusOf frame (← get).status words))

/-- Leaves a number of the loops around a command, or begins them anew. -/
def leaveLoops (ending : Nat → Ending) : Builtin := fun frame words => do
  let count ←
    match words with
    | [] => pure 1
    | word :: _ => naturalOf frame word
  if count = 0 then refuse frame "Illegal number: 0"
  setStatus 0
  if frame.loops ≠ 0 then throw (ending (min count frame.loops))

/-! ## The names of commands -/

/-- The paths that a name has in the directories of the search path. -/
def Machine.searchedPaths (machine : Machine) (name : RawText) : List RawText :=
  ((machine.valueOf? "PATH").map (Tree.searchedPaths · name)).getD []

/-- The path of the first program with a name in the directories of the search path. -/
def Machine.programPath? (machine : Machine) (name : RawText) : Option RawText :=
  (machine.searchedPaths name).find? fun path =>
    Condition.unary machine.tree "-x" path && Condition.unary machine.tree "-f" path

/-- Whether a name is only that of directories in the search path. -/
def Machine.isDirectoryName (machine : Machine) (name : RawText) : Bool :=
  let paths := machine.searchedPaths name
  !name.toList.contains '/' && paths.any (Condition.unary machine.tree "-d") &&
    !paths.any (Condition.unary machine.tree "-f")

/-- A name with the text that a word gives it. The name may begin with the sign
that would otherwise end it. -/
def splitAlias (word : RawText) : RawText × Option RawText :=
  match word.toList with
  | first :: rest =>
    match Text.splitOnce? '=' rest with
    | some (name, value) => (String.ofList (first :: name), some (String.ofList value))
    | none => (word, none)
  | [] => (word, none)

/-- Sets other names of commands, or shows them. -/
def defineAliases : Builtin := fun frame words => do
  let machine ← get
  let showOne (entry : RawText × RawText) : Step Unit :=
    print 1 (entry.1 ++ "=" ++ shown entry.2 ++ "\n")
  if words.isEmpty then (machine.aliases.mergeSort (·.1 ≤ ·.1)).forM showOne
  setStatus 0
  for word in words do
    match splitAlias word with
    | (name, some value) =>
      modify fun machine =>
        { machine with aliases := (name, value) :: machine.aliases.filter (·.1 != name) }
    | (name, none) =>
      match machine.aliases.find? (·.1 == name) with
      | some entry => showOne entry
      | none =>
        print 2 (frame.speaker.getD "" ++ ": " ++ name ++ " not found\n")
        setStatus 1

/-- Forgets other names of commands. -/
def unalias : Builtin := fun frame arguments => do
  let (letters, names) ← takeLetters frame "a" arguments
  if letters.contains 'a' then modify fun machine => { machine with aliases := [] }
  setStatus 0
  for name in names do
    if (← get).aliases.any (·.1 == name) then
      modify fun machine => { machine with aliases := machine.aliases.filter (·.1 != name) }
    else
      print 2 (frame.speaker.getD "" ++ ": " ++ name ++ " not found\n")
      setStatus 1

/-- Succeeds without doing anything. -/
def succeed : Builtin := fun _ _ => setStatus 0

/-- Prints a text and succeeds. -/
def announce (content : RawText) : Builtin := fun _ _ => do
  print 1 content
  setStatus 0

/-- The digits of a number to the base eight, four of them. -/
def maskDigits (mask : Nat) : RawText :=
  String.ofList ([512, 64, 8, 1].map fun unit => Nat.digitChar (mask / unit % 8))

/-- The permissions that a mask leaves, in letters. -/
def maskLetters (mask : Nat) : RawText :=
  let letters (digit : Nat) : RawText :=
    String.ofList ([('r', 4), ('w', 2), ('x', 1)].filterMap fun (letter, bit) =>
      if digit / bit % 2 = 0 then some letter else none)
  "u=" ++ letters (mask / 64 % 8) ++ ",g=" ++ letters (mask / 8 % 8) ++ ",o=" ++
    letters (mask % 8)

/-- Shows or sets the permissions that new files do not get. -/
def changeMask : Builtin := fun frame arguments => do
  let (letters, words) ← takeLetters frame "S" arguments
  match words with
  | [] =>
    let mask := (← get).mask
    print 1 ((if letters.isEmpty then maskDigits mask else maskLetters mask) ++ "\n")
  | word :: _ =>
    let digits := word.toList
    if digits.all Char.isDigit then
      if digits.any fun digit => '8' ≤ digit then refuse frame ("Illegal number: " ++ word)
      modify fun machine => { machine with mask := Nat.ofDigitChars 8 digits 0 % 512 }
    else refuse frame ("Illegal mode: " ++ word)
  setStatus 0

/-- The commands that work on the machine, by their names. -/
def builtins : List (RawText × Builtin) :=
  [(":", succeed), ("true", succeed), ("false", fun _ _ => setStatus 1), ("exit", exit),
    ("return", returnFrom), ("break", leaveLoops .left), ("continue", leaveLoops .skipped),
    ("cd", changeDirectory), ("chdir", changeDirectory), ("pwd", printDirectory),
    ("export", exportVariables), ("readonly", keepVariables), ("unset", unset),
    ("local", localVariables), ("set", set), ("shift", shift), ("getopts", getopts),
    ("read", read), ("trap", trap), ("wait", wait), ("alias", defineAliases), ("unalias", unalias),
    ("umask", changeMask), ("ulimit", announce "unlimited\n"),
    ("times", announce "0m0.000000s 0m0.000000s\n0m0.000000s 0m0.000000s\n"),
    ("hash", succeed), ("jobs", succeed)]

/-- The programs that a script need not start. -/
def ownUtilities : List (RawText × Utility) :=
  [("echo", Utility.echoEscaped), ("printf", Utility.printfPlain), ("test", Utility.testPlain),
    ("[", Utility.bracketPlain)]

/-- The commands that run other commands. -/
def runners : List RawText :=
  [".", "command", "eval", "exec", "kill", "type"]

/-- Whether a name is that of a command of the machine. -/
def isBuiltin (name : RawText) : Bool :=
  (builtins.map Prod.fst).contains name || (ownUtilities.map Prod.fst).contains name ||
    runners.contains name

/-- What a name stands for. -/
inductive Meaning where
  | keyword
  | replaced (text : RawText)
  | builtin (special : Bool)
  | function
  | program (path : RawText)
  | unknown
deriving DecidableEq, Repr

/-- What a name stands for where a command is expected. -/
def Machine.meaning (machine : Machine) (name : RawText) : Meaning :=
  if keywords.contains name then .keyword
  else
    match machine.aliases.lookup name with
    | some text => .replaced text
    | none =>
      if specialNames.contains name then .builtin true
      else if (machine.functions.lookup name).isSome then .function
      else if isBuiltin name then .builtin false
      else if name.toList.contains '/' then
        if Condition.unary machine.tree "-x" name then .program name else .unknown
      else ((machine.programPath? name).map .program).getD .unknown

/-- Says what names stand for, briefly or in a sentence. -/
def explain (briefly : Bool) (names : List RawText) : Step Unit := do
  setStatus 0
  for name in names do
    match (← get).meaning name with
    | .unknown =>
      unless briefly do print 1 (name ++ ": not found\n")
      setStatus 127
    | meaning =>
      let (brief, sentence) :=
        match meaning with
        | .keyword => (name, "is a shell keyword")
        | .replaced text => ("alias " ++ name ++ "=" ++ shown text, "is an alias for " ++ text)
        | .builtin true => (name, "is a special shell builtin")
        | .builtin false => (name, "is a shell builtin")
        | .function => (name, "is a shell function")
        | .program path => (path, "is " ++ path)
        | .unknown => (name, "")
      print 1 ((if briefly then brief else name ++ " " ++ sentence) ++ "\n")

/-! ## Programs -/

/-- Prints what a program left behind and takes over its changes to the tree.
Errors come first as they are not held back. -/
def takeOver (completion : Completion) : Step Unit :=
  modify fun machine =>
    let tree := { completion.tree with workingDirectory := machine.tree.workingDirectory }
    let files := machine.files.map (·.following machine.tree tree)
    let machine := { machine with tree, files }
    let machine := (completion.unread.map (machine.setInput 0)).getD machine
    (machine.write (machine.handle? 2) completion.errors).write (machine.handle? 1)
      completion.output

/-- Takes over what a program did, its status included. -/
def adopt (completion : Completion) : Step Unit := do
  takeOver completion
  match completion.status with
  | .code status => setStatus status
  | .signal number =>
    if let some epitaph := epitaph? number then print 2 (epitaph ++ "\n")
    setStatus (128 + number)

/-- What a program is started with. -/
def launch (name : RawText) (arguments : List RawText) : Step Launch := do
  let machine ← get
  return { name, arguments, input := machine.input 0
           merged := machine.sharesOutput 1 2
           bindings := machine.environment, tree := machine.tree }

/-- Whether something was printed that went nowhere as the output is closed. -/
def isLost (completion : Completion) : Step Bool := do
  return ((← get).handle? 1).isNone && completion.output.size ≠ 0

/-- Starts a program, if it can be. A file that is no program of its own is run
as a script. -/
def startProgram (frame : Frame) (name : RawText) (arguments : List RawText) :
    Step (Except Fault Completion) := do
  let machine ← get
  let launch ← launch name arguments
  let isPath := name.toList.contains '/'
  let paths := if isPath then [name] else machine.searchedPaths name
  let started := startFirst (fun path => frame.launcher { launch with path }) .notFound paths
  match if Tree.nameLimit < name.length ∧ ¬isPath then .error .nameTooLong else started with
  | .error .notProgram =>
    let path := if isPath then name else (machine.programPath? name).getD name
    let arguments := path :: arguments
    return frame.launcher { launch with name := "/bin/sh", path := none, arguments }
  | result => return result

/-- Says why a program cannot be started. -/
def failToStart (frame : Frame) (name : RawText) (fault : Fault) : Step Unit := do
  let directory := (← get).isDirectoryName name
  let missing := !directory && (fault == .notFound || fault == .notDirectory)
  let reason :=
    if directory then "Permission denied"
    else if missing then "not found"
    else Utility.wording fault
  complain frame (name ++ ": " ++ reason)
  setStatus (if directory ∨ missing ∨ fault = .linkLoop ∨ fault = .nameTooLong then 127 else 126)

/-- Runs a program. -/
def runProgram (frame : Frame) (name : RawText) (arguments : List RawText) : Step Unit := do
  match ← startProgram frame name arguments with
  | .ok completion =>
    adopt completion
    if ← isLost completion then
      print 2 (name ++ ": write error: Bad file descriptor\n")
      setStatus 1
  | .error fault => failToStart frame name fault

/-- Runs a program that is part of the machine. -/
def runOwnUtility (frame : Frame) (utility : Utility) (name : RawText)
    (arguments : List RawText) : Step Unit := do
  let speaker := frame.script ++ ": " ++ toString (← get).line ++ ": " ++ name
  let completion := utility (← launch speaker arguments)
  adopt completion
  if ← isLost completion then
    complain { frame with speaker := some name } (name ++ ": I/O error")
    setStatus 1

end ReleasePilot.Script
