import ReleasePilot.Script.Machine
import ReleasePilot.Script.Word
import ReleasePilot.Text.Integer

/-!
# Variables, options and arguments of scripts

These commands change what a script calculates with.
-/

namespace ReleasePilot.Script

/-- A command that is carried out by the machine itself. -/
abbrev Builtin := Frame → List RawText → Step Unit

/-- The number that a word writes, which has to be one. -/
def naturalOf (frame : Frame) (word : RawText) : Step Nat :=
  match Text.natural? word.toList with
  | some value => return value
  | none => refuse frame ("Illegal number: " ++ word)

/-- A text in single quotes, as the shell shows it. -/
def shown (content : RawText) : RawText :=
  "'" ++ "'\"'\"'".intercalate (content.splitOn "'") ++ "'"

/-- Splits off the options that are letters of a given text. -/
def takeLetters (frame : Frame) (known : String) : List RawText →
    Step (List Char × List RawText)
  | [] => return ([], [])
  | word :: rest =>
    match word.toList with
    | ['-', '-'] => return ([], rest)
    | '-' :: letter :: more => do
      match (letter :: more).find? (!known.toList.contains ·) with
      | some unknown => refuse frame ("Illegal option -" ++ String.ofList [unknown])
      | none =>
        let (letters, words) ← takeLetters frame known rest
        return (letter :: more ++ letters, words)
    | _ => return ([], word :: rest)

/-! ## Variables -/

/-- A name with the value that a word gives it. -/
def splitSetting (word : RawText) : RawText × Option RawText :=
  match Text.splitOnce? '=' word.toList with
  | some (name, value) => (String.ofList name, some (String.ofList value))
  | none => (word, none)

/-- A name, which has to be one that a variable can have. -/
def checkName (frame : Frame) (name : RawText) : Step Unit := do
  unless isName name do refuse frame (name ++ ": bad variable name")

/-- Shows variables as commands that set them. -/
def showVariables (command : RawText) (test : Variable → Bool) : Step Unit := do
  let chosen := (← get).bindings.filter test
  for entry in chosen.mergeSort (·.name ≤ ·.name) do
    let value := (entry.value.map fun value => "=" ++ shown value).getD ""
    print 1 (command ++ entry.name ++ value ++ "\n")

/-- Marks variables, which may be set at the same time. -/
def mark (change : Variable → Variable) (frame : Frame) (words : List RawText) : Step Unit := do
  for word in words do
    let (name, value) := splitSetting word
    checkName frame name
    if let some value := value then assign frame false name value
    let known := ((← get).find? name).getD { name, value := none }
    modify fun machine => machine.putVariable (change known)
  setStatus 0

/-- Exports variables. -/
def exportVariables : Builtin := fun frame arguments => do
  let (letters, words) ← takeLetters frame "p" arguments
  if words.isEmpty ∨ letters.contains 'p' then
    showVariables "export " (·.exported)
    setStatus 0
  else mark (fun entry => { entry with exported := true }) frame words

/-- Keeps variables from changing. -/
def keepVariables : Builtin := fun frame arguments => do
  let (letters, words) ← takeLetters frame "p" arguments
  if words.isEmpty ∨ letters.contains 'p' then
    showVariables "readonly " (·.readOnly)
    setStatus 0
  else mark (fun entry => { entry with readOnly := true }) frame words

/-- Removes variables or functions. -/
def unset : Builtin := fun frame arguments => do
  let (letters, names) ← takeLetters frame "fv" arguments
  for name in names do
    if letters.contains 'f' then
      modify fun machine =>
        { machine with functions := machine.functions.filter (·.1 != name) }
    else
      checkName frame name
      if ((← get).find? name).any (·.readOnly) then refuse frame (name ++ ": is read only")
      else modify fun machine => machine.unsetVariable name
  setStatus 0

/-- Remembers a variable as it is before a function makes its own of it. -/
def hide (name : RawText) : Step Unit :=
  modify fun machine =>
    let before := (machine.find? name).getD { name, value := none }
    match machine.hidden with
    | [] => machine
    | outer :: more => { machine with hidden := (before :: outer) :: more }

/-- Makes variables a function's own. -/
def localVariables : Builtin := fun frame words => do
  if (← get).hidden.isEmpty then refuse frame "not in a function"
  for word in words do
    let (name, value) := splitSetting word
    checkName frame name
    hide name
    if let some value := value then assign frame false name value
  setStatus 0

/-- Runs a step after which the variables that it has hidden are as before. -/
def keepingVariables {Result : Type} (step : Step Result) : Step Result :=
  let restore (before after : Machine) : Machine :=
    let shown := (after.hidden.headD []).foldl (fun (machine : Machine) entry =>
      if entry.value.isNone ∧ ¬entry.exported then machine.unsetVariable entry.name
      else machine.putVariable entry) after
    { shown with hidden := before.hidden }
  restoring restore do
    modify fun machine => { machine with hidden := [] :: machine.hidden }
    step

/-! ## Options and arguments -/

/-- The options by their names, with their letters. -/
def optionNames : List (String × Char) :=
  [("errexit", 'e'), ("noglob", 'f'), ("ignoreeof", 'I'), ("interactive", 'i'), ("monitor", 'm'),
    ("noexec", 'n'), ("stdin", 's'), ("xtrace", 'x'), ("verbose", 'v'), ("vi", 'V'),
    ("emacs", 'E'), ("noclobber", 'C'), ("allexport", 'a'), ("notify", 'b'), ("nounset", 'u'),
    ("privileged", 'p'), ("nolog", 'L'), ("debug", 'D')]

/-- Turns an option on or off. -/
def setOption (on : Bool) (letter : Char) : Step Unit :=
  modify fun machine =>
    let others := machine.options.filter (· != letter)
    { machine with options := if on then letter :: others else others }

/-- Shows the options that are on. -/
def showOptions (asCommands : Bool) : Step Unit := do
  let options := (← get).options
  unless asCommands do print 1 "Current option settings\n"
  for (name, letter) in optionNames do
    let on := options.contains letter
    if asCommands then print 1 ("set " ++ (if on then "-" else "+") ++ "o " ++ name ++ "\n")
    else
      let gap := String.ofList (List.replicate (16 - name.length) ' ')
      print 1 (name ++ gap ++ (if on then "on" else "off") ++ "\n")

/-- Turns the options of one word on or off, and says whether it wants a name. -/
def setLetters (frame : Frame) (on : Bool) : List Char → Step Bool
  | [] => return false
  | 'o' :: more => do
    let _ ← setLetters frame on more
    return true
  | letter :: more => do
    if (optionNames.map Prod.snd).contains letter then setOption on letter
    else refuse frame ("Illegal option -" ++ String.ofList [letter])
    setLetters frame on more

/-- Sets the options and the arguments of a script. -/
def setAll (frame : Frame) : List RawText → Step Unit
  | [] => setStatus 0
  | word :: rest => do
    let setArguments (arguments : List RawText) : Step Unit := do
      modify fun machine => ({ machine with arguments } : Machine).readingOptions 1
      setStatus 0
    let setNamed (on : Bool) : Step Unit := do
      match rest with
      | [] =>
        showOptions (!on)
        setStatus 0
      | name :: rest =>
        match optionNames.lookup name with
        | some letter =>
          setOption on letter
          setAll frame rest
        | none =>
          refuse frame ("Illegal option " ++ (if on then "-" else "+") ++ "o " ++ name)
    match word.toList with
    | ['-', '-'] => setArguments rest
    | ['-'] =>
      setOption false 'x'
      setOption false 'v'
      unless rest.isEmpty do setArguments rest
      setStatus 0
    | '-' :: letters =>
      if ← setLetters frame true letters then setNamed true else setAll frame rest
    | '+' :: letters =>
      if ← setLetters frame false letters then setNamed false else setAll frame rest
    | _ => setArguments (word :: rest)

/-- Shows all variables, or sets options and arguments. -/
def set : Builtin := fun frame arguments => do
  if arguments.isEmpty then
    showVariables "" (·.value.isSome)
    setStatus 0
  else setAll frame arguments

/-- Drops arguments from the front. -/
def shift : Builtin := fun frame words => do
  let count ←
    match words with
    | [] => pure 1
    | word :: _ => naturalOf frame word
  if count ≤ (← get).arguments.length then
    modify fun machine =>
      ({ machine with arguments := machine.arguments.drop count } : Machine).readingOptions 1
    setStatus 0
  else refuse frame "can't shift that many"

/-- What an option of a script is found to be. -/
structure FoundOption where
  letter : Char := '?'
  value : Option RawText := none
  /-- The number of the argument that is read next, counted from one. -/
  next : Nat
  place : Nat := 0
  complaint : Option RawText := none
  finished : Bool := false

/-- Looks at the letter of an option at the front of a text. -/
def findLetter (known : List Char) (letter : Char) (rest : List Char) (arguments : List RawText)
    (next place : Nat) : FoundOption :=
  let silent := known.head? = some ':'
  let name := String.ofList [letter]
  let following := known.dropWhile (· != letter)
  let going : FoundOption := { next, place := place + 1 }
  if letter = ':' ∨ following.isEmpty then
    if silent then { going with value := some name }
    else { going with complaint := some ("Illegal option -" ++ name) }
  else if following.tail.head? ≠ some ':' then { going with letter, value := some "" }
  else if !rest.isEmpty then { letter, value := some (String.ofList rest), next }
  else
    match arguments[next - 1]? with
    | some value => { letter, value := some value, next := next + 1 }
    | none =>
      if silent then { letter := ':', value := some name, next }
      else { complaint := some ("No arg for -" ++ name ++ " option"), next }

/-- Finds the next option of a script. -/
def findOption (known : List Char) (arguments : List RawText) (number place : Nat) :
    FoundOption :=
  let current := ((arguments[number - 2]?).map String.toList).getD []
  if 1 < number ∧ 0 < place ∧ place < current.length then
    match current.drop place with
    | letter :: rest => findLetter known letter rest arguments number place
    | [] => { next := number, finished := true }
  else
    match (arguments[number - 1]?).map String.toList with
    | some ['-', '-'] => { next := number + 1, finished := true }
    | some ('-' :: letter :: rest) => findLetter known letter rest arguments (number + 1) 1
    | _ => { next := number, finished := true }

/-- Sets a variable to the next option of the script, or of other words. -/
def getopts : Builtin := fun frame words => do
  match words with
  | known :: name :: words =>
    let machine ← get
    let arguments := if words.isEmpty then machine.arguments else words
    let found := findOption known.toList arguments machine.optionNumber machine.optionPlace
    if let some complaint := found.complaint then print 2 (complaint ++ "\n")
    match found.value with
    | some value => assign frame false "OPTARG" value
    | none =>
      if found.complaint.isSome then modify fun machine => machine.unsetVariable "OPTARG"
    assign frame false "OPTIND" (toString found.next)
    assign frame false name (String.ofList [found.letter])
    modify fun machine =>
      { machine with optionNumber := found.next, optionPlace := found.place }
    setStatus (if found.finished then 1 else 0)
  | _ => refuse frame "Usage: getopts optstring var [arg...]"

end ReleasePilot.Script
