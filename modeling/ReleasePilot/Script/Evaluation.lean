import ReleasePilot.Script.Arithmetic
import ReleasePilot.Script.Connection
import ReleasePilot.Script.Invocation
import ReleasePilot.Script.PathPattern

/-!
# Running scripts

A script runs command by command on its machine. Words are filled in just
before the command that they belong to. Evaluation follows the structure of the
command; what a command brings with it, such as the body of a function, is run
by an evaluator of a lesser depth.
-/

namespace ReleasePilot.Script

/-! ## Filling in -/

/-- The value of a parameter, which may have to be set. -/
def valueOf (frame : Frame) (name : RawText) : Step RawText := do
  let machine ← get
  match machine.parameter? frame.script machine.joint name with
  | some value => return value
  | none =>
    if machine.options.contains 'u' ∧ name ≠ "@" ∧ name ≠ "*" then
      refuse frame (name ++ ": parameter not set")
    else return ""

/-- The pieces of a parameter. -/
def parameterPieces (frame : Frame) (name : RawText) (quoted : Bool) : Step (List Piece) := do
  if name = "@" ∨ (name = "*" ∧ ¬quoted) then
    return Piece.ofArguments quoted (← get).arguments
  else return Piece.ofValue quoted (← valueOf frame name)

/-- The home directories of the users that a system has of its own accord. -/
def userHomes : List (RawText × RawText) :=
  [("root", "/root"), ("daemon", "/usr/sbin"), ("bin", "/bin"), ("sys", "/dev"),
    ("sync", "/bin"), ("games", "/usr/games"), ("man", "/var/cache/man"),
    ("lp", "/var/spool/lpd"), ("mail", "/var/mail"), ("news", "/var/spool/news"),
    ("uucp", "/var/spool/uucp"), ("proxy", "/bin"), ("www-data", "/var/www"),
    ("backup", "/var/backups"), ("list", "/var/list"), ("irc", "/run/ircd"),
    ("_apt", "/nonexistent"), ("nobody", "/nonexistent")]

/-- The home directory of a user, or of the one who runs the script. -/
def Machine.home? (machine : Machine) (user : RawText) : Option RawText :=
  if user = "" then machine.valueOf? "HOME" else userHomes.lookup user

/-- The pieces of a home directory. -/
def homePieces (machine : Machine) (user : RawText) : List Piece :=
  match machine.home? user with
  | some home => home.toList.map fun character => .fixed character false
  | none => Piece.ofText false ("~" ++ user)

/-- The pieces of a setting with the home directories at the start of its value
and after its colons. -/
def withHomePieces (home : List Piece) (atStart : Bool) : List Piece → List Piece
  | [] => []
  | .fixed '~' true :: rest =>
    let ends :=
      match rest with
      | [] | .fixed '/' true :: _ | .fixed ':' true :: _ => true
      | _ => false
    (if atStart && ends then home else [.fixed '~' true]) ++ withHomePieces home false rest
  | .fixed character true :: rest =>
    .fixed character true ::
      withHomePieces home (character == '=' || character == ':') rest
  | piece :: rest => piece :: withHomePieces home false rest

/-- Pieces whose own characters may divide fields. -/
def loosened (pieces : List Piece) : List Piece :=
  pieces.map fun
    | .fixed character true => .loose character
    | piece => piece

/-- The text of pieces where no fields are wanted. -/
def joined (pieces : List Piece) : Step RawText := do
  return Piece.text (← get).joint.toList pieces

/-- The words that pieces make up. -/
def wordsOf (pieces : List Piece) : Step (List RawText) := do
  let machine ← get
  let fields := Piece.fields machine.dividers pieces
  if machine.options.contains 'f' then return fields.map (Piece.text [])
  else return fields.flatMap (Field.paths machine.tree)

/-- The value of an arithmetic expression, whose variables are set. -/
def calculate (frame : Frame) (text : RawText) : Step RawText := do
  let machine ← get
  let lookup (name : RawText) := machine.valueOf? name
  match ((Expression.read text).evaluate lookup).run [] with
  | .error fault => refuse frame (fault.message text)
  | .ok (value, settings) =>
    settings.reverse.forM fun (name, value) => assign frame false name (toString value)
    return toString value

/-- The variables of commands that set them by their arguments. -/
def settingCommands : List RawText :=
  ["export", "readonly", "local"]

/-! ## Loops -/

/-- How often a loop may run its body. -/
def loopLimit : Nat := 100000

/-- Runs one round of a loop. Gives what it gives, or whether the loop goes on
where the round was ended early. -/
def loopRound (round : Step Bool) : Step Bool := do
  try round catch
    | .left count => if count ≤ 1 then return false else throw (.left (count - 1))
    | .skipped count => if count ≤ 1 then return true else throw (.skipped (count - 1))
    | ending => throw ending

/-- Runs a body as long as a condition holds. The status is that of the last round. -/
def repeatWhile (condition : Step Bool) (body : Step Unit) : Nat → Nat → Step Unit
  | 0, _ => throw .exhausted
  | count + 1, last => do
    let round : Step Bool := do
      if ← condition then
        body
        return true
      else
        setStatus last
        return false
    if ← loopRound round then repeatWhile condition body count (← get).status

/-- Runs a body for each of some words. -/
def forEach (body : RawText → Step Unit) : List RawText → Step Unit
  | [] => pure ()
  | word :: more => do
    let round : Step Bool := do
      body word
      return true
    if ← loopRound round then forEach body more

/-! ## Commands -/

/-- Ends a strict script after a command that failed, unless it was tested. -/
def settle (frame : Frame) : Step Unit := do
  let machine ← get
  if machine.options.contains 'e' ∧ machine.status ≠ 0 ∧ ¬frame.tested then
    throw (.exited machine.status)

/-- Runs a step, unless the script is only to be read. -/
def unlessOnlyRead (step : Step Unit) : Step Unit := do
  unless (← get).options.contains 'n' do step

/-- Shows a command with its settings before it is run, if that is asked for. -/
def trace (outer : Machine) (words : List RawText) : Step Unit := do
  let machine ← get
  if machine.options.contains 'x' then
    let start := (machine.valueOf? "PS4").getD ""
    let shown := RawText.bytes (start ++ " ".intercalate words ++ "\n")
    modify fun machine => machine.write (outer.handle? 2) shown

/-- Runs a command beside the script, which does not wait for it. -/
def runBeside (again : Evaluator) (frame : Frame) (step : Step Unit) : Step Unit := do
  contained do
    modify fun machine => machine.setHandle 0 (some .void)
    separate again frame step
  modify fun machine =>
    let process := Machine.processNumber + machine.jobs.length + 1
    { machine with status := 0, jobs := (process, machine.status) :: machine.jobs }

mutual

/-- The pieces of a part of a word, which may be wanted as fields. -/
def expandPart (again : Evaluator) (frame : Frame) (asFields : Bool) : Part → Step (List Piece)
  | .text content quoted => return Piece.ofText quoted content
  | .home user => return homePieces (← get) user
  | .parameter name quoted => parameterPieces frame name quoted
  | .length name => do
    return Piece.ofValue true (toString (← valueOf frame name).length)
  | .treated name treatment nonempty word quoted => do
    let machine ← get
    let value := machine.parameter? frame.script machine.joint name
    let counts := value.isSome && !(nonempty && value == some "")
    match treatment, counts with
    | .default, true | .assigned, true | .required, true => parameterPieces frame name quoted
    | .replaced, false => return Piece.ofValue quoted ""
    | .default, false | .replaced, true =>
      let pieces ← expandParts again frame asFields word
      return if quoted then .mark :: pieces else loosened pieces
    | .assigned, false =>
      let value ← joined (← expandParts again frame false word)
      checkName frame name
      assign frame false name value
      return Piece.ofValue quoted value
    | .required, false =>
      if word.isEmpty then
        refuse frame (name ++ ": parameter not set" ++ if nonempty then " or null" else "")
      else refuse frame (name ++ ": " ++ (← joined (← expandParts again frame false word)))
  | .trimmed name atBack longest pattern quoted => do
    let machine ← get
    let value ← valueOf frame name
    if (machine.parameter? frame.script machine.joint name).isNone then
      return Piece.ofValue quoted value
    else
      let signs := Piece.signs machine.joint.toList (← expandParts again frame false pattern)
      let trim := if atBack then Pattern.trimBack else Pattern.trimFront
      let trimmed (text : List Char) := trim (Pattern.read signs) longest text
      if asFields ∧ (name = "@" ∨ (name = "*" ∧ ¬quoted)) then
        let texts := Text.splitAt '\x00' (trimmed
          (Text.joinWith ['\x00'] (machine.arguments.map String.toList)))
        return Piece.ofArguments quoted (texts.map String.ofList)
      else return Piece.ofValue quoted (String.ofList (trimmed value.toList))
  | .output command quoted => do
    let status := (← get).status
    let printed ← captured (separate again frame
      (run again { frame with tested := false } command))
    modify fun machine => { machine with status, filledStatus := machine.status }
    return Piece.ofValue quoted (filledText printed)
  | .number expression quoted => do
    let text ← joined (← expandParts again frame false expression)
    return Piece.ofValue quoted (← calculate frame text)
  | .meaningless => refuse frame "Bad substitution"

/-- The pieces of a word, which may be wanted as fields. -/
def expandParts (again : Evaluator) (frame : Frame) (asFields : Bool) :
    List Part → Step (List Piece)
  | [] => return []
  | part :: more => do
    let pieces ← expandPart again frame asFields part
    return pieces ++ (← expandParts again frame asFields more)

/-- The words that words make up. -/
def expandWords (again : Evaluator) (frame : Frame) : List (List Part) → Step (List RawText)
  | [] => return []
  | word :: more => do
    let words ← wordsOf (← expandParts again frame true word)
    return words ++ (← expandWords again frame more)

/-- The words of a command, given those that are known already. Settings among
the arguments of a command that makes them are kept whole. -/
def expandCommand (again : Evaluator) (frame : Frame) (known : List RawText) :
    List (List Part) → Step (List RawText)
  | [] => return known
  | word :: more => do
    let sets := (proper known).head?.any settingCommands.contains
    let isSetting := sets && (assignment? word).isSome
    let pieces ← expandParts again frame (!isSetting) word
    let words ←
      if isSetting then
        let value ← joined (withHomePieces (homePieces (← get) "") false pieces)
        pure [value]
      else wordsOf pieces
    expandCommand again frame (known ++ words) more

/-- Makes assignments one after the other. Gives them as they are shown. -/
def makeAssignments (again : Evaluator) (frame : Frame) (make : RawText → RawText → Step Unit) :
    List Assignment → Step (List RawText)
  | [] => return []
  | .set name word :: more => do
    let value ← joined (← expandParts again frame false word)
    make name value
    return (name ++ "=" ++ value) :: (← makeAssignments again frame make more)

/-- The connection that a redirection makes. -/
def expandRedirection (again : Evaluator) (frame : Frame) : Redirection → Step Connection
  | .file descriptor opening path => do
    return .file descriptor opening (← joined (← expandParts again frame false path))
  | .inline descriptor content => do
    let filled ←
      try
        let content ← joined (← expandParts again frame false content)
        pure (some content)
      catch
        | .failed => pure none
        | ending => throw ending
    return .inline descriptor filled
  | .copy descriptor source => do
    let word ← joined (← expandParts again frame false source)
    return .copy descriptor (← sourceOf frame word)

/-- The connections that redirections make. -/
def expandRedirections (again : Evaluator) (frame : Frame) :
    List Redirection → Step (List Connection)
  | [] => return []
  | redirection :: more => do
    let connection ← expandRedirection again frame redirection
    return connection :: (← expandRedirections again frame more)

/-- Whether a text matches one of some patterns. -/
def matchesAny (again : Evaluator) (frame : Frame) (text : RawText) :
    List (List Part) → Step Bool
  | [] => return false
  | word :: more => do
    let signs := Piece.signs (← get).joint.toList (← expandParts again frame false word)
    if (Pattern.read signs).matchesText text.toList then return true
    else matchesAny again frame text more

/-- Runs the first alternative that matches. -/
def runArms (again : Evaluator) (frame : Frame) (text : RawText) : List Arm → Step Unit
  | [] => setStatus 0
  | .choice patterns body :: more => do
    if ← matchesAny again frame text patterns then
      if body.isNothing then setStatus 0 else run again frame body
    else runArms again frame text more

/-- Runs a command. -/
def run (again : Evaluator) (frame : Frame) : Command → Step Unit
  | .nothing => pure ()
  | .simple line assignments words redirections => unlessOnlyRead do
    modify fun machine => { machine with line, filledStatus := 0 }
    let words ← expandCommand again frame [] words
    let outer ← get
    let replacing := (proper words).head? = some "exec"
    let step : Step Unit := do
      let connections ← expandRedirections again frame redirections
      if ← attempt (connections.forM (connect frame)) then
        if words.isEmpty || isSpecial words || assignments.isEmpty then
          let exported := replacing && 1 < (proper words).length
          let settings ← makeAssignments again frame (assign frame exported) assignments
          trace outer (settings ++ words)
          if words.isEmpty then setStatus (← get).filledStatus
          else perform again frame words
        else keepingVariables do
          let make (name value : RawText) : Step Unit := do
            hide name
            assign frame true name value
          let settings ← makeAssignments again frame make assignments
          trace outer (settings ++ words)
          perform again frame words
      else
        setStatus 2
        if isSpecial words then throw .failed
    if replacing then step else keepingDescriptors (redirections.map (·.descriptor)) step
    settle frame
  | .sequence first second => do
    run again frame first
    run again frame second
  | .both first second => do
    run again { frame with tested := true } first
    if (← get).status = 0 then run again frame second
  | .either first second => do
    run again { frame with tested := true } first
    if (← get).status ≠ 0 then run again frame second
  | .negated command => do
    run again { frame with tested := true } command
    setStatus (if (← get).status = 0 then 1 else 0)
  | .pipe first second => do
    let status := (← get).status
    let printed ← captured (separate again frame (run again frame first))
    setStatus status
    contained do
      modify fun machine => machine.withSource 0 printed
      separate again frame (run again frame second)
    settle frame
  | .isolated body => do
    contained (separate again frame (run again frame body))
    settle frame
  | .background body =>
    runBeside again frame (run again { frame with tested := false } body)
  | .redirected body redirections line => unlessOnlyRead do
    modify fun machine => { machine with line }
    let connections ← expandRedirections again frame redirections
    let connected ← keepingDescriptors (redirections.map (·.descriptor)) do
      let connected ← attempt (connections.forM (connect frame))
      if connected then run again frame body else setStatus 2
      return connected
    unless connected do settle frame
  | .choose condition accepted rejected => do
    run again { frame with tested := true } condition
    if (← get).status = 0 then run again frame accepted
    else if rejected.isNothing then setStatus 0
    else run again frame rejected
  | .loop condition whileFailing body => unlessOnlyRead do
    let inner := { frame with loops := frame.loops + 1 }
    let holds : Step Bool := do
      run again { inner with tested := true } condition
      return ((← get).status = 0) != whileFailing
    repeatWhile holds (run again inner body) loopLimit 0
  | .each line name words body => do
    modify fun machine => { machine with line }
    let words ← expandWords again frame words
    if words.isEmpty then setStatus 0
    forEach (fun word => do
      assign frame false name word
      run again { frame with loops := frame.loops + 1 } body) words
  | .select line word arms => do
    modify fun machine => { machine with line }
    let text ← joined (← expandParts again frame false word)
    runArms again frame text arms
  | .define name body => do
    modify fun machine =>
      { machine with functions := (name, body) :: machine.functions.filter (·.1 != name) }
    setStatus 0
  | .malformed line flaw => do
    modify fun machine => { machine with line }
    refuse frame ("Syntax error: " ++ flaw.message)

end

/-- How deep commands may bring others with them. -/
def depthLimit : Nat := 3000

/-- The evaluator of a depth. -/
def evaluatorOfDepth : Nat → Evaluator
  | 0 => fun _ _ => throw .exhausted
  | depth + 1 => run (evaluatorOfDepth depth)

/-! ## Whole scripts -/

/-- The variables that a script has of its own accord, where its environment
does not give them. -/
def standardVariables : List (RawText × RawText) :=
  [("PATH", "/usr/local/sbin:/usr/local/bin:/usr/sbin:/usr/bin:/sbin:/bin"), ("PS1", "# "),
    ("PS2", "> "), ("PS4", "+ ")]

/-- The variables that a script begins with. -/
def initialVariables (launch : Launch) : List Variable :=
  let tree := launch.tree
  let named := launch.bindings.filter fun (name, _) => isName name
  let here := RawText.ofText (Tree.pathOf tree.workingDirectory)
  let directory := (named.lookup "PWD").filter fun path =>
    path.startsWith "/" && (tree.locate (RawText.toText path)).toOption == tree.workingDirectory
  let own : List Variable :=
    [{ name := "PWD", value := some (directory.getD here), exported := true },
      { name := "IFS", value := some " \t\n" }, { name := "OPTIND", value := some "1" },
      { name := "PPID", value := some (toString (Machine.processNumber - 1)) }]
  let ownNames := own.map (·.name)
  let given : List Variable :=
    (named.filter fun (name, _) => !ownNames.contains name).map fun (name, value) =>
      { name, value := some value, exported := true }
  let missing : List Variable :=
    (standardVariables.filter fun (name, _) => (named.lookup name).isNone).map
      fun (name, value) => { name, value := some value }
  own ++ given ++ missing

/-- The machine that a script begins with. -/
def initialMachine (options : List Char) (launch : Launch) : Machine :=
  { tree := launch.tree, bindings := initialVariables launch, arguments := launch.arguments
    options, sources := #[launch.input]
    descriptors :=
      [(0, .source 0), (1, .stream 0), (2, .stream (if launch.merged then 0 else 1))]
    streams := #[ByteArray.empty, ByteArray.empty] }

/-- How a script ends that has run too deep or too long. -/
def exhaustionSignal : Nat := 11

/-- Runs the script that a text writes with some options on. Its lines can be shown
as they are read if it is a file. -/
def execute (launcher : Launcher) (options : List Char) (showing : Bool) (text : RawText)
    (launch : Launch) : Completion :=
  let evaluator := evaluatorOfDepth depthLimit
  let frame : Frame := { script := launch.name, launcher }
  let script : Step Unit := do
    let _ ← runScript evaluator frame showing text
  let (result, after) :=
    (concluding evaluator frame script).run.run (initialMachine options launch)
  let status : ExitStatus :=
    match result with
    | .error (.killed signal) => .signal signal
    | .error .exhausted => .signal exhaustionSignal
    | _ => .code (after.status % statusCount)
  { status, output := after.streams[0]?.getD ByteArray.empty
    errors := after.streams[1]?.getD ByteArray.empty
    unread := after.sources[0]?, tree := after.tree }

end ReleasePilot.Script
