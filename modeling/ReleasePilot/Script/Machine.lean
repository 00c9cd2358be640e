import ReleasePilot.Program.Basic
import ReleasePilot.Script.OpenFile
import ReleasePilot.Text.Integer

/-!
# The machine that runs scripts

The machine holds what a script can change: the tree, its variables, functions
and arguments, the status of the last command, the bytes that are still to be
read and those that were printed. What is decided once for a part of a script,
and not by it, is held by a frame.
-/

namespace ReleasePilot.Script

/-- A variable; an exported one is passed on to programs. It may be known
without having a value. -/
structure Variable where
  name : RawText
  value : Option RawText
  exported : Bool := false
  readOnly : Bool := false
deriving DecidableEq, Repr

/-- What a descriptor stands for. -/
inductive Handle where
  /-- Bytes to be read, shared by all that read from them. -/
  | source (index : Nat)
  /-- Bytes that are collected. -/
  | stream (index : Nat)
  /-- A file that is open. -/
  | file (index : Nat)
  /-- Nothing is read from here, and what is printed is gone. -/
  | void
deriving DecidableEq, Repr

/-- What is done when a script ends or gets a signal. -/
structure Trap where
  signal : Nat
  action : RawText
deriving DecidableEq, Repr

/-- The state of a script. -/
structure Machine where
  tree : Tree
  bindings : List Variable := []
  arguments : List RawText := []
  functions : List (RawText × Command) := []
  traps : List Trap := []
  /-- Other names of commands, with what they stand for. -/
  aliases : List (RawText × RawText) := []
  /-- The letters of the options that are on. -/
  options : List Char := []
  descriptors : List (Nat × Handle) := []
  sources : Array ByteArray := #[]
  streams : Array ByteArray := #[]
  files : Array OpenFile := #[]
  /-- The line of the command that runs. -/
  line : Nat := 0
  status : Nat := 0
  /-- The status of the last command whose output was filled in. -/
  filledStatus : Nat := 0
  /-- The variables as they were before each function made its own of them. -/
  hidden : List (List Variable) := []
  /-- The statuses of the commands that were not waited for, the latest first. -/
  jobs : List (Nat × Nat) := []
  /-- The permissions that new files do not get. -/
  mask : Nat := 0o022
  /-- The number of the argument whose options are read next, counted from one. -/
  optionNumber : Nat := 1
  /-- How far the options of the argument before that one are read. -/
  optionPlace : Nat := 0

/-- Why a command ends before what follows it. -/
inductive Ending where
  | exited (status : Nat)
  /-- The command is wrong, which ends the script unless it is caught. -/
  | failed
  | killed (signal : Nat)
  /-- A number of loops is left, or begun anew in the outermost of them. -/
  | left (loops : Nat)
  | skipped (loops : Nat)
  | returned (status : Nat)
  /-- The script has run for too long. -/
  | exhausted
deriving DecidableEq, Repr

/-- A step of a script. -/
abbrev Step (Result : Type) := ExceptT Ending (StateM Machine) Result

/-- Where a part of a script runs. -/
structure Frame where
  /-- The name of the script. -/
  script : RawText
  launcher : Launcher
  /-- The command that complaints are made by. -/
  speaker : Option RawText := none
  /-- Whether the result of the command is tested, so that it may fail. -/
  tested : Bool := false
  /-- The number of loops around the command. -/
  loops : Nat := 0
  /-- The number of calls of functions around the command. -/
  calls : Nat := 0
  /-- The status from before the trap that the command belongs to. -/
  resumed : Option Nat := none
  /-- The aliases whose texts are being read while the command runs. -/
  expanding : List RawText := []

namespace Machine

/-! ## Variables -/

/-- A variable that is known. -/
def find? (machine : Machine) (name : RawText) : Option Variable :=
  machine.bindings.find? (·.name == name)

/-- The value of a variable. -/
def valueOf? (machine : Machine) (name : RawText) : Option RawText :=
  (machine.find? name).bind (·.value)

/-- The machine with another entry for a variable. -/
def putVariable (machine : Machine) (entry : Variable) : Machine :=
  { machine with
    bindings := entry :: machine.bindings.filter (·.name != entry.name) }

/-- The machine whose options are read from an argument on. -/
def readingOptions (machine : Machine) (number : Nat) : Machine :=
  { machine with optionNumber := max 1 number, optionPlace := 0 }

/-- The machine with a variable set. It stays exported if it was. -/
def setVariable (machine : Machine) (exported : Bool) (name value : RawText) : Machine :=
  let known := machine.find? name
  let exported := exported || known.any (·.exported) || machine.options.contains 'a'
  let machine :=
    if name = "OPTIND" then machine.readingOptions ((Text.natural? value.toList).getD 1)
    else machine
  machine.putVariable { name, value := some value, exported, readOnly := known.any (·.readOnly) }

/-- The machine without a variable. -/
def unsetVariable (machine : Machine) (name : RawText) : Machine :=
  { machine with bindings := machine.bindings.filter (·.name != name) }

/-- The variables that programs get. -/
def environment (machine : Machine) : List (RawText × RawText) :=
  machine.bindings.filterMap fun entry =>
    if entry.exported then entry.value.map fun value => (entry.name, value) else none

/-- The number that stands for the process of a script. -/
def processNumber : Nat := 1000

/-- The letters of options in the order in which they are shown. -/
def optionLetters : List Char :=
  ['p', 'u', 'b', 'a', 'C', 'E', 'V', 'v', 'x', 's', 'n', 'm', 'i', 'I', 'f', 'e']

/-- The value of a parameter of a script, the arguments joined by a text. -/
def parameter? (machine : Machine) (script : RawText) (between name : RawText) :
    Option RawText :=
  match name with
  | "0" => some script
  | "#" => some (toString machine.arguments.length)
  | "?" => some (toString machine.status)
  | "$" => some (toString processNumber)
  | "-" => some (String.ofList (optionLetters.filter machine.options.contains))
  | "@" | "*" =>
    if machine.arguments.isEmpty then none else some (between.intercalate machine.arguments)
  | "!" => machine.jobs.head?.map fun (process, _) => toString process
  | _ =>
    match name.toNat? with
    | some 0 => some script
    | some number => machine.arguments[number - 1]?
    | none => machine.valueOf? name

/-- The characters that divide fields. -/
def dividers (machine : Machine) : List Char :=
  match machine.valueOf? "IFS" with
  | some value => value.toList
  | none => [' ', '\t', '\n']

/-- The text between arguments that are joined. -/
def joint (machine : Machine) : RawText :=
  String.ofList (machine.dividers.take 1)

/-- The working directory as the script knows it. -/
def directory (machine : Machine) : String :=
  match machine.valueOf? "PWD" with
  | some path => RawText.toText path
  | none => Tree.pathOf machine.tree.workingDirectory

/-! ## Descriptors -/

/-- What a descriptor stands for, if it is open. -/
def handle? (machine : Machine) (descriptor : Nat) : Option Handle :=
  machine.descriptors.lookup descriptor

/-- The machine with a descriptor that stands for something else, or is closed. -/
def setHandle (machine : Machine) (descriptor : Nat) (handle : Option Handle) : Machine :=
  let others := machine.descriptors.filter (·.1 != descriptor)
  { machine with
    descriptors := (handle.map fun handle => (descriptor, handle)).toList ++ others }

/-- The machine with bytes to be read through a descriptor. -/
def withSource (machine : Machine) (descriptor : Nat) (bytes : ByteArray) : Machine :=
  { machine with sources := machine.sources.push bytes }.setHandle descriptor
    (some (.source machine.sources.size))

/-- The machine with a descriptor that stands for a file. -/
def withFile (machine : Machine) (descriptor : Nat) (file : OpenFile) : Machine :=
  { machine with files := machine.files.push file }.setHandle descriptor
    (some (.file machine.files.size))

/-- The bytes that are still to be read through a descriptor. -/
def input (machine : Machine) (descriptor : Nat) : ByteArray :=
  match machine.handle? descriptor with
  | some (.source index) => machine.sources[index]?.getD ByteArray.empty
  | some (.file index) =>
    (machine.files[index]?.map (·.rest machine.tree)).getD ByteArray.empty
  | _ => ByteArray.empty

/-- The machine with fewer bytes to be read through a descriptor. -/
def setInput (machine : Machine) (descriptor : Nat) (rest : ByteArray) : Machine :=
  match machine.handle? descriptor with
  | some (.source index) => { machine with sources := machine.sources.setIfInBounds index rest }
  | some (.file index) =>
    let taken := (machine.input descriptor).size - rest.size
    { machine with
      files := machine.files.modify index fun file => { file with place := file.place + taken } }
  | _ => machine

/-- The machine after some bytes were printed. -/
def write (machine : Machine) (handle : Option Handle) (bytes : ByteArray) : Machine :=
  match handle with
  | some (.stream index) => { machine with streams := machine.streams.modify index (· ++ bytes) }
  | some (.file index) =>
    match machine.files[index]? with
    | some file =>
      let (tree, file) := file.write machine.tree bytes
      { machine with tree, files := machine.files.setIfInBounds index file }
    | none => machine
  | some (.source _) | some .void | none => machine

/-- Whether what is printed through two descriptors goes to one place in turn. -/
def sharesOutput (machine : Machine) (first second : Nat) : Bool :=
  match machine.handle? first, machine.handle? second with
  | some (.file left), some (.file right) =>
    left == right ||
      match machine.files[left]?, machine.files[right]? with
      | some left, some right =>
        left.location == right.location && left.opening == .appending &&
          right.opening == .appending
      | _, _ => false
  | left, right => left == right

/-- The machine without the files that were opened after an earlier time, if
none of them is used any more. -/
def closingFiles (machine : Machine) (earlier : Machine) : Machine :=
  let isOld : Nat × Handle → Bool
    | (_, .file index) => decide (index < earlier.files.size)
    | _ => true
  if machine.descriptors.all isOld then
    { machine with files := machine.files.extract 0 earlier.files.size }
  else machine

end Machine

/-! ## Steps -/

/-- Sets the status of the last command. -/
def setStatus (status : Nat) : Step Unit :=
  modify fun machine => { machine with status }

/-- Prints a text through a descriptor. -/
def print (descriptor : Nat) (content : RawText) : Step Unit :=
  modify fun machine => machine.write (machine.handle? descriptor) (RawText.bytes content)

/-- Says what is wrong with the current command. -/
def complain (frame : Frame) (complaint : RawText) : Step Unit := do
  let speaker := (frame.speaker.map (· ++ ": ")).getD ""
  print 2 (frame.script ++ ": " ++ toString (← get).line ++ ": " ++ speaker ++ complaint ++ "\n")

/-- Says what is wrong with the current command and gives it up. -/
def refuse {Result : Type} (frame : Frame) (complaint : RawText) : Step Result := do
  complain frame complaint
  setStatus 2
  throw .failed

/-- Sets a variable, unless it is kept from changing. -/
def assign (frame : Frame) (exported : Bool) (name value : RawText) : Step Unit := do
  if ((← get).find? name).any (·.readOnly) then refuse frame (name ++ ": is read only")
  else modify fun machine => machine.setVariable exported name value

/-- Runs a step and says whether it went well. A step that is wrong does
not end the script. -/
def attempt (step : Step Unit) : Step Bool := do
  try
    step
    return true
  catch
    | .failed => return false
    | ending => throw ending

/-- Runs a step and restores something of the machine, however the step ends. -/
def restoring {Result : Type} (restore : Machine → Machine → Machine) (step : Step Result) :
    Step Result :=
  ExceptT.mk fun before =>
    let (result, after) := step.run.run before
    (result, restore before after)

/-- Runs a step after which some descriptors are as before. -/
def keepingDescriptors {Result : Type} (descriptors : List Nat) (step : Step Result) :
    Step Result :=
  restoring (fun before after =>
    (descriptors.foldl (fun machine descriptor =>
      machine.setHandle descriptor (before.handle? descriptor)) after).closingFiles before) step

/-- How many statuses a process can end with. -/
def statusCount : Nat := 256

/-- Runs a step whose changes to the script's own state do not last, and which
ends only itself when it ends early. -/
def contained (step : Step Unit) : Step Unit := do
  let keepsState (before after : Machine) : Machine :=
    { before with
      tree := { after.tree with workingDirectory := before.tree.workingDirectory }
      sources := after.sources, streams := after.streams
      files := after.files.extract 0 before.files.size, status := after.status % statusCount }
  restoring keepsState do
    try step catch
      | .exited status | .returned status => setStatus status
      | .failed | .left _ | .skipped _ => pure ()
      | ending => throw ending

/-- Runs a contained step and gives what it prints. -/
def captured (step : Step Unit) : Step ByteArray := do
  let index := (← get).streams.size
  modify fun machine => { machine with streams := machine.streams.push ByteArray.empty }
  contained do
    modify fun machine => machine.setHandle 1 (some (.stream index))
    step
  let printed := (← get).streams.back?.getD ByteArray.empty
  modify fun machine => { machine with streams := machine.streams.pop }
  return printed

/-- The text of what was printed, without the line breaks at its end. -/
def filledText (printed : ByteArray) : RawText :=
  let characters := (RawText.ofBytes printed).toList.filter (· != '\x00')
  String.ofList (characters.reverse.dropWhile (· == '\n')).reverse

end ReleasePilot.Script
