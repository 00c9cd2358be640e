import ReleasePilot.Script.Binding
import ReleasePilot.Text.Integer

/-!
# Signals and processes

A script may send signals to itself, say what is done when it gets one, and wait
for the commands that run beside it.
-/

namespace ReleasePilot.Script

/-- The signals by their names, the end of the script counting as one. -/
def signalNames : List (String × Nat) :=
  [("EXIT", 0), ("HUP", 1), ("INT", 2), ("QUIT", 3), ("ILL", 4), ("TRAP", 5), ("ABRT", 6),
    ("BUS", 7), ("FPE", 8), ("KILL", 9), ("USR1", 10), ("SEGV", 11), ("USR2", 12), ("PIPE", 13),
    ("ALRM", 14), ("TERM", 15), ("CHLD", 17), ("CONT", 18), ("STOP", 19),
    ("TSTP", 20), ("TTIN", 21), ("TTOU", 22), ("URG", 23), ("XCPU", 24), ("XFSZ", 25),
    ("VTALRM", 26), ("PROF", 27), ("WINCH", 28), ("IO", 29), ("PWR", 30), ("SYS", 31)]

/-- The signals that do not end a process of their own accord. -/
def harmlessSignals : List Nat :=
  [0, 17, 18, 19, 20, 21, 22, 23, 28]

/-- What is said of a process that a signal has ended, if anything. -/
def epitaph? (signal : Nat) : Option RawText :=
  let texts := [(1, "Hangup"), (3, "Quit"), (4, "Illegal instruction"),
    (5, "Trace/breakpoint trap"), (6, "Aborted"), (7, "Bus error"),
    (8, "Floating point exception"), (9, "Killed"), (10, "User defined signal 1"),
    (11, "Segmentation fault"), (12, "User defined signal 2"), (14, "Alarm clock"),
    (15, "Terminated"), (24, "CPU time limit exceeded"), (25, "File size limit exceeded"),
    (26, "Virtual timer expired"), (27, "Profiling timer expired"), (29, "I/O possible"),
    (30, "Power failure"), (31, "Bad system call")]
  texts.lookup signal

/-- The first and the last of the signals that are named by their distance from these two. -/
def firstNumbered : Nat := 34
def lastSignal : Nat := 64

/-- The name of a signal, which is its number if it has no other. -/
def signalName (number : Nat) : RawText :=
  match signalNames.find? (·.2 = number) with
  | some (name, _) => name
  | none =>
    if number < firstNumbered ∨ lastSignal < number then toString number
    else if number = firstNumbered then "RTMIN"
    else if number = lastSignal then "RTMAX"
    else if number - firstNumbered ≤ lastSignal - number then
      "RTMIN+" ++ toString (number - firstNumbered)
    else "RTMAX-" ++ toString (lastSignal - number)

/-- The signal that a word names or numbers. -/
def signal? (word : RawText) : Option Nat :=
  match Text.natural? word.toList with
  | some number => if number ≤ lastSignal then some number else none
  | none => (List.range (lastSignal + 1)).find? fun number =>
    (signalName number).toList = word.toList.map Char.toUpper

/-! ## Traps -/

/-- What is done when a signal comes, if that is said. -/
def Machine.trap? (machine : Machine) (signal : Nat) : Option RawText :=
  (machine.traps.find? (·.signal = signal)).map (·.action)

/-- The machine with something done when a signal comes, or with nothing done. -/
def Machine.setTrap (machine : Machine) (signal : Nat) (action : Option RawText) : Machine :=
  let others := machine.traps.filter (·.signal ≠ signal)
  { machine with
    traps := (action.map fun action => { signal, action }).toList ++ others }

/-- Shows what is done when signals come. -/
def showTraps : Step Unit := do
  for trap in (← get).traps.mergeSort (·.signal ≤ ·.signal) do
    print 1 ("trap -- " ++ shown trap.action ++ " " ++ signalName trap.signal ++ "\n")

/-- Says what is done when signals come. -/
def trap : Builtin := fun frame arguments => do
  let (_, words) ← takeLetters frame "" arguments
  let (action, names) :=
    match words with
    | [] => (none, [])
    | [only] => (none, [only])
    | first :: rest =>
      if first = "-" then (none, rest)
      else if (Text.natural? first.toList).isSome then (none, words)
      else (some first, rest)
  if words.isEmpty then
    showTraps
    setStatus 0
  else
    match names.find? (signal? · = none) with
    | some unknown =>
      print 2 ("trap: " ++ unknown ++ ": bad trap\n")
      setStatus 1
    | none =>
      for name in names do
        modify fun machine => machine.setTrap ((signal? name).getD 0) action
      setStatus 0

/-! ## Processes -/

/-- Sends a signal to the process of the script. What it is set to do when the
signal comes is left to the caller, who is given the action. -/
def signalSelf (signal : Nat) : Step (Option RawText) := do
  match (← get).trap? signal with
  | some action =>
    if signal = 9 then throw (.killed signal)
    return if action.isEmpty then none else some action
  | none =>
    unless harmlessSignals.contains signal do throw (.killed signal)
    return none

/-- The way in which signals are sent. -/
def killUsage : RawText :=
  "Usage: kill [-s sigspec | -signum | -sigspec] [pid | job]... or\nkill -l [exitstatus]"

/-- The signal that is to be sent, and the processes that are to get it. -/
def killTarget (frame : Frame) (words : List RawText) : Step (Nat × List RawText) := do
  match words with
  | "-s" :: name :: processes =>
    match signal? name with
    | some signal => return (signal, processes)
    | none => refuse frame ("invalid signal number or name: " ++ name)
  | "--" :: processes => return (15, processes)
  | word :: processes =>
    match word.toList with
    | '-' :: name =>
      match signal? (String.ofList name), name with
      | some signal, _ => return (signal, processes)
      | none, ['s'] => refuse frame "No arg for -s option"
      | none, 's' :: name =>
        match signal? (String.ofList name) with
        | some signal => return (signal, processes)
        | none => refuse frame ("invalid signal number or name: " ++ String.ofList name)
      | none, letter :: _ => refuse frame ("Illegal option -" ++ String.ofList [letter])
      | none, [] => refuse frame killUsage
    | _ => return (15, words)
  | [] => refuse frame killUsage

/-- Sends a signal to processes, of which only the script's own is there. Gives
the actions that the script is set to do. -/
def kill (frame : Frame) (words : List RawText) : Step (List RawText) := do
  match words with
  | ["-l"] =>
    let names := "0" :: ((List.range lastSignal).map fun number => signalName (number + 1))
    print 1 (String.join (names.map (· ++ "\n")))
    setStatus 0
    return []
  | "-l" :: word :: _ =>
    let number ← naturalOf frame word
    let signal := if 128 < number then number - 128 else number
    if signal = 0 ∨ lastSignal < signal then
      refuse frame ("invalid signal number or exit status: " ++ word)
    print 1 (signalName signal ++ "\n")
    setStatus 0
    return []
  | _ =>
    let (signal, processes) ← killTarget frame words
    if processes.isEmpty then refuse frame killUsage
    setStatus 0
    let mut actions := []
    for process in processes do
      if process.startsWith "%" then refuse frame ("No such job: " ++ process)
      let digits := if process.startsWith "-" then (process.toList.drop 1) else process.toList
      let number ← naturalOf frame (String.ofList digits)
      if number = Machine.processNumber ∨ number = 0 then
        actions := actions ++ (← signalSelf signal).toList
      else if ((← get).jobs.lookup number).isNone then
        complain frame "No such process\n"
        setStatus 1
    return actions

/-- Waits for commands that run beside the script. -/
def wait : Builtin := fun frame words => do
  let (_, processes) ← takeLetters frame "" words
  setStatus 0
  for process in processes do
    let jobs := (← get).jobs
    match Text.natural? process.toList with
    | some number => setStatus ((jobs.lookup number).getD 127)
    | none => setStatus 127

end ReleasePilot.Script
