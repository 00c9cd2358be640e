import ReleasePilot.Error
import ReleasePilot.Text.Raw
import ReleasePilot.Tree.Basic

/-!
# Programs

A program is started with its words, its input and its variables on a tree. It
ends with a status, with what it printed and with the tree as it left it. Words
and variables are raw texts, as programs may pass any bytes to each other.
-/

namespace ReleasePilot

/-- How a program ended. -/
inductive ExitStatus where
  | code (value : Nat)
  | signal (number : Nat)
deriving DecidableEq, Repr

namespace ExitStatus

/-- The code that a failure reports; a program that was killed has none. -/
def failureCode : ExitStatus → Int
  | .code value => value
  | .signal _ => -1

end ExitStatus

/-- What a program is started with. -/
structure Launch where
  /-- The name by which the program was called. -/
  name : RawText
  /-- The path of the program, unless it has to be looked for by its name. -/
  path : Option RawText := none
  arguments : List RawText
  input : ByteArray := ByteArray.empty
  /-- Whether errors are printed to where the output goes. -/
  merged : Bool := false
  /-- The variables of the environment. -/
  bindings : List (RawText × RawText) := []
  tree : Tree

/-- What a program leaves behind. -/
structure Completion where
  status : ExitStatus := .code 0
  output : ByteArray := ByteArray.empty
  errors : ByteArray := ByteArray.empty
  /-- What is left of the input, if some of it was read. -/
  unread : Option ByteArray := none
  tree : Tree

/-- The means to start programs, which may fail to find or to load one. -/
abbrev Launcher := Launch → Except Fault Completion

/-- A program that can always be started. -/
abbrev Utility := Launch → Completion

/-- Starts a program at the first of some paths where there is one. A file that
cannot be started is passed over, but remembered as the cause if there is no
other. -/
def startFirst (startAt : RawText → Except Fault Completion) (missing : Fault) :
    List RawText → Except Fault Completion
  | [] => .error missing
  | path :: more =>
    match startAt path with
    | .error .notFound | .error .notDirectory => startFirst startAt missing more
    | .error .permissionDenied => startFirst startAt .permissionDenied more
    | result => result

namespace Launch

/-- A program that only prints. -/
def printing (launch : Launch) (raw : RawText) : Completion :=
  { output := RawText.bytes raw, tree := launch.tree }

/-- A program that says what is wrong and ends with a status. -/
def failing (launch : Launch) (complaint : RawText) (status : Nat) : Completion :=
  { status := .code status, errors := RawText.bytes (launch.name ++ ": " ++ complaint ++ "\n")
    tree := launch.tree }

end Launch

end ReleasePilot
