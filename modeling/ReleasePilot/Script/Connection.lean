import ReleasePilot.Program.Complaint
import ReleasePilot.Script.Machine

/-!
# Connections

A connection is a redirection whose words are filled in. It gives a descriptor
another meaning.
-/

namespace ReleasePilot.Script

/-- A redirection whose words are filled in. -/
inductive Connection where
  | file (descriptor : Nat) (opening : Opening) (path : RawText)
  /-- A text to be read, unless it could not be filled in. -/
  | inline (descriptor : Nat) (content : Option RawText)
  /-- Another descriptor, or none to close this one. -/
  | copy (descriptor : Nat) (source : Option Nat)

/-- The descriptor that a word names, or none if it asks for closing. -/
def sourceOf (frame : Frame) (word : RawText) : Step (Option Nat) :=
  match word.toList with
  | ['-'] => return none
  | [digit] =>
    if digit.isDigit then return some (digit.toNat - '0'.toNat)
    else refuse frame "Syntax error: Bad fd number"
  | _ => refuse frame "Syntax error: Bad fd number"

/-- Says why a file cannot be opened. -/
def refuseOpening (frame : Frame) (creating : Bool) (path : RawText) (fault : Fault) :
    Step Unit := do
  let (verb, missing) :=
    if creating then ("create", "Directory nonexistent") else ("open", "No such file")
  let reason :=
    if fault = .notFound ∨ fault = .notDirectory then missing else Utility.wording fault
  refuse frame ("cannot " ++ verb ++ " " ++ path ++ ": " ++ reason)

/-- What a service of the system stands for. -/
def Machine.serviceHandle (machine : Machine) : Service → Except Fault Handle
  | .void | .zeros => .ok .void
  | .descriptor number => (machine.handle? number).elim (.error .notFound) .ok
  | .program => .error .permissionDenied

/-- The machine with a descriptor that reads what a path leads to. -/
def Machine.openForReading (machine : Machine) (descriptor : Nat) (path : String) :
    Except Fault Machine := do
  let location ← machine.tree.locate path
  match machine.tree.lookup location with
  | some (.file _ _) => return machine.withFile descriptor { location, opening := .reading }
  | some (.service kind) =>
    return machine.setHandle descriptor (some (← machine.serviceHandle kind))
  | some .directory => return machine.setHandle descriptor (some .void)
  | some (.link _) => throw .linkLoop
  | none => throw .notFound

/-- The machine with a descriptor that writes to where a path leads. A file that
is there may be protected, and is emptied if it is only written. -/
def Machine.openForWriting (machine : Machine) (descriptor : Nat) (opening : Opening)
    (path : String) : Except Fault Machine := do
  let location ← machine.tree.writableLocation path
  match machine.tree.lookup location with
  | some (.service kind) =>
    return machine.setHandle descriptor (some (← machine.serviceHandle kind))
  | some (.file contents _) =>
    if opening = .writing false ∧ machine.options.contains 'C' then throw .alreadyExists
    let keeps := opening == .appending || opening == .both
    let tree := machine.tree.overwrite location (if keeps then contents else ByteArray.empty)
    return { machine with tree }.withFile descriptor { location, opening }
  | _ =>
    let tree := machine.tree.overwrite location ByteArray.empty
    return { machine with tree }.withFile descriptor { location, opening }

/-- The machine with a descriptor that stands for a file. -/
def Machine.openFile (machine : Machine) (descriptor : Nat) (opening : Opening)
    (path : String) : Except Fault Machine :=
  match opening with
  | .reading => machine.openForReading descriptor path
  | .writing _ | .appending | .both => machine.openForWriting descriptor opening path

/-- Gives a descriptor another meaning. -/
def connect (frame : Frame) : Connection → Step Unit
  | .file descriptor opening path => do
    match (← get).openFile descriptor opening (RawText.toText path) with
    | .ok opened => MonadState.set opened
    | .error fault => refuseOpening frame (opening ≠ .reading) path fault
  | .inline descriptor (some content) =>
    modify fun machine => machine.withSource descriptor (RawText.bytes content)
  | .inline _ none => throw .failed
  | .copy descriptor none => modify fun machine => machine.setHandle descriptor none
  | .copy descriptor (some source) => do
    unless descriptor = source do
      match (← get).handle? source with
      | some handle => modify fun machine => machine.setHandle descriptor (some handle)
      | none => refuse frame (toString source ++ ": Bad file descriptor")

end ReleasePilot.Script
