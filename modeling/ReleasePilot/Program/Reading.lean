import ReleasePilot.Program.Usage
import ReleasePilot.Tree.Edit

/-!
# Reading files one after the other

Many programs read the files that they are called with, or their input without
any, and print something about each. A file that cannot be read is complained
about and passed over.
-/

namespace ReleasePilot

namespace Completion

/-- The completion with more output. -/
def printing (completion : Completion) (output : ByteArray) : Completion :=
  { completion with output := completion.output ++ output }

/-- The completion with a complaint and the status that it leads to. It goes to
where the output goes if that is wanted. -/
def complaining (completion : Completion) (launch : Launch) (complaint : RawText) (status : Nat) :
    Completion :=
  let line := RawText.bytes (launch.name ++ ": " ++ complaint ++ "\n")
  let completion := { completion with status := .code status }
  if launch.merged then completion.printing line
  else { completion with errors := completion.errors ++ line }

end Completion

namespace Utility

/-- Reads a file, or the input, of which some go on without end. -/
def readUpTo (launch : Launch) (limit : Nat) (path : RawText) : Except Fault ByteArray :=
  let path := RawText.toText path
  if path = "-" then .ok launch.input
  else
    match launch.tree.followedAt? path with
    | some (.service (.descriptor 0)) => .ok launch.input
    | some (.service .zeros) => .ok ⟨Array.replicate limit 0⟩
    | _ => launch.tree.read path

/-- How a program reads files. -/
structure FileReader (State : Type) where
  /-- How much is read of a file without end. -/
  limit : Nat := 0
  /-- Whether files are only opened, which goes well with directories too. -/
  opensOnly : Bool := false
  /-- What is said about a file that cannot be read. -/
  complaint : RawText → Fault → RawText := fun path fault =>
    quotedIfNeeded path ++ ": " ++ wording fault
  /-- What is printed as soon as a file is open. -/
  opening : State → RawText → State × ByteArray := fun state _ => (state, ByteArray.empty)
  /-- What is printed for the contents of a file. -/
  change : State → RawText → ByteArray → State × ByteArray

/-- Reads a file. A directory can be opened, but not read. -/
def readFile {State : Type} (launch : Launch) (reader : FileReader State)
    (before : State × Completion) (path : RawText) : State × Completion :=
  let (state, completion) := before
  let opened := reader.opening state path
  let changed (contents : ByteArray) := reader.change opened.1 path contents
  match readUpTo launch reader.limit path with
  | .ok contents =>
    let unread := if path = "-" then some ByteArray.empty else completion.unread
    ((changed contents).1,
      { completion.printing (opened.2 ++ (changed contents).2) with unread })
  | .error fault =>
    let complaint := reader.complaint path fault
    if fault = .isDirectory ∧ reader.opensOnly then (opened.1, completion.printing opened.2)
    else if fault = .isDirectory then
      ((changed ByteArray.empty).1,
        ((completion.printing opened.2).complaining launch complaint 1).printing
          (changed ByteArray.empty).2)
    else (state, completion.complaining launch complaint 1)

/-- Reads files, or the input without any, from a state on. -/
def readFiles {State : Type} (launch : Launch) (reader : FileReader State) (initial : State)
    (paths : List RawText) : State × Completion :=
  (if paths = [] then ["-"] else paths).foldl (readFile launch reader)
    (initial, { tree := launch.tree })

/-! ## Lines -/

/-- The lines of some bytes as raw texts, without their line breaks. -/
def rawLines (bytes : ByteArray) : List RawText :=
  let pieces := Text.splitAt '\n' (RawText.ofBytes bytes).toList
  let pieces := if pieces.getLast? = some [] then pieces.dropLast else pieces
  pieces.map String.ofList

/-- Lines as bytes, each with a line break behind it. -/
def unlines (lines : List RawText) : ByteArray :=
  RawText.bytes (String.join (lines.map (· ++ "\n")))

/-- The lines of files, or of the input without any, and what is wrong with them. -/
def gather (launch : Launch) (paths : List RawText)
    (complaint : RawText → Fault → RawText) : List RawText × Completion :=
  let reader : FileReader (List RawText) :=
    { complaint, change := fun lines _ bytes => (lines ++ rawLines bytes, ByteArray.empty) }
  readFiles launch reader [] paths

/-- A number at the right of a column. -/
def aligned (width number : Nat) : RawText :=
  let digits := toString number
  String.ofList (List.replicate (width - digits.length) ' ') ++ digits

/-- A list without elements that are equal to the one before them. -/
def withoutRepeats {Item : Type} (same : Item → Item → Bool) : List Item → List Item
  | first :: second :: rest =>
    if same first second then withoutRepeats same (first :: rest)
    else first :: withoutRepeats same (second :: rest)
  | items => items
termination_by items => items.length

end Utility

end ReleasePilot
