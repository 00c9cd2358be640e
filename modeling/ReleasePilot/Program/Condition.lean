import ReleasePilot.Text.Raw
import ReleasePilot.Tree.Edit

/-!
# Conditions

A condition is something that a word or two words may satisfy, as texts, as
numbers or as the paths of files.
-/

namespace ReleasePilot.Condition

/-- The conditions on one word. -/
def unaryOperators : List RawText :=
  ["-b", "-c", "-d", "-e", "-f", "-g", "-h", "-k", "-L", "-n", "-O", "-G", "-p", "-r", "-s", "-S",
    "-t", "-u", "-w", "-x", "-z"]

/-- The conditions on two words as numbers. -/
def numericOperators : List (RawText × (Int → Int → Bool)) :=
  [("-eq", (· == ·)), ("-ne", (· != ·)), ("-lt", (· < ·)), ("-le", (· ≤ ·)), ("-gt", (· > ·)),
    ("-ge", (· ≥ ·))]

/-- The conditions on two words as texts. -/
def textOperators : List (RawText × (RawText → RawText → Bool)) :=
  [("=", (· == ·)), ("==", (· == ·)), ("!=", (· != ·)), ("<", (· < ·)), (">", (· > ·))]

/-- Whether a word satisfies a condition. -/
def unary (tree : Tree) (operator word : RawText) : Bool :=
  let path := RawText.toText word
  let found := tree.followedAt? path
  match operator with
  | "-n" => word ≠ ""
  | "-z" => word = ""
  | "-e" | "-r" | "-w" | "-O" | "-G" => found.isSome
  | "-d" => found == some .directory
  | "-f" => match found with | some (.file _ _) | some (.service .program) => true | _ => false
  | "-c" =>
    match found with
    | some (.service .program) => false
    | some (.service _) => true
    | _ => false
  | "-h" | "-L" => match tree.entryAt? path with | some (.link _) => true | _ => false
  | "-s" => match found with | some (.file contents _) => contents.size ≠ 0 | _ => found.isSome
  | "-x" =>
    match found with
    | some (.file _ executable) => executable
    | some (.service kind) => kind == .program
    | _ => found.isSome
  | _ => false

/-- Whether two paths lead to the same place. -/
def isSamePlace (tree : Tree) (left right : RawText) : Bool :=
  match tree.locate (RawText.toText left), tree.locate (RawText.toText right) with
  | .ok first, .ok second => first = second ∧ tree.contains first
  | _, _ => false

end ReleasePilot.Condition
