import ReleasePilot.Text.Blank
import ReleasePilot.Tree.Path

/-!
# Replacing files

A file is replaced as a whole: the new contents are written to a scratch file
in the same directory, which is then renamed to the path. Every failure comes
before the rename, so a file is either replaced or left as it was. A link at
the path is itself replaced, not what it leads to.
-/

namespace ReleasePilot

/-- The directory part of a path, which is `.` for a lone name. -/
def parentPath (path : String) : String :=
  let names := (pathNames path).filter fun name => name != "" && name != "."
  let parent := "/".intercalate names.dropLast
  if isAbsolutePath path then "/" ++ parent
  else if parent == "" then "."
  else parent

namespace Tree

/-- The name of a scratch file, whose last characters are chosen anew each time. -/
def scratchName : String := ".tmp??????"

/-- The absolute path of the scratch file for a path. -/
def scratchPath (tree : Tree) (path : String) : String :=
  let parent := parentPath path
  let here := pathOf tree.workingDirectory
  joinPath (if parent = "." then here else joinPath here parent) scratchName

/-- The directory in which the scratch file for a path is made. -/
def scratchDirectory (tree : Tree) (path : String) : Except Fault Location := do
  let parent := parentPath path
  if pathLimit ≤ (tree.scratchPath path).utf8ByteSize ∧ ¬parent.toList.contains '\x00' then
    .error .nameTooLong
  else tree.requireDirectory (← tree.locate parent)

/-- The location that a file renamed to a path takes. The last name must be one
that a file can have. A link there is not followed, and a directory is never
replaced. -/
def renameTarget (tree : Tree) (path : String) : Except Fault Location := do
  if path.toList.contains '\x00' then .error .invalidArgument
  else if path = "" then .error .notFound
  else if pathLimit ≤ path.utf8ByteSize then .error .nameTooLong
  else
    let withoutSlashes := String.ofList (Text.trimEnd (· == '/') path.toList)
    match (pathNames withoutSlashes).reverse with
    | [] => .error .busy
    | name :: above =>
      let above ← tree.walk linkLimit (tree.startOf path) above.reverse
      let above ← tree.requireDirectory above
      let location := above ++ [name]
      if name = "" ∨ name = "." ∨ name = ".." then .error .busy
      else if nameLimit < name.utf8ByteSize then .error .nameTooLong
      else if path.toList.getLast? = some '/' then .error .notDirectory
      else if tree.isDirectory location then .error .isDirectory
      else .ok location

/-- The tree with the file at a path replaced, or made if there is none. -/
def replace (tree : Tree) (path contents : String) : Except ReleaseError Tree :=
  match tree.scratchDirectory path with
  | .error fault => .error (.scratchFile (parentPath path) fault)
  | .ok _ =>
    match tree.renameTarget path with
    | .error fault => .error (.io fault)
    | .ok location => .ok (tree.put location (.file contents.toUTF8 false))

end Tree

end ReleasePilot
