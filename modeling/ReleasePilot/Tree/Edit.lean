import ReleasePilot.Text.Blank
import ReleasePilot.Tree.Path

/-!
# Changing a tree in place

Programs write into files, make directories and remove entries. All of them
follow links up to the entry that is changed.
-/

namespace ReleasePilot.Tree

/-- The bytes of the file at a location, or none if there is no file. -/
def contentsAt (tree : Tree) (location : Location) : ByteArray :=
  match tree.lookup location with
  | some (.file contents _) => contents
  | _ => ByteArray.empty

/-- The location that a path names. If a link is there, it is not followed. -/
def locateEntry (tree : Tree) (path : String) : Except Fault Location :=
  match (pathNames path).reverse with
  | [] | [""] => tree.locate path
  | "" :: _ | "." :: _ | ".." :: _ => tree.locate path
  | name :: above => do
    if pathLimit ≤ path.utf8ByteSize ∨ nameLimit < name.utf8ByteSize then .error .nameTooLong
    else
      let above ← tree.walk linkLimit (tree.startOf path) above.reverse
      let above ← tree.requireDirectory above
      return above ++ [name]

/-- What a path names, if there is anything. -/
def entryAt? (tree : Tree) (path : String) : Option Entry :=
  (tree.locateEntry path).toOption.bind tree.lookup

/-- What a path leads to, if there is anything. -/
def followedAt? (tree : Tree) (path : String) : Option Entry :=
  (tree.locate path).toOption.bind tree.lookup

/-- Why nothing can be written to a path that names a directory by its last slash. -/
def directoryFault (tree : Tree) (path : String) : Fault :=
  let names := pathNames (String.ofList (Text.trimEnd (· == '/') path.toList))
  match tree.walk linkLimit (tree.startOf path) names.dropLast with
  | .error fault => fault
  | .ok above =>
    match tree.lookup above with
    | some .directory => .isDirectory
    | some _ => .notDirectory
    | none => .notFound

/-- The location of a path that can be written to: a file, or a place for a new one. -/
def writableLocation (tree : Tree) (path : String) : Except Fault Location := do
  let isShort := path.utf8ByteSize < pathLimit
  if isShort ∧ path.toList.getLast? = some '/' then throw (tree.directoryFault path)
  let location ← tree.locate path
  match tree.lookup location with
  | some .directory => .error .isDirectory
  | some (.link _) => .error .linkLoop
  | some (.service .program) => .error .permissionDenied
  | some (.file _ _) | some (.service _) => .ok location
  | none => if tree.isDirectory location.dropLast then .ok location else .error .notFound

/-- The tree with the contents of a file replaced; a file keeps being executable.
What is written to a service is gone. -/
def overwrite (tree : Tree) (location : Location) (contents : ByteArray) : Tree :=
  match tree.lookup location with
  | some (.file _ executable) => tree.put location (.file contents executable)
  | some (.service _) => tree
  | _ => tree.put location (.file contents false)

/-- The tree with bytes added at the end of a file. -/
def append (tree : Tree) (location : Location) (contents : ByteArray) : Tree :=
  tree.overwrite location (tree.contentsAt location ++ contents)

/-- The tree without a location and all that is below it. -/
def erase (tree : Tree) (location : Location) : Tree :=
  { tree with entries := tree.entries.filter fun (place, _) => !location.isPrefixOf place }

/-- The names in a directory, in the order of their bytes. -/
def namesIn (tree : Tree) (location : Location) : List String :=
  let names := tree.entries.filterMap fun (place, _) =>
    if place.length = location.length + 1 ∧ location.isPrefixOf place then place.getLast?
    else none
  names.mergeSort (· ≤ ·)

/-- The tree with another working directory, if the path leads to a directory. -/
def enter (tree : Tree) (path : String) : Except Fault Tree := do
  let location ← tree.locate path
  match tree.lookup location with
  | some .directory => .ok { tree with workingDirectory := location }
  | some _ => .error .notDirectory
  | none => .error .notFound

end ReleasePilot.Tree
