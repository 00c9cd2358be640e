import ReleasePilot.Error
import ReleasePilot.Text.Split
import ReleasePilot.Tree.Basic

/-!
# Following paths

A path is followed name by name. Links are replaced by their targets, at most
`linkLimit` of them, so that following always ends. The last name of a path
need not exist.
-/

namespace ReleasePilot

/-- The names of a path, between its slashes. -/
def pathNames (path : String) : List String :=
  (Text.splitAt '/' path.toList).map String.ofList

/-- Whether a path starts from the root. -/
def isAbsolutePath (path : String) : Bool :=
  path.toList.head? == some '/'

/-- A path below a directory; an absolute path stays as it is. -/
def joinPath (directory path : String) : String :=
  if isAbsolutePath path then path
  else if directory.toList.getLast? == some '/' then directory ++ path
  else directory ++ "/" ++ path

/-- The paths that a name has in directories between colons. A directory without
a name is the working directory. -/
def Tree.searchedPaths (directories name : String) : List String :=
  (Text.splitAt ':' directories.toList).map fun directory =>
    if directory.isEmpty then name else joinPath (String.ofList directory) name

/-- The absolute path of a location. -/
def Tree.pathOf (location : Location) : String :=
  "/" ++ "/".intercalate location

namespace Tree

/-- How many links one path may lead through. -/
def linkLimit : Nat := 40

/-- The longest name, in bytes. -/
def nameLimit : Nat := 255

/-- The longest path, in bytes and with its terminator. -/
def pathLimit : Nat := 4096

/-- Follows names from a directory. Only the last name may be missing from the
tree. What a link leads to is left to `follow`. -/
def walkNames (tree : Tree) (follow : Location → List String → Except Fault Location)
    (place : Location) : List String → Except Fault Location
  | [] => .ok place
  | name :: rest =>
    if name = "" ∨ name = "." then walkNames tree follow place rest
    else if name = ".." then walkNames tree follow place.dropLast rest
    else if nameLimit < name.utf8ByteSize then .error .nameTooLong
    else
      let next := place ++ [name]
      match tree.lookup next with
      | none => if rest.isEmpty then .ok next else .error .notFound
      | some (.file _ _) | some (.service _) =>
        if rest.isEmpty then .ok next else .error .notDirectory
      | some .directory => walkNames tree follow next rest
      | some (.link target) =>
        let start := if isAbsolutePath target then [] else place
        follow start (pathNames target ++ rest)

/-- Follows names from a directory, through a limited number of links. -/
def walk (tree : Tree) : Nat → Location → List String → Except Fault Location
  | 0 => tree.walkNames fun _ _ => .error .linkLoop
  | remaining + 1 => tree.walkNames (walk tree remaining)

/-- Where a path starts: at the root if it is absolute, else at the working directory. -/
def startOf (tree : Tree) (path : String) : Location :=
  if isAbsolutePath path then [] else tree.workingDirectory

/-- The location that a path leads to. -/
def locate (tree : Tree) (path : String) : Except Fault Location :=
  if path.toList.contains '\x00' then .error .nulInName
  else if path = "" then .error .notFound
  else if pathLimit ≤ path.utf8ByteSize then .error .nameTooLong
  else tree.walk linkLimit (tree.startOf path) (pathNames path)

/-- A location, provided that it is a directory. -/
def requireDirectory (tree : Tree) (location : Location) : Except Fault Location :=
  match tree.lookup location with
  | some .directory => .ok location
  | some _ => .error .notDirectory
  | none => .error .notFound

/-- Whether a path leads to anything. -/
def pathExists (tree : Tree) (path : String) : Bool :=
  match tree.locate path with
  | .ok location => tree.contains location
  | .error _ => false

/-- The bytes of the file that a path leads to. What the system serves without
end, or by running it, is not read. -/
def read (tree : Tree) (path : String) : Except Fault ByteArray := do
  let location ← tree.locate path
  match tree.lookup location with
  | some (.file contents _) => .ok contents
  | some (.service .void) | some (.service (.descriptor _)) => .ok ByteArray.empty
  | some (.service .zeros) | some (.service .program) => .error .permissionDenied
  | some .directory => .error .isDirectory
  | some (.link _) => .error .linkLoop
  | none => .error .notFound

/-- The text of the file that a path leads to, which has to be UTF-8. -/
def readText (tree : Tree) (path : String) : Except Fault String := do
  let contents ← tree.read path
  match String.fromUTF8? contents with
  | some text => .ok text
  | none => .error .notUtf8

end Tree

end ReleasePilot
