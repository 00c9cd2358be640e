import ReleasePilot.Program.Preparation
import ReleasePilot.Program.Utility
import ReleasePilot.Script.Shell

/-!
# The host

The host finds programs by their names and starts them. A program is a file of
the tree that is executable and names its interpreter, or one of those that the
system serves. Programs may start others in turn, up to a bounded depth.
-/

namespace ReleasePilot

/-- What programs are started with. -/
structure Host where
  /-- The variables of the environment. -/
  bindings : List (String × String) := []
  /-- The directory that programs are started in, if it is not the working directory. -/
  directory : Option String := none

namespace Host

/-! ## The system -/

/-- The names of the program that runs scripts. -/
def shellNames : List String :=
  ["sh", "dash", "bash"]

/-- The program of the system with a name. -/
def systemProgram? (launcher : Launcher) (name : String) : Option Utility :=
  if shellNames.contains name then some (Script.shell launcher)
  else if name = "env" then some (Utility.env launcher)
  else Utility.named? name

/-- The directories of the system. -/
def systemDirectories : List Location :=
  [["boot"], ["dev"], ["etc"], ["home"], ["media"], ["mnt"], ["opt"], ["proc"], ["root"], ["run"],
    ["srv"], ["sys"], ["tmp"], ["usr"], ["usr", "bin"], ["usr", "lib"], ["usr", "local"],
    ["usr", "local", "bin"], ["usr", "sbin"], ["usr", "share"], ["var"], ["var", "tmp"]]

/-- What the system serves under the names of devices. -/
def devices : List (String × Service) :=
  [("null", .void), ("zero", .zeros), ("stdin", .descriptor 0), ("stdout", .descriptor 1),
    ("stderr", .descriptor 2)]

/-- What every tree holds. -/
def systemEntries : List (Location × Entry) :=
  let programs := "env" :: shellNames ++ Utility.table.map Prod.fst
  let links := ["bin", "lib", "sbin"]
  systemDirectories.map (·, .directory) ++ links.map (fun name => ([name], .link ("usr/" ++ name)))
    ++ devices.map (fun (name, kind) => (["dev", name], .service kind))
    ++ programs.map (["usr", "bin", ·], .service .program)

/-! ## Starting programs -/

/-- The longest line that can name an interpreter, in bytes. -/
def interpreterLimit : Nat := 255

/-- The interpreter that the text of a file names at its top, and the argument
that it is given, if there is one. -/
def interpreter? (text : RawText) : Option (RawText × Option RawText) :=
  match text.toList with
  | '#' :: '!' :: rest =>
    let line := (rest.take interpreterLimit).takeWhile (· != '\n')
    let words := Text.trimEnd Script.isSpace (line.dropWhile Script.isSpace)
    let name := words.takeWhile (!Script.isSpace ·)
    let argument := (words.drop name.length).dropWhile Script.isSpace
    if name.isEmpty then none
    else
      some (String.ofList name, if argument.isEmpty then none else some (String.ofList argument))
  | _ => none

/-- Starts a program that is an executable file. The interpreter that it names
is given its path. -/
def startFile (launcher : Launcher) (launch : Launch) (path : RawText) (contents : ByteArray) :
    Except Fault Completion :=
  match interpreter? (RawText.ofBytes contents) with
  | none => .error .notProgram
  | some (name, argument) =>
    let name := if name.toList.contains '/' then name else "./" ++ name
    launcher
      { launch with
        name, path := none, arguments := argument.toList ++ path :: launch.arguments }

/-- Starts the program at a path. -/
def startAt (launcher : Launcher) (launch : Launch) (path : RawText) :
    Except Fault Completion := do
  let location ← launch.tree.locate (RawText.toText path)
  match launch.tree.lookup location with
  | none => .error .notFound
  | some (.file contents true) => startFile launcher launch path contents
  | some (.service .program) =>
    match systemProgram? launcher (location.getLast?.getD "") with
    | some utility => .ok (utility launch)
    | none => .error .notFound
  | some _ => .error .permissionDenied

/-- The paths that a name may have in the directories of the search path. -/
def searchedPaths (launch : Launch) : List RawText :=
  match launch.bindings.lookup "PATH" with
  | some value => Tree.searchedPaths value launch.name
  | none => ["/bin/" ++ launch.name, "/usr/bin/" ++ launch.name]

/-- Starts a program, by its path or by its name. -/
def start (launcher : Launcher) : Launcher := fun launch =>
  match launch.path with
  | some path => startAt launcher launch path
  | none =>
    if launch.name.toList.contains '/' then startAt launcher launch launch.name
    else if launch.name = "" then .error .notFound
    else if Tree.nameLimit < launch.name.length then .error .nameTooLong
    else startFirst (startAt launcher launch) .notFound (searchedPaths launch)

/-- Starts a program that may start others to a given depth. -/
def startWithin : Nat → Launcher
  | 0 => fun _ => .error .busy
  | depth + 1 => start (startWithin depth)

/-! ## Running commands -/

/-- How deep programs may start each other. -/
def depthLimit : Nat := 20

/-- The locale that every program is started with, so that what it prints is UTF-8. -/
def locale : List (String × String) :=
  [("LC_ALL", "C.UTF-8"), ("LANG", "C.UTF-8")]

/-- The size in bytes, with its terminator, that a word of a command must not exceed. -/
def wordLimit : Nat := 131072

/-- The variables of a program on this host, the locale in place of any other. -/
def environment (host : Host) : List (RawText × RawText) :=
  (host.bindings.filter (fun (name, _) => (locale.lookup name).isNone) ++ locale).map
    fun (name, value) => (RawText.ofText name, RawText.ofText value)

/-- Runs a command. It is started in the host's directory and leaves the
working directory as it is. -/
def spawn (host : Host) (command : List String) (tree : Tree) : Except Fault Completion := do
  if command.any fun word => word.toList.contains '\x00' then .error .nulInWord
  else
    let entered ←
      match host.directory with
      | none => .ok tree
      | some path => tree.enter path
    if command.any fun word => wordLimit ≤ word.utf8ByteSize then .error .wordTooLong
    let words := command.map RawText.ofText
    let completion ← startWithin depthLimit
      { name := words.headD "", arguments := words.tail, bindings := host.environment
        tree := entered }
    return { completion with
      tree := { completion.tree with workingDirectory := tree.workingDirectory } }

end Host

end ReleasePilot
