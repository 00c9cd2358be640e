import ReleasePilot.CommandLine
import ReleasePilot.Host

/-!
# The program

The program works on a copy of the working directory. Questions are put to the
operator as they arise: as a run depends on nothing but the copy and the
answers, it is simply begun again with one answer more. What the last run has
changed in the copy is then changed in the working directory as well. The
programs that a release starts have to be scripts on the search path, since
they work on the copy too.
-/

namespace ReleasePilot.Terminal

/-- The location of a path, without regard to links. -/
def placeOf (base : Location) (path : String) : Location :=
  (pathNames path).foldl (fun place name =>
    if name = "" ∨ name = "." then place
    else if name = ".." then place.dropLast
    else place ++ [name]) (if isAbsolutePath path then [] else base)

/-- The tree with the directories that lead to a location. -/
def withDirectories (tree : Tree) (place : Location) : Tree :=
  (List.range place.length).foldl (fun tree count =>
    let above := place.take (count + 1)
    if tree.contains above then tree else tree.put above .directory) tree

/-- The tree with a copy of the entries of a directory. -/
partial def copyEntries (tree : Tree) (place : Location) (entries : Array IO.FS.DirEntry) :
    IO Tree := do
  let mut copy := tree
  for entry in entries do
    let inner := place ++ [entry.fileName]
    match (← entry.path.metadata).type with
    | .dir => copy ← copyEntries (copy.put inner .directory) inner (← entry.path.readDir)
    | .file => copy := copy.put inner (.file (← IO.FS.readBinFile entry.path) false)
    | _ => pure ()
  return copy

/-- The tree with a copy of one file, if it is there. -/
def copyFile (tree : Tree) (path : String) (executable : Bool) : IO Tree := do
  let place := placeOf tree.workingDirectory path
  try
    let contents ← IO.FS.readBinFile path
    return (withDirectories tree place.dropLast).put place (.file contents executable)
  catch _ => return tree

/-- The tree with copies of the programs of some names. -/
def copyPrograms (tree : Tree) (searchPath names : List String) : IO Tree := do
  let paths := searchPath.flatMap fun directory => names.map (joinPath directory)
  paths.foldlM (fun tree path => copyFile tree path true) tree

/-- Brings the working directory up to date with the tree. -/
def store (before after : Tree) : IO Unit := do
  for (place, entry) in after.entries do
    unless before.lookup place = some entry do
      let path := Tree.pathOf place
      match entry with
      | .directory => IO.FS.createDirAll path
      | .file contents _ =>
        IO.FS.writeBinFile (path ++ ".new") contents
        IO.FS.rename (path ++ ".new") path
      | .link _ | .service _ => pure ()
  for (place, entry) in before.entries do
    if after.lookup place = none then
      match entry with
      | .directory | .service _ => pure ()
      | .file _ _ | .link _ => IO.FS.removeFile (Tree.pathOf place)

/-- Shows messages to the operator, and every diagnostic among the errors. -/
def tell (transcript : Transcript) : IO Unit := do
  let colorless := (← IO.getEnv "NO_COLOR").isSome
  for message in transcript do
    let stream ←
      match message.channel with
      | .output => IO.getStdout
      | .errors | .log => IO.getStderr
    stream.putStr (message.text (!colorless && (← stream.isTty)))
    stream.flush

/-- The next line of the input, with its newline. -/
partial def readLine (input : IO.FS.Stream) (line : List UInt8) : IO (List UInt8) := do
  match (← input.read 1).toList with
  | [] => return line
  | byte :: _ => if byte = 10 then return line ++ [byte] else readLine input (line ++ [byte])

/-- Runs the program, with more of the input whenever a question needs it. Of
the transcript, some messages are shown already. -/
partial def runWith (run : Session → Nat × Session) (tree : Tree) (input : List UInt8)
    (answered shown : Nat) : IO (Nat × Session) := do
  let (status, session) := run { tree, operator := .console input }
  match session.transcript.splitAtQuestion? answered with
  | none =>
    tell (session.transcript.drop shown)
    return (status, session)
  | some (before, _) =>
    tell (before.drop shown)
    let line ← readLine (← IO.getStdin) []
    runWith run tree (input ++ line) (answered + 1) before.length

/-- Runs the program in the working directory. -/
def run (arguments : List String) : IO Nat := do
  let home ← IO.getEnv "HOME"
  let configHome ← IO.getEnv "XDG_CONFIG_HOME"
  let environment : Environment := { home, configHome }
  let searchPath := ((← IO.getEnv "PATH").getD "").splitOn ":"
  let here ← IO.currentDir
  let workingDirectory := placeOf [] here.toString
  let bare :=
    withDirectories { entries := Host.systemEntries, workingDirectory } workingDirectory
  let mut tree ← copyEntries bare workingDirectory (← here.readDir)
  if let .ok (some options) := Options.parse arguments then
    let paths := (options.value? .config).toList ++
      environment.configDirectory.toList.map (joinPath · Config.userFile)
    tree ← paths.foldlM (fun tree path => copyFile tree path false) tree
    if let .ok config := Config.load tree environment (options.value? .config) then
      tree ← copyPrograms tree searchPath (CommandLine.programs config)
  let host : Host :=
    { bindings := (home.toList.map ("HOME", ·)) ++ [("PATH", ":".intercalate searchPath)] }
  let (status, session) ←
    runWith (CommandLine.run (.spawning host.spawn) environment arguments) tree [] 0 0
  store tree session.tree
  return status

end ReleasePilot.Terminal

/-- Runs the program and ends with its exit status. -/
def main (arguments : List String) : IO UInt32 := do
  return (← ReleasePilot.Terminal.run arguments).toUInt32
