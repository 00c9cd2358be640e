import ReleasePilot.Program.Printing
import ReleasePilot.Program.Reading
import ReleasePilot.Text.Integer

/-!
# Files and directories

These utilities list the tree and make, copy, move and remove its entries.
-/

namespace ReleasePilot.Utility

/-! ## Listing -/

/-- The names that a directory is listed with. -/
def listing (usage : Usage) (tree : Tree) (location : Location) : List RawText :=
  let names := (tree.namesIn location).map RawText.ofText
  if usage.has 'a' then "." :: ".." :: names
  else if usage.has 'A' then names
  else names.filter (!·.startsWith ".")

/-- A name with a sign for what it stands for, if options ask for one. -/
def marked (usage : Usage) (tree : Tree) (path name : RawText) : RawText :=
  match tree.entryAt? (RawText.toText path) with
  | some .directory => if usage.hasAny "pF" then name ++ "/" else name
  | some (.link _) => if usage.has 'F' then name ++ "@" else name
  | some (.file _ true) => if usage.has 'F' then name ++ "*" else name
  | _ => name

/-- Lists files and the contents of directories. -/
def ls : Utility := fun launch =>
  withUsage launch { flags := "aAdprF1", failure := 2 } fun usage =>
    let inOrder (names : List RawText) : List RawText :=
      if usage.has 'r' then names.reverse else names
    let paths :=
      if usage.operands = [] then ["."] else inOrder (usage.operands.mergeSort (· ≤ ·))
    let isListed (path : RawText) : Bool :=
      !usage.has 'd' && launch.tree.followedAt? (RawText.toText path) == some .directory
    let found := paths.filter fun path => (launch.tree.entryAt? (RawText.toText path)).isSome
    let complaints := (usage.operands.filter (!found.contains ·)).map fun path =>
      let fault :=
        match launch.tree.locate (RawText.toText path) with
        | .error fault => fault
        | .ok _ => .notFound
      launch.name ++ ": cannot access " ++ quoted path ++ ": " ++ wording fault ++ "\n"
    let files := (found.filter (!isListed ·)).map fun path =>
      marked usage launch.tree path path ++ "\n"
    let directories := (found.filter isListed).map fun path =>
      let names :=
        match launch.tree.locate (RawText.toText path) with
        | .ok location =>
          (inOrder (listing usage launch.tree location)).map fun name =>
            marked usage launch.tree (joinPath path name) name
        | .error _ => []
      (if paths.length > 1 then path ++ ":\n" else "") ++ String.join (names.map (· ++ "\n"))
    let blocks := (if files = [] then [] else [String.join files]) ++ directories
    { status := .code (if complaints = [] then 0 else 2)
      output := RawText.bytes ("\n".intercalate blocks)
      errors := RawText.bytes (String.join complaints), tree := launch.tree }

/-! ## Changing entries -/

/-- A change of the tree, which may stop with a complaint. What was changed
before stays so. -/
abbrev Change := ExceptT RawText (StateM Tree) Unit

/-- Changes the tree for one item after the other, complaining where it cannot. -/
def changeEach {Item : Type} (launch : Launch) (items : List Item) (change : Item → Change) :
    Completion :=
  items.foldl (fun completion item =>
    let (result, tree) := (change item).run completion.tree
    let completion := { completion with tree }
    match result with
    | .ok () => completion
    | .error complaint => completion.complaining { launch with merged := false } complaint 1)
    { tree := launch.tree }

/-- Something that cannot be done because of a fault is complained about. -/
def because {Value : Type} (phrase : RawText) (result : Except Fault Value) :
    ExceptT RawText (StateM Tree) Value :=
  match result with
  | .ok value => pure value
  | .error fault => throw (phrase ++ ": " ++ wording fault)

/-- Runs a change of the operands, of which there has to be one. -/
def withOperands (launch : Launch) (rules : OptionRules) (what : RawText)
    (run : Usage → Completion) : Completion :=
  withUsage launch rules fun usage =>
    if usage.operands = [] then misused launch ("missing " ++ what) 1 else run usage

/-- Makes the files that are not there. -/
def touch : Utility := fun launch =>
  withOperands launch { flags := "acfhm", valued := "drt" } "file operand" fun usage =>
    changeEach launch usage.operands fun path => do
      let tree ← get
      let text := RawText.toText path
      unless tree.pathExists text ∨ usage.has 'c' do
        match tree.writableLocation text with
        | .ok location => set (tree.append location ByteArray.empty)
        | .error .isDirectory =>
          throw ("setting times of " ++ quoted path ++ ": " ++ wording .notFound)
        | .error fault => throw ("cannot touch " ++ quoted path ++ ": " ++ wording fault)

/-- Makes a directory. -/
def makeDirectory (tree : Tree) (path : String) : Except Fault Tree := do
  let location ← tree.locate (withoutSlashes path)
  match tree.lookup location with
  | some _ => .error .alreadyExists
  | none => return tree.put location .directory

/-- Makes a directory and those above it, as far as they are not there. -/
def makeDirectories (tree : Tree) (path : String) : Except Fault Tree :=
  let names := pathNames (withoutSlashes path)
  (List.range names.length).foldlM (fun tree count =>
    let above := "/".intercalate (names.take (count + 1))
    match above, tree.followedAt? above with
    | "", _ | _, some .directory => .ok tree
    | _, some _ => .error (if count + 1 = names.length then .alreadyExists else .notDirectory)
    | _, none => makeDirectory tree above) tree

/-- Makes directories. -/
def mkdir : Utility := fun launch =>
  withOperands launch { flags := "p", valued := "m" } "operand" fun usage =>
    let make := if usage.has 'p' then makeDirectories else makeDirectory
    changeEach launch usage.operands fun path => do
      set (← because ("cannot create directory " ++ typographic path)
        (make (← get) (RawText.toText path)))

/-- Whether the last name of a path stands for its directory or the one above. -/
def endsInDots (path : RawText) : Bool :=
  let last := (pathNames (withoutSlashes path)).getLast?.getD ""
  last == "." || last == ".."

/-- Removes files, and directories on request. -/
def rm : Utility := fun launch =>
  withUsage launch { flags := "dfiIrR" } fun usage =>
    let force := usage.has 'f'
    if usage.operands = [] then
      if force then { tree := launch.tree } else misused launch "missing operand" 1
    else
      changeEach launch usage.operands fun path => do
        let tree ← get
        let phrase := "cannot remove " ++ quoted path
        if endsInDots path && usage.hasAny "rR" then
          throw ("refusing to remove '.' or '..' directory: skipping " ++ quoted path)
        match tree.locateEntry (RawText.toText path) with
        | .error fault =>
          unless force ∧ (fault = .notFound ∨ fault = .notDirectory) do
            because phrase (.error fault)
        | .ok location =>
          match tree.lookup location with
          | none => unless force do because phrase (.error .notFound)
          | some .directory =>
            if usage.hasAny "rR" then set (tree.erase location)
            else if !usage.has 'd' then because phrase (.error .isDirectory)
            else if (tree.namesIn location).isEmpty then set (tree.erase location)
            else throw (phrase ++ ": Directory not empty")
          | some _ => set (tree.erase location)

/-- Removes a directory that is empty. -/
def removeDirectory (path : RawText) : Change := do
  let tree ← get
  let phrase := "failed to remove " ++ quoted path
  let location ← because phrase (tree.locateEntry (RawText.toText (withoutSlashes path)))
  let last := (pathNames (withoutSlashes path)).getLast?
  match tree.lookup location with
  | some .directory =>
    if last = some "." then throw (phrase ++ ": Invalid argument")
    else if last = some ".." ∨ ¬(tree.namesIn location).isEmpty then
      throw (phrase ++ ": Directory not empty")
    else set (tree.erase location)
  | some _ => because phrase (.error .notDirectory)
  | none => because phrase (.error .notFound)

/-- Removes directories that are empty, and those above them on request. -/
def rmdir : Utility := fun launch =>
  withOperands launch { flags := "p" } "operand" fun usage =>
    changeEach launch usage.operands fun path => do
      let names := pathNames (withoutSlashes path)
      let count := if usage.has 'p' then names.length else 1
      for dropped in List.range count do
        removeDirectory (if dropped = 0 then path else
          "/".intercalate (names.take (names.length - dropped)))

/-! ## Copying and moving -/

/-- The entries at and below a location, each with the way to it from there. -/
def below (tree : Tree) (location : Location) : List (Location × Entry) :=
  tree.entries.filterMap fun (place, entry) =>
    if location.isPrefixOf place then some (place.drop location.length, entry) else none

/-- The place that something gets when it is put at a path: in it, if it is a directory. -/
def targetPath (tree : Tree) (source target : RawText) : RawText :=
  if tree.followedAt? (RawText.toText target) = some .directory then
    joinPath (withoutSlashes target) (lastName "" source)
  else target

/-- Runs a change of each source, given the target, which is the last operand.
Several sources need a directory. -/
def withTarget (launch : Launch) (rules : OptionRules)
    (change : Usage → RawText → RawText → Change) : Completion :=
  withOperands launch rules "file operand" fun usage =>
    let sources := usage.operands.dropLast
    let target := usage.operands.getLast?.getD ""
    let run := changeEach launch sources fun source => change usage source target
    match sources, launch.tree.followedAt? (RawText.toText target) with
    | [], _ => misused launch ("missing destination file operand after " ++ quoted target) 1
    | [_], _ | _, some .directory => run
    | _, none => launch.failing ("target " ++ quoted target ++ ": " ++ wording .notFound) 1
    | _, some _ => launch.failing ("target " ++ quoted target ++ ": Not a directory") 1

/-- Copies a directory with all that is in it to a path. -/
def copyDirectory (source place : RawText) (location : Location) : Change := do
  let tree ← get
  let there ← because ("cannot create directory " ++ quoted place)
    (tree.locate (RawText.toText (withoutSlashes place)))
  if (tree.lookup there).any (· != .directory) then
    throw ("cannot overwrite non-directory " ++ quoted place ++ " with directory " ++
      quoted source)
  set ((below tree location).foldl (fun tree (way, entry) => tree.put (there ++ way) entry)
    (tree.put there .directory))
  if location.isPrefixOf there then
    throw ("cannot copy a directory, " ++ quoted source ++ ", into itself, " ++ quoted place)

/-- Copies a link itself to a path. -/
def copyLink (place : RawText) (link : Entry) : Change := do
  let tree ← get
  let phrase := "cannot create symbolic link " ++ quoted place
  let there ← because phrase (tree.locateEntry (RawText.toText place))
  if place.endsWith "/" ∧ ¬tree.contains there then because phrase (.error .notFound)
  set ((tree.erase there).put there link)

/-- Copies contents to a path. A file that is there already stays what it is otherwise. -/
def copyFile (source place : RawText) (location : Location) (contents : ByteArray)
    (executable : Bool) : Change := do
  let tree ← get
  let found := (tree.writableLocation (RawText.toText place)).mapError fun fault =>
    if fault = .isDirectory ∧ place.endsWith "/" then .notDirectory else fault
  let there ← because ("cannot create regular file " ++ quoted place) found
  if there = location then
    throw (quoted source ++ " and " ++ quoted place ++ " are the same file")
  else if tree.contains there then set (tree.overwrite there contents)
  else set (tree.put there (.file contents executable))

/-- Copies files, and directories on request. -/
def cp : Utility := fun launch =>
  withTarget launch { flags := "afinpPrR" } fun usage source target => do
    let tree ← get
    let place := targetPath tree source target
    let cannotStat := "cannot stat " ++ quoted source
    let whole := usage.hasAny "rRa"
    let itself := tree.entryAt? (RawText.toText source)
    match itself, whole || usage.has 'P' with
    | some (.link target), true => copyLink place (.link target)
    | _, _ =>
      let location ← because cannotStat (tree.locate (RawText.toText source))
      match tree.lookup location with
      | some .directory =>
        if whole then copyDirectory source place location
        else throw ("-r not specified; omitting directory " ++ quoted source)
      | some (.file contents executable) => copyFile source place location contents executable
      | some (.service .void) => copyFile source place location ByteArray.empty false
      | _ => because cannotStat (.error .notFound)

/-- Moves entries. -/
def mv : Utility := fun launch =>
  withTarget launch { flags := "finT" } fun _ source target => do
    let tree ← get
    let place := targetPath tree source target
    let cannotStat := "cannot stat " ++ quoted source
    let location ← because cannotStat
      (tree.locateEntry (RawText.toText (withoutSlashes source)))
    let phrase := "cannot move " ++ quoted source ++ " to " ++ quoted place
    let there ← because phrase (tree.locateEntry (RawText.toText (withoutSlashes place)))
    let moved : Tree :=
      (below tree location).foldl (fun tree (way, entry) => tree.put (there ++ way) entry)
        ((tree.erase there).erase location)
    match tree.lookup location, tree.lookup there with
    | none, _ => because cannotStat (.error .notFound)
    | some .directory, found =>
      if there = location then
        throw (quoted source ++ " and " ++ quoted place ++ " are the same file")
      else if found.any (· != .directory) then
        throw ("cannot overwrite non-directory " ++ quoted place ++ " with directory " ++
          quoted source)
      else if ["/.", "/.."].any fun dots => ("/" ++ withoutSlashes source).endsWith dots then
        throw (phrase ++ ": Device or resource busy")
      else if location.isPrefixOf there then
        throw ("cannot move " ++ quoted source ++ " to a subdirectory of itself, " ++
          quoted place)
      else if found.isSome ∧ ¬(tree.namesIn there).isEmpty then
        throw (phrase ++ ": Directory not empty")
      else set moved
    | some _, found =>
      if there = location then
        throw (quoted source ++ " and " ++ quoted place ++ " are the same file")
      else if found = some .directory then
        throw ("cannot overwrite directory " ++ quoted place ++ " with non-directory")
      else if place.endsWith "/" then because phrase (.error .notDirectory)
      else set moved

/-- Makes links, or second copies of files. -/
def ln : Utility := fun launch =>
  withOperands launch { flags := "fnsT" } "file operand" fun usage =>
    let symbolic := usage.has 's'
    let kind := if symbolic then "symbolic link " else "hard link "
    let (sources, target) :=
      match usage.operands with
      | [only] => ([only], ".")
      | words => (words.dropLast, words.getLast?.getD "")
    changeEach launch sources fun source => do
      let tree ← get
      let place := targetPath tree source target
      let phrase := "failed to create " ++ kind ++ quoted place
      let cannotAccess := "failed to access " ++ quoted source
      let linked ←
        if symbolic then pure (Entry.link (RawText.toText source))
        else
          let location ← because cannotAccess (tree.locateEntry (RawText.toText source))
          match tree.lookup location with
          | some .directory =>
            throw (quotedIfNeeded source ++ ": hard link not allowed for directory")
          | some entry => pure entry
          | none => because cannotAccess (.error .notFound)
      let reaching := if symbolic then phrase else phrase ++ " => " ++ quoted source
      let there ← because reaching (tree.locateEntry (RawText.toText place))
      let isSame :=
        usage.has 'f' && (tree.locate (RawText.toText source)).toOption == some there
      if isSame then
        throw (quoted source ++ " and " ++ quoted place ++ " are the same file")
      let tree := if usage.has 'f' then tree.erase there else tree
      if tree.contains there then because phrase (.error .alreadyExists)
      else set (tree.put there linked)

/-! ## Permissions and contents -/

/-- Whether a word is a mode: an octal number or changes of permissions. -/
def isMode (word : RawText) : Bool :=
  let isChange (change : List Char) : Bool :=
    match change.dropWhile "ugoa".toList.contains with
    | sign :: letters => "+-=".toList.contains sign && letters.all "rwxXstugo".toList.contains
    | [] => false
  (word.toList.length ≤ 5 && !word.isEmpty && word.toList.all Format.isOctalDigit) ||
    (Text.splitAt ',' word.toList).all isChange

/-- Whether a mode makes a file executable, if it says so. -/
def madeExecutable? (mode : RawText) : Option Bool :=
  let text := mode.toList
  match Text.natural? text with
  | some value => some (text.any "1357".toList.contains && value ≠ 0)
  | none =>
    if !text.contains 'x' then none
    else if text.contains '-' then some false
    else some true

/-- Whether a word is an option of a program whose other words may be modes
that begin like one. -/
def isModeOption (word : RawText) : Bool :=
  Usage.isOption word && !isMode word

/-- Changes whether files can be executed. -/
def chmod : Utility := fun launch =>
  match launch.arguments.filter (!isModeOption ·) with
  | [] => misused launch "missing operand" 1
  | [mode] => misused launch ("missing operand after " ++ typographic mode) 1
  | mode :: paths =>
    if !isMode mode then misused launch ("invalid mode: " ++ typographic mode) 1
    else changeEach launch paths fun path => do
      let tree ← get
      let phrase := "cannot access " ++ quoted path
      let location ← because phrase (tree.locate (RawText.toText path))
      match tree.lookup location, madeExecutable? mode with
      | some (.file contents _), some executable =>
        set (tree.put location (.file contents executable))
      | some _, _ => pure ()
      | none, _ =>
        if (tree.entryAt? (RawText.toText path)).isSome then
          throw ("cannot operate on dangling symlink " ++ quoted path)
        else because phrase (.error .notFound)

/-- Prints its input and writes it to files. -/
def tee : Utility := fun launch =>
  withUsage launch { flags := "aip" } fun usage =>
    let completion := changeEach launch usage.operands fun path => do
      let tree ← get
      let location ← because (quotedIfNeeded path) (tree.writableLocation (RawText.toText path))
      set (if usage.has 'a' then tree.append location launch.input
        else tree.overwrite location launch.input)
    { completion with output := launch.input, unread := some ByteArray.empty }

/-- Prints where links lead to. -/
def readlink : Utility := fun launch =>
  withOperands launch { flags := "femnqsvz" } "operand" fun usage =>
    let tree := launch.tree
    let target? (path : RawText) : Option String :=
      if usage.hasAny "fem" then
        let location? := (tree.locate (RawText.toText path)).toOption
        let isThere := location?.any tree.contains
        if usage.has 'e' ∧ ¬isThere then none else location?.map Tree.pathOf
      else
        match tree.entryAt? (RawText.toText path) with
        | some (.link target) => some target
        | _ => none
    let targets := usage.operands.filterMap target?
    let ending := if usage.has 'n' ∧ usage.operands.length = 1 then "" else "\n"
    { launch.printing (String.join (targets.map fun target => RawText.ofText target ++ ending))
      with status := .code (if targets.length = usage.operands.length then 0 else 1) }

end ReleasePilot.Utility
